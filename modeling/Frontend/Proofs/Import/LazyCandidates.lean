import Frontend.Proofs.Import.LazyOrder

/-!
# The candidates below the lazily used paths

Of the candidates of an import those below the lazily used paths come last, so that the order of these
paths decides nothing but which of them is found first. Two facts follow. Where no two of the paths
hold the file that is looked for, their order decides nothing at all. And a path that has led to a
file leads to it again from the front, since nothing before it has become a file by the move.
-/

namespace Frontend.Resolver

/-! ## What comes last -/

/-- The file that a name asks for, unless that is absolute. -/
def relativeFile? (resolver : Resolver) (name : String) : Option Path :=
  if (resolver.fileFor name).isAbsolute then none else some (resolver.fileFor name)

/-- The file that an import looks for below the lazily used paths, if it comes to that. It never does
for an absolute name or a name of the standard library. -/
def lazyFile? (resolver : Resolver) (specifier : String) : Option Path :=
  match afterMark? packageMark specifier with
  | some name => resolver.relativeFile? name
  | none =>
      match afterMark? stdlibMark specifier with
      | some _ => none
      | none => resolver.relativeFile? specifier

/-- The candidates for a file below the lazily used paths: as written, and then in lower case. -/
def lazyCandidates (resolver : Resolver) : Option Path → List Candidate
  | none => []
  | some file => resolver.lazyPathCandidates file ++ resolver.lazyPathCandidates (lowered file)

/-- The candidates for an import that are not below the lazily used paths. -/
def fixedCandidates (resolver : Resolver) (specifier : String) (importer : Path)
    (outsideLibrary : Bool) : List Candidate :=
  { resolver with lazyPaths := [] }.importCandidates specifier importer outsideLibrary

variable (resolver : Resolver) (tree : FileTree)

theorem searchCandidates_eq_append (name : String) (outsideLibrary : Bool) :
    resolver.searchCandidates name outsideLibrary =
      { resolver with lazyPaths := [] }.searchCandidates name outsideLibrary ++
        resolver.lazyCandidates (resolver.relativeFile? name) := by
  have sameFile : { resolver with lazyPaths := [] }.fileFor name = resolver.fileFor name := rfl
  unfold searchCandidates relativeFile?
  rw [sameFile]
  by_cases absolute : (resolver.fileFor name).isAbsolute = true
  · simp only [if_pos absolute, lazyCandidates, List.append_nil]
  · simp only [if_neg absolute, lazyCandidates, lazyPathCandidates, List.map_nil, List.append_nil,
      List.append_assoc]
    rfl

theorem importCandidates_eq_append (specifier : String) (importer : Path)
    (outsideLibrary : Bool) :
    resolver.importCandidates specifier importer outsideLibrary =
      resolver.fixedCandidates specifier importer outsideLibrary ++
        resolver.lazyCandidates (resolver.lazyFile? specifier) := by
  unfold fixedCandidates importCandidates lazyFile?
  cases afterMark? packageMark specifier with
  | some name => exact resolver.searchCandidates_eq_append name true
  | none =>
      cases afterMark? stdlibMark specifier with
      | some name => exact (List.append_nil _).symm
      | none => exact congrArg (_ :: ·) (resolver.searchCandidates_eq_append specifier outsideLibrary)

theorem firstFile?_importCandidates (specifier : String) (importer : Path)
    (outsideLibrary : Bool) :
    firstFile? tree (resolver.importCandidates specifier importer outsideLibrary) =
      (firstFile? tree (resolver.fixedCandidates specifier importer outsideLibrary)).or
        (firstFile? tree (resolver.lazyCandidates (resolver.lazyFile? specifier))) := by
  rw [importCandidates_eq_append, firstFile?_append]

/-- What is remembered of packages offers no candidates. -/
theorem importCandidates_remembering (known : List (List Path.Component × Option Path))
    (specifier : String) (importer : Path) (outsideLibrary : Bool) :
    { resolver with knownDescriptors := known }.importCandidates specifier importer
        outsideLibrary = resolver.importCandidates specifier importer outsideLibrary :=
  rfl

variable {resolver tree}

/-! ## Another order -/

variable (tree) in
/-- No two of the directories hold the file. -/
def HeldOnce (directories : List Path) (file : Path) : Prop :=
  ∀ first ∈ directories, ∀ second ∈ directories,
    tree.isFile (first.join file) = true → tree.isFile (second.join file) = true → first = second

instance (directories : List Path) (file : Path) : Decidable (HeldOnce tree directories file) :=
  inferInstanceAs (Decidable (∀ first ∈ directories, ∀ second ∈ directories, _ → _ → _))

/-- What is found in a list does not depend on its order, if there is no choice. -/
theorem find?_eq_of_perm {α : Type} {found : α → Bool} {list other : List α}
    (perm : other.Perm list)
    (once : ∀ first ∈ list, ∀ second ∈ list, found first = true → found second = true →
      first = second) :
    other.find? found = list.find? found := by
  cases hit : list.find? found with
  | none =>
      rw [List.find?_eq_none] at hit ⊢
      exact fun element member => hit element (perm.mem_iff.mp member)
  | some element =>
      have holds := List.find?_some hit
      have member := List.mem_of_find?_eq_some hit
      cases hit' : other.find? found with
      | none => exact absurd holds (List.find?_eq_none.mp hit' element (perm.mem_iff.mpr member))
      | some element' =>
          have member' := perm.mem_iff.mp (List.mem_of_find?_eq_some hit')
          exact congrArg some (once element' member' element member (List.find?_some hit') holds)

theorem firstFile?_lazyPathCandidates_of_perm {paths : List Path}
    (perm : paths.Perm resolver.lazyPaths) {file : Path}
    (once : HeldOnce tree resolver.lazyPaths file) :
    firstFile? tree ({ resolver with lazyPaths := paths }.lazyPathCandidates file) =
      firstFile? tree (resolver.lazyPathCandidates file) := by
  rw [firstFile?_lazyPathCandidates, firstFile?_lazyPathCandidates, find?_eq_of_perm perm once]

variable (resolver tree) in
/-- No two lazily used paths hold the file that an import looks for there, and no two hold it in lower
case. -/
def IsUnambiguous (specifier : String) : Prop :=
  ∀ file ∈ resolver.lazyFile? specifier,
    HeldOnce tree resolver.lazyPaths file ∧ HeldOnce tree resolver.lazyPaths (lowered file)

instance (specifier : String) : Decidable (resolver.IsUnambiguous tree specifier) :=
  inferInstanceAs (Decidable (∀ file ∈ resolver.lazyFile? specifier, _ ∧ _))

/-- The first file of an unambiguous import is the same in every order of the lazily used paths. -/
theorem firstFile?_importCandidates_of_perm {paths : List Path}
    (perm : paths.Perm resolver.lazyPaths) {specifier : String}
    (unambiguous : resolver.IsUnambiguous tree specifier) (importer : Path)
    (outsideLibrary : Bool) :
    firstFile? tree
        ({ resolver with lazyPaths := paths }.importCandidates specifier importer outsideLibrary) =
      firstFile? tree (resolver.importCandidates specifier importer outsideLibrary) := by
  have sameFile : { resolver with lazyPaths := paths }.lazyFile? specifier =
      resolver.lazyFile? specifier := rfl
  have sameFixed : { resolver with lazyPaths := paths }.fixedCandidates specifier importer
      outsideLibrary = resolver.fixedCandidates specifier importer outsideLibrary := rfl
  rw [firstFile?_importCandidates, firstFile?_importCandidates resolver, sameFile, sameFixed]
  congr 1
  cases file? : resolver.lazyFile? specifier with
  | none => rfl
  | some file =>
      obtain ⟨once, onceInLowerCase⟩ := unambiguous file file?
      simp only [lazyCandidates, firstFile?_append, firstFile?_lazyPathCandidates_of_perm perm once,
        firstFile?_lazyPathCandidates_of_perm perm onceInLowerCase]

/-! ## After a hit -/

/-- With the path in front that led to a file, the first file below the lazily used paths is still the
same. What was looked for in vain before is not found in another order either. -/
theorem firstFile?_lazyCandidates_afterHit {file? : Option Path} {directory hit : Path}
    (first : firstFile? tree (resolver.lazyCandidates file?) = some ⟨.lazyPath directory, hit⟩) :
    firstFile? tree ((resolver.afterHit (.lazyPath directory)).lazyCandidates file?) =
      some ⟨.lazyPath directory, hit⟩ := by
  cases file? with
  | none => cases first
  | some file =>
      simp only [lazyCandidates, firstFile?_append, firstFile?_lazyPathCandidates,
        Option.or_eq_some_iff, Option.map_eq_some_iff, Option.map_eq_none_iff] at first ⊢
      rcases first with ⟨holder, found, isHit⟩ | ⟨nowhere, holder, found, isHit⟩
      · cases isHit
        have holds := List.find?_some found
        exact Or.inl ⟨directory, List.find?_cons_of_pos holds, rfl⟩
      · cases isHit
        have holds := List.find?_some found
        have moved := List.perm_cons_erase (List.mem_of_find?_eq_some found)
        refine Or.inr ⟨?_, directory, List.find?_cons_of_pos holds, rfl⟩
        rw [List.find?_eq_none] at nowhere ⊢
        exact fun other member => nowhere other (moved.mem_iff.mpr member)

/-- The import finds the same candidate again after it was found. -/
theorem firstFile?_importCandidates_afterHit {specifier : String} {importer : Path}
    {outsideLibrary : Bool} {candidate : Candidate}
    (first : firstFile? tree (resolver.importCandidates specifier importer outsideLibrary) =
      some candidate) :
    firstFile? tree ((resolver.afterHit candidate.origin).importCandidates specifier importer
      outsideLibrary) = some candidate := by
  obtain ⟨origin, hit⟩ := candidate
  cases origin with
  | absolute | neighbour | library | searchPath => exact first
  | lazyPath directory =>
      have sameFile : (resolver.afterHit (.lazyPath directory)).lazyFile? specifier =
          resolver.lazyFile? specifier := rfl
      have sameFixed : (resolver.afterHit (.lazyPath directory)).fixedCandidates specifier importer
          outsideLibrary = resolver.fixedCandidates specifier importer outsideLibrary := rfl
      rw [firstFile?_importCandidates, Option.or_eq_some_iff] at first ⊢
      rw [sameFile, sameFixed]
      rcases first with elsewhere | ⟨nowhere, lazy⟩
      · exact Or.inl elsewhere
      · exact Or.inr ⟨nowhere, firstFile?_lazyCandidates_afterHit lazy⟩

end Frontend.Resolver
