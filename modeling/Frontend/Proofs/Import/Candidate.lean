import Frontend.Import.Search

/-!
# The candidates of an import

The places where an import may find its file form one list, in order of preference, which is written
down here without a look at the file tree. Resolution takes the first of them that is a regular file.
It comes about in several searches, one after the other, some of which stop early and one of which
moves a lazily used path to the front; the list says that they act as a single search.

Each candidate carries its origin, so that one can tell which search has found it.
-/

namespace Frontend.Resolver

/-- Which search offers a candidate. -/
inductive Origin where
  /-- The name is absolute. -/
  | absolute
  /-- The file lies next to the importing module. -/
  | neighbour
  /-- The file lies in a standard directory of the library. -/
  | library (directory : String)
  | searchPath (directory : Path)
  | lazyPath (directory : Path)
deriving DecidableEq

/-- A place where a file may be. -/
structure Candidate where
  origin : Origin
  file : Path
deriving DecidableEq

/-! ## The lists -/

/-- A file name in lower case. -/
def lowered (file : Path) : Path :=
  ⟨Text.lowercase file.text⟩

/-- A file below the search paths, those in the library possibly left out. -/
def searchPathCandidates (resolver : Resolver) (outsideLibrary : Bool) (file : Path) :
    List Candidate :=
  (resolver.searchPaths.filter fun directory =>
    !(outsideLibrary && resolver.inLibrary directory)).map fun directory =>
      ⟨.searchPath directory, directory.join file⟩

/-- A file below the lazily used paths. -/
def lazyPathCandidates (resolver : Resolver) (file : Path) : List Candidate :=
  resolver.lazyPaths.map fun directory => ⟨.lazyPath directory, directory.join file⟩

/-- The candidates for a name that is searched for: an absolute one stands for itself, any other is
looked for below the search paths and then below the lazily used ones, in each as written and then
in lower case. -/
def searchCandidates (resolver : Resolver) (name : String) (outsideLibrary : Bool) :
    List Candidate :=
  let file := resolver.fileFor name
  if file.isAbsolute then [⟨.absolute, file⟩]
  else
    resolver.searchPathCandidates outsideLibrary file ++
      resolver.searchPathCandidates outsideLibrary (lowered file) ++
      resolver.lazyPathCandidates file ++
      resolver.lazyPathCandidates (lowered file)

/-- The candidates for a name of the standard library; there are none while no library is set. -/
def libraryCandidates (resolver : Resolver) (name : String) : List Candidate :=
  if resolver.library.isEmpty then []
  else
    resolver.standardDirs.map fun directory =>
      ⟨.library directory, (resolver.library.join ⟨directory⟩).join (resolver.fileFor name)⟩

/-- The candidates for an import in a module of the directory `importer`. -/
def importCandidates (resolver : Resolver) (specifier : String) (importer : Path)
    (outsideLibrary : Bool) : List Candidate :=
  match afterMark? packageMark specifier with
  | some name => resolver.searchCandidates name true
  | none =>
      match afterMark? stdlibMark specifier with
      | some name => resolver.libraryCandidates name
      | none =>
          ⟨.neighbour, importer.join (resolver.fileFor specifier)⟩ ::
            resolver.searchCandidates specifier outsideLibrary

/-- The first candidate that is a regular file. -/
def firstFile? (tree : FileTree) (candidates : List Candidate) : Option Candidate :=
  candidates.find? fun candidate => tree.isFile candidate.file

/-- The resolver after a hit: a lazily used path that led to it moves to the front. -/
def afterHit (resolver : Resolver) : Origin → Resolver
  | .lazyPath directory =>
      { resolver with lazyPaths := directory :: resolver.lazyPaths.erase directory }
  | .absolute | .neighbour | .library _ | .searchPath _ => resolver

/-- The canonical path of the first candidate that is a regular file, and the resolver after it. -/
def takeFirst (resolver : Resolver) (tree : FileTree) (candidates : List Candidate) :
    Option Path × Resolver :=
  match firstFile? tree candidates with
  | some candidate => (some (tree.canonicalOr candidate.file), resolver.afterHit candidate.origin)
  | none => (none, resolver)

/-- What is given for a path by its package and its module name, unless it is empty. -/
def replacement? (resolver : Resolver) (tree : FileTree) (path : Path) : Option Path := do
  let module ← path.stem?
  let replacement ← resolver.overrides.find? ((resolver.packageOf tree path).1, module)
  if replacement.isEmpty then none else some replacement

variable (resolver : Resolver) (tree : FileTree)

theorem importCandidates_package (name : String) (importer : Path) (outsideLibrary : Bool) :
    resolver.importCandidates (packageMark ++ name) importer outsideLibrary =
      resolver.searchCandidates name true := by
  have package : afterMark? packageMark (packageMark ++ name) = some name := by
    have length : "pkg/".length = 4 := rfl
    simp [afterMark?, packageMark, String.toList_append, length]
  rw [importCandidates, package]

theorem importCandidates_stdlib (name : String) (importer : Path) (outsideLibrary : Bool) :
    resolver.importCandidates (stdlibMark ++ name) importer outsideLibrary =
      resolver.libraryCandidates name := by
  have noPackage : afterMark? packageMark (stdlibMark ++ name) = none := by
    simp [afterMark?, packageMark, stdlibMark, String.toList_append]
  have library : afterMark? stdlibMark (stdlibMark ++ name) = some name := by
    have length : "std/".length = 4 := rfl
    simp [afterMark?, stdlibMark, String.toList_append, length]
  rw [importCandidates, noPackage]
  simp only [library]

theorem firstFile?_append (first second : List Candidate) :
    firstFile? tree (first ++ second) =
      (firstFile? tree first).or (firstFile? tree second) :=
  List.find?_append

/-! ## Each search takes the first file -/

theorem searchHit?_eq_firstFile? (outsideLibrary : Bool) (file : Path) :
    resolver.searchHit? tree outsideLibrary file =
      (firstFile? tree (resolver.searchPathCandidates outsideLibrary file)).map
        Candidate.file := by
  unfold searchHit? searchPathCandidates firstFile?
  induction resolver.searchPaths with
  | nil => rfl
  | cons directory rest ih =>
      rw [List.findSome?_cons, List.filter_cons]
      cases skipped : outsideLibrary && resolver.inLibrary directory with
      | true => simpa using ih
      | false =>
          cases isFile : tree.isFile (directory.join file) with
          | true => simp [isFile]
          | false => simpa [isFile] using ih

/-- A hit in the search paths leaves the resolver alone. -/
theorem searchHit?_map_eq (outsideLibrary : Bool) (file : Path) :
    (resolver.searchHit? tree outsideLibrary file).map (fun hit => (hit, resolver)) =
      (firstFile? tree (resolver.searchPathCandidates outsideLibrary file)).map fun candidate =>
        (candidate.file, resolver.afterHit candidate.origin) := by
  rw [searchHit?_eq_firstFile?, Option.map_map]
  cases found : firstFile? tree (resolver.searchPathCandidates outsideLibrary file) with
  | none => rfl
  | some candidate =>
      have member := List.mem_of_find?_eq_some found
      obtain ⟨directory, -, rfl⟩ := List.mem_map.mp member
      rfl

theorem firstFile?_lazyPathCandidates (file : Path) :
    firstFile? tree (resolver.lazyPathCandidates file) =
      (resolver.lazyPaths.find? fun directory => tree.isFile (directory.join file)).map
        fun directory => ⟨.lazyPath directory, directory.join file⟩ :=
  List.find?_map

/-- The lazily used path of the first file is the first to hold it, so that it is found by its
position and taken out by its value. -/
theorem lazyHit?_eq_firstFile? (file : Path) :
    resolver.lazyHit? tree file =
      (firstFile? tree (resolver.lazyPathCandidates file)).map fun candidate =>
        (candidate.file, resolver.afterHit candidate.origin) := by
  rw [firstFile?_lazyPathCandidates]
  cases found : resolver.lazyPaths.find? fun directory => tree.isFile (directory.join file) with
  | none =>
      have nowhere : resolver.lazyPaths.findIdx? (fun directory =>
          tree.isFile (directory.join file)) = none := by
        rw [List.findIdx?_eq_none_iff]
        intro directory member
        exact Bool.eq_false_iff.mpr (List.find?_eq_none.mp found directory member)
      simp [lazyHit?, nowhere]
  | some directory =>
      obtain ⟨isFile, front, back, split, before⟩ := List.find?_eq_some_iff_append.mp found
      have absent : directory ∉ front := by
        intro member
        simpa [isFile] using before directory member
      have nowhere : front.findIdx? (fun directory =>
          tree.isFile (directory.join file)) = none := by
        rw [List.findIdx?_eq_none_iff]
        intro other member
        simpa using before other member
      have position : resolver.lazyPaths.findIdx? (fun directory =>
          tree.isFile (directory.join file)) = some front.length := by
        simp [split, List.findIdx?_append, nowhere, List.findIdx?_cons, isFile]
      have moved : Recency.promote front.length resolver.lazyPaths =
          directory :: resolver.lazyPaths.erase directory := by
        rw [split, Recency.promote_append, List.erase_append_right _ absent, List.erase_cons_head]
      have here : resolver.lazyPaths[front.length]? = some directory := by
        simp [split]
      simp [lazyHit?, position, here, moved, afterHit]

/-- Where lower case makes no difference the second search of each kind is left out, and would have
found nothing that the first had not. -/
theorem firstHit?_eq_firstFile? (outsideLibrary : Bool) (file : Path) :
    resolver.firstHit? tree outsideLibrary file =
      (firstFile? tree
        (resolver.searchPathCandidates outsideLibrary file ++
          resolver.searchPathCandidates outsideLibrary (lowered file) ++
          resolver.lazyPathCandidates file ++
          resolver.lazyPathCandidates (lowered file))).map fun candidate =>
        (candidate.file, resolver.afterHit candidate.origin) := by
  simp only [firstFile?_append, Option.map_or]
  unfold firstHit?
  simp only [Option.orElse_eq_orElse, Option.orElse_eq_or, searchHit?_map_eq]
  by_cases same : Text.lowercase file.text = file.text
  · have unchanged : lowered file = file := congrArg Path.mk same
    have nothingNew : lowered? file = none := if_pos same
    simp only [nothingNew, unchanged, Option.bind_none, Option.none_or, Option.or_none,
      Option.or_self, Option.or_assoc, lazyHit?_eq_firstFile?]
  · have new : lowered? file = some (lowered file) := if_neg same
    simp only [new, Option.bind_some, Option.or_assoc, lazyHit?_eq_firstFile?]

theorem search_eq_takeFirst (name : String) (outsideLibrary : Bool) :
    resolver.search tree name outsideLibrary =
      resolver.takeFirst tree (resolver.searchCandidates name outsideLibrary) := by
  unfold search searchCandidates takeFirst
  by_cases absolute : (resolver.fileFor name).isAbsolute = true
  · cases isFile : tree.isFile (resolver.fileFor name) with
    | true => simp [absolute, firstFile?, isFile, afterHit]
    | false => simp [absolute, firstFile?, isFile]
  · simp only [if_neg absolute, firstHit?_eq_firstFile?]
    cases firstFile? tree _ with
    | none => rfl
    | some candidate => rfl

theorem searchLibrary?_eq_takeFirst (name : String) :
    (resolver.searchLibrary? tree name, resolver) =
      resolver.takeFirst tree (resolver.libraryCandidates name) := by
  unfold searchLibrary? libraryCandidates takeFirst firstFile?
  by_cases unset : resolver.library.isEmpty = true
  · simp [unset]
  · simp only [if_neg unset]
    induction resolver.standardDirs with
    | nil => rfl
    | cons directory rest ih =>
        rw [List.findSome?_cons, List.map_cons, List.find?_cons]
        cases isFile : tree.isFile
            ((resolver.library.join ⟨directory⟩).join (resolver.fileFor name)) with
        | true => simp [afterHit]
        | false => simpa [isFile] using ih

/-- All three forms of an import take the first of their candidates. -/
theorem locateImport_eq_takeFirst (specifier : String) (importer : Path)
    (outsideLibrary : Bool) :
    resolver.locateImport tree specifier importer outsideLibrary =
      resolver.takeFirst tree
        (resolver.importCandidates specifier importer outsideLibrary) := by
  unfold locateImport importCandidates
  cases afterMark? packageMark specifier with
  | some name => exact resolver.search_eq_takeFirst tree name true
  | none =>
      cases afterMark? stdlibMark specifier with
      | some name => exact resolver.searchLibrary?_eq_takeFirst tree name
      | none =>
          simp only [search_eq_takeFirst]
          unfold takeFirst firstFile?
          cases isFile : tree.isFile (importer.join (resolver.fileFor specifier)) with
          | true => simp [isFile, afterHit]
          | false => simp [isFile]

/-! ## Overrides -/

/-- Moving a lazily used path changes no package, and so no override. -/
theorem replacement?_afterHit (origin : Origin) (path : Path) :
    (resolver.afterHit origin).replacement? tree path = resolver.replacement? tree path := by
  unfold replacement?
  simp only [packageOf_fst]
  cases origin <;> rfl

theorem replacement?_of_isEmpty (none : resolver.overrides.isEmpty = true) (path : Path) :
    resolver.replacement? tree path = Option.none := by
  have nothing : ∀ key, resolver.overrides.find? key = Option.none := by
    intro key
    rw [Dictionary.find?, List.isEmpty_iff.mp none, Dictionary.findIn]
  unfold replacement?
  cases path.stem? <;> simp [nothing]

/-- Without any override the package is not asked for; there is nothing to be found under it. -/
theorem replaceOverridden_fst (path : Path) :
    (resolver.replaceOverridden tree path).1 =
      (resolver.replacement? tree path).getD path := by
  by_cases none : resolver.overrides.isEmpty = true
  · rw [replaceOverridden, if_pos none, resolver.replacement?_of_isEmpty tree none, Option.getD_none]
  · unfold replaceOverridden replacement?
    rw [if_neg none]
    cases path.stem? with
    | none => rfl
    | some module =>
        obtain ⟨known, asked⟩ := resolver.packageOf_snd tree path
        rcases answer : resolver.packageOf tree path with ⟨package, asker⟩
        rw [answer] at asked
        subst asked
        cases given : resolver.overrides.find? (package, module) with
        | none => simp [given]
        | some replacement =>
            by_cases empty : replacement.isEmpty = true
            · simp [given, empty]
            · simp [given, empty]

/-- An override is looked for under a package, if at all. -/
theorem replaceOverridden_snd_eq (path : Path) :
    (resolver.replaceOverridden tree path).2 = resolver ∨
      (resolver.replaceOverridden tree path).2 = (resolver.descriptorOf tree path).2 := by
  unfold replaceOverridden
  split
  · exact Or.inl rfl
  · split
    · exact Or.inl rfl
    · right
      rw [← packageOf_snd_eq]
      rcases resolver.packageOf tree path with ⟨package, asker⟩
      simp only
      split <;> rfl

/-- Looking for an override changes nothing but what is remembered of packages. -/
theorem replaceOverridden_snd (path : Path) :
    ∃ known, (resolver.replaceOverridden tree path).2 =
      { resolver with knownDescriptors := known } := by
  rcases resolver.replaceOverridden_snd_eq tree path with same | asked
  · rw [same]
    exact ⟨resolver.knownDescriptors, rfl⟩
  · rw [asked]
    exact resolver.descriptorOf_snd tree path

/-! ## Resolution -/

theorem resolve_of_firstFile?_eq_none {specifier : String} {importer : Path}
    {outsideLibrary : Bool}
    (nowhere : firstFile? tree (resolver.importCandidates specifier importer outsideLibrary) =
      none) :
    resolver.resolve tree specifier importer outsideLibrary = (none, resolver) := by
  rw [resolve, locateImport_eq_takeFirst, takeFirst, nowhere]

theorem resolve_of_firstFile?_eq_some {specifier : String} {importer : Path}
    {outsideLibrary : Bool} {candidate : Candidate}
    (first : firstFile? tree (resolver.importCandidates specifier importer outsideLibrary) =
      some candidate) :
    resolver.resolve tree specifier importer outsideLibrary =
      (some ((resolver.afterHit candidate.origin).replaceOverridden tree
          (tree.canonicalOr candidate.file)).1,
        ((resolver.afterHit candidate.origin).replaceOverridden tree
          (tree.canonicalOr candidate.file)).2) := by
  rw [resolve, locateImport_eq_takeFirst, takeFirst, first]

/-- Where nothing is overridden, what is found is the canonical path of the first candidate that is a
regular file. -/
theorem exists_firstFile?_of_resolve_eq_some (plain : resolver.overrides.isEmpty = true)
    {specifier : String} {importer : Path} {outsideLibrary : Bool} {path : Path}
    (found : (resolver.resolve tree specifier importer outsideLibrary).1 = some path) :
    ∃ candidate,
      firstFile? tree (resolver.importCandidates specifier importer outsideLibrary) =
        some candidate ∧
      path = tree.canonicalOr candidate.file := by
  cases first : firstFile? tree
      (resolver.importCandidates specifier importer outsideLibrary) with
  | none =>
      rw [resolver.resolve_of_firstFile?_eq_none tree first] at found
      cases found
  | some candidate =>
      rw [resolver.resolve_of_firstFile?_eq_some tree first, replaceOverridden_fst,
        replacement?_afterHit, resolver.replacement?_of_isEmpty tree plain, Option.getD_none] at found
      exact ⟨candidate, rfl, (Option.some.inj found).symm⟩

/-- An import is found exactly if one of its candidates is a regular file. It is then the canonical
path of the first such candidate, or what the override of its package and module puts in place of
that. A lazily used path that led to it moves to the front, and only what is remembered of packages
may change besides. A search in vain changes nothing. -/
theorem resolve_takes_first_candidate (specifier : String) (importer : Path)
    (outsideLibrary : Bool) :
    let candidates := resolver.importCandidates specifier importer outsideLibrary
    let answer := resolver.resolve tree specifier importer outsideLibrary
    (answer.1 = none ↔ ∀ candidate ∈ candidates, tree.isFile candidate.file = false) ∧
      (answer.1 = none → answer.2 = resolver) ∧
      ∀ candidate, firstFile? tree candidates = some candidate →
        let found := tree.canonicalOr candidate.file
        answer.1 = some ((resolver.replacement? tree found).getD found) ∧
          ∃ known, answer.2 =
            { resolver.afterHit candidate.origin with knownDescriptors := known } := by
  intro candidates answer
  cases first : firstFile? tree candidates with
  | none =>
      have inVain : answer = (none, resolver) := resolver.resolve_of_firstFile?_eq_none tree first
      have noFile : ∀ candidate ∈ candidates, tree.isFile candidate.file = false := by
        intro candidate member
        exact Bool.eq_false_iff.mpr (List.find?_eq_none.mp first candidate member)
      rw [inVain]
      refine ⟨iff_of_true rfl noFile, fun _ => rfl, ?_⟩
      rintro candidate ⟨⟩
  | some candidate =>
      have hit : answer = _ := resolver.resolve_of_firstFile?_eq_some tree first
      have found : answer.1 ≠ none := by
        rw [hit]
        exact Option.some_ne_none _
      refine ⟨iff_of_false found ?_, fun absent => absurd absent found, ?_⟩
      · intro noFile
        have isFile := List.find?_some first
        exact Bool.eq_false_iff.mp (noFile candidate (List.mem_of_find?_eq_some first)) isFile
      · rintro _ ⟨rfl⟩
        obtain ⟨known, after⟩ := (resolver.afterHit candidate.origin).replaceOverridden_snd tree
          (tree.canonicalOr candidate.file)
        refine ⟨?_, known, ?_⟩
        · rw [hit, replaceOverridden_fst, replacement?_afterHit]
        · rw [hit, after]

end Frontend.Resolver
