import Frontend.Import.Project
import Frontend.Proofs.Import.Descriptor

/-!
# What a directory offers

A descriptor of a known extension offers the source file of its stem, if that is a file. The
candidates of a directory are collected from its descriptors in the order of their names: a source
file that has been offered already is not taken again, so that the first of its descriptors decides
its rank. Beside that the stems of package descriptors are counted, and a second one ends the search.
-/

namespace Frontend.Project

open Frontend.Descriptor Frontend.FileTree Frontend.Path

/-! ## Candidates -/

/-- The source file of a stem. -/
def mainFile (directory : Path) (stem : String) : Path :=
  directory.join ⟨stem ++ "." ++ mainExtension⟩

/-- A regular file that is read as `stem.extension` lies in the directory, and is not the shared
configuration. -/
def Describes (tree : FileTree) (directory : Path) (stem extension : String) : Prop :=
  stem ≠ "" ∧ stem ++ "." ++ extension ≠ sharedName ∧
    stem ++ "." ++ extension ∈ tree.shownFiles directory

instance (tree : FileTree) (directory : Path) (stem extension : String) :
    Decidable (Describes tree directory stem extension) :=
  inferInstanceAs (Decidable (_ ∧ _ ∧ _))

/-- The source file of a stem is a candidate in a directory: it is a file, and a descriptor of the
stem with a known extension lies there as well. -/
def IsCandidate (tree : FileTree) (directory : Path) (stem : String) : Prop :=
  tree.isFile (mainFile directory stem) = true ∧
    ∃ extension ∈ rankedExtensions, Describes tree directory stem extension

instance (tree : FileTree) (directory : Path) (stem : String) :
    Decidable (IsCandidate tree directory stem) :=
  inferInstanceAs (Decidable (_ ∧ _))

/-- What stands before the extension of a file name. -/
def stemOf (name : String) : String :=
  (splitExtension name).1

/-- A text that can stand before the extension of a file name. -/
def IsStem (stem : String) : Prop :=
  stem ≠ "" ∧ '/' ∉ stem.toList

/-- A known extension is a text without dots. -/
theorem nonempty_of_known {extension : String} (known : extension ∈ rankedExtensions) :
    extension ≠ "" ∧ '.' ∉ extension.toList := by
  revert extension
  decide

variable {tree : FileTree} {directory : Path}

theorem describes_iff {stem extension : String} (known : extension ∈ rankedExtensions) :
    Describes tree directory stem extension ↔
      ⟨stem ++ "." ++ extension, stem, extension⟩ ∈ inDirectory tree directory := by
  obtain ⟨nonempty, whole⟩ := nonempty_of_known known
  rw [mem_inDirectory_iff]
  constructor
  · rintro ⟨isStem, notShared, listed⟩
    exact ⟨listed, notShared, splitExtension_append isStem nonempty whole⟩
  · rintro ⟨listed, notShared, split⟩
    exact ⟨(of_splitExtension_eq split).1, notShared, listed⟩

theorem describes_of_mem_inDirectory {described : Described}
    (member : described ∈ inDirectory tree directory) :
    described.name = described.stem ++ "." ++ described.extension ∧
      Describes tree directory described.stem described.extension := by
  obtain ⟨listed, notShared, split⟩ := mem_inDirectory_iff.mp member
  obtain ⟨nonempty, written⟩ := of_splitExtension_eq split
  exact ⟨written, nonempty, written ▸ notShared, written ▸ listed⟩

/-- Candidates are looked for among the stems of files. -/
theorem forall_isCandidate_iff {property : String → Prop} :
    (∀ stem, IsCandidate tree directory stem → property stem) ↔
      ∀ stem ∈ (tree.shownFiles directory).map stemOf,
        IsCandidate tree directory stem → property stem := by
  constructor
  · intro holds stem _
    exact holds stem
  · intro holds stem isCandidate
    obtain ⟨-, extension, known, isStem, -, listed⟩ := id isCandidate
    obtain ⟨nonempty, whole⟩ := nonempty_of_known known
    refine holds stem (List.mem_map.mpr ⟨_, listed, ?_⟩) isCandidate
    rw [stemOf, splitExtension_append isStem nonempty whole]

theorem isStem_of_mem_inDirectory (proper : tree.HasProperNames) {described : Described}
    (member : described ∈ inDirectory tree directory) : IsStem described.stem := by
  obtain ⟨written, nonempty, -, -⟩ := describes_of_mem_inDirectory member
  obtain ⟨listed, -⟩ := mem_inDirectory_iff.mp member
  refine ⟨nonempty, ?_⟩
  intro slash
  apply proper.slash_notMem listed
  rw [written, String.toList_append, String.toList_append]
  exact List.mem_append_left _ (List.mem_append_left _ slash)

theorem isName_main {stem : String} (isStem : IsStem stem) :
    IsName (stem ++ "." ++ mainExtension) := by
  obtain ⟨nonempty, whole⟩ := isStem
  have long : 2 < (stem ++ "." ++ mainExtension).length := by
    have some : stem.length ≠ 0 := by simpa using nonempty
    have added : ".".length = 1 ∧ mainExtension.length = 3 := ⟨rfl, rfl⟩
    simp only [String.length_append]
    omega
  have other : ∀ short : String, short.length ≤ 2 → stem ++ "." ++ mainExtension ≠ short := by
    rintro short isShort rfl
    omega
  refine ⟨?_, other ".." (by decide), ?_⟩
  · rw [silent, Bool.or_eq_false_iff, beq_eq_false_iff_ne, beq_eq_false_iff_ne]
    exact ⟨other "" (by decide), other "." (by decide)⟩
  · simp [mainExtension, whole]

/-- A candidate is named by its stem. -/
theorem stem?_mainFile {stem : String} (isStem : IsStem stem) (directory : Path) :
    (mainFile directory stem).stem? = some stem := by
  rw [stem?, mainFile, fileName?_join (isName_main isStem), Option.map_some,
    splitExtension_append isStem.1 (by decide) (by decide)]

theorem mainFile_same_iff {stem other : String} (isStem : IsStem stem) (isStem' : IsStem other)
    (directory : Path) :
    (mainFile directory stem).same (mainFile directory other) = true ↔ stem = other := by
  constructor
  · intro same
    have stems := stem?_of_same (same_iff.mp same)
    rw [stem?_mainFile isStem, stem?_mainFile isStem'] at stems
    exact Option.some.inj stems
  · rintro rfl
    exact same_iff.mpr rfl

/-! ## Collecting candidates -/

/-- The candidates of a directory after one more of its descriptors has been looked at. -/
def meet (tree : FileTree) (directory : Path) (candidates : List Candidate)
    (descriptor : Described) : List Candidate :=
  match rankedExtensions.idxOf? descriptor.extension with
  | none => candidates
  | some rank =>
      let main := mainFile directory descriptor.stem
      if tree.isFile main && !candidates.any (·.main.same main) then candidates ++ [⟨rank, main⟩]
      else candidates

/-- The stems of the package descriptors in a list. -/
def packageStems (descriptors : List Described) : List String :=
  (descriptors.filter (·.extension == packageExtension)).map (·.stem)

/-- The first descriptor of a stem with a known extension. -/
def firstOf? (stem : String) (descriptors : List Described) : Option Described :=
  descriptors.find? fun descriptor =>
    descriptor.stem == stem && rankedExtensions.contains descriptor.extension

/-- What a descriptor offers. -/
def offered (directory : Path) (descriptor : Described) : Candidate :=
  ⟨rankedExtensions.idxOf descriptor.extension, mainFile directory descriptor.stem⟩

theorem add?_eq (candidates : List Candidate) (package : Option String)
    (descriptor : Described) :
    Offer.add? tree directory ⟨candidates, package⟩ descriptor =
      if descriptor.extension = packageExtension then
        if package.isSome then none
        else some ⟨meet tree directory candidates descriptor, some descriptor.stem⟩
      else some ⟨meet tree directory candidates descriptor, package⟩ := by
  rw [Offer.add?, meet]
  cases rank : rankedExtensions.idxOf? descriptor.extension with
  | some rank => rfl
  | none =>
      have notPackage : descriptor.extension ≠ packageExtension := by
        rintro package
        rw [package] at rank
        exact absurd rank (by decide)
      rw [if_neg notPackage]

/-- A directory is looked through to the end unless a second package descriptor is met. -/
theorem addAll?_eq (candidates : List Candidate) (package : Option String)
    (descriptors : List Described) :
    Offer.addAll? tree directory ⟨candidates, package⟩ descriptors =
      if (package.toList ++ packageStems descriptors).length ≤ 1 then
        some ⟨descriptors.foldl (meet tree directory) candidates,
          (package.toList ++ packageStems descriptors).head?⟩
      else none := by
  induction descriptors generalizing candidates package with
  | nil => cases package <;> rfl
  | cons descriptor rest ih =>
      rw [Offer.addAll?, add?_eq]
      by_cases isPackage : descriptor.extension = packageExtension
      · cases package with
        | some first => simp [isPackage, packageStems]
        | none => simp [isPackage, packageStems, ih]
      · simp [isPackage, packageStems, ih]

theorem mem_meet_iff {candidates : List Candidate} {descriptor : Described}
    {candidate : Candidate} :
    candidate ∈ meet tree directory candidates descriptor ↔
      candidate ∈ candidates ∨
        (descriptor.extension ∈ rankedExtensions ∧
          tree.isFile (mainFile directory descriptor.stem) = true ∧
          candidates.any (·.main.same (mainFile directory descriptor.stem)) = false ∧
          candidate = offered directory descriptor) := by
  rw [meet]
  cases position : rankedExtensions.idxOf? descriptor.extension with
  | none =>
      have unknown : descriptor.extension ∉ rankedExtensions := List.idxOf?_eq_none_iff.mp position
      simp [unknown]
  | some rank =>
      have known : descriptor.extension ∈ rankedExtensions := by
        rw [← List.isSome_idxOf?, position]
        rfl
      have isOffered : offered directory descriptor =
          ⟨rank, mainFile directory descriptor.stem⟩ := by
        rw [offered, List.idxOf_eq_getD_idxOf?, position]
        rfl
      simp only [known, isOffered, true_and]
      split
      · rename_i isNew
        rw [Bool.and_eq_true, Bool.not_eq_true'] at isNew
        rw [List.mem_append, List.mem_singleton]
        simp [isNew]
      · rename_i notNew
        rw [Bool.and_eq_true, Bool.not_eq_true'] at notNew
        constructor
        · exact Or.inl
        · rintro (member | ⟨isFile, isNew, -⟩)
          · exact member
          · exact absurd ⟨isFile, isNew⟩ notNew

/-! ### The first descriptor of a stem -/

theorem firstOf?_eq_some {stem : String} {descriptors : List Described} {descriptor : Described}
    (first : firstOf? stem descriptors = some descriptor) :
    descriptor ∈ descriptors ∧ descriptor.stem = stem ∧
      descriptor.extension ∈ rankedExtensions := by
  have fits := List.find?_some first
  rw [Bool.and_eq_true, beq_iff_eq, List.contains_iff_mem] at fits
  exact ⟨List.mem_of_find?_eq_some first, fits⟩

theorem firstOf?_concat_eq_some_iff {met : List Described} {last descriptor : Described} :
    firstOf? descriptor.stem (met ++ [last]) = some descriptor ↔
      firstOf? descriptor.stem met = some descriptor ∨
        (firstOf? last.stem met = none ∧ last.extension ∈ rankedExtensions ∧
          descriptor = last) := by
  rw [firstOf?, List.find?_append, ← firstOf?, List.find?_singleton, Option.or_eq_some_iff]
  simp only [Option.ite_none_right_eq_some, Bool.and_eq_true, beq_iff_eq, List.contains_iff_mem,
    Option.some.injEq]
  constructor
  · rintro (before | ⟨none, ⟨-, known⟩, rfl⟩)
    · exact .inl before
    · exact .inr ⟨none, known, rfl⟩
  · rintro (before | ⟨none, known, rfl⟩)
    · exact .inl before
    · exact .inr ⟨none, ⟨rfl, known⟩, rfl⟩

/-- The candidates are those that the descriptors met so far offer, each with the rank of the first
descriptor of its stem. -/
def Collects (tree : FileTree) (directory : Path) (met : List Described)
    (candidates : List Candidate) : Prop :=
  ∀ candidate, candidate ∈ candidates ↔
    ∃ descriptor, firstOf? descriptor.stem met = some descriptor ∧
      tree.isFile (mainFile directory descriptor.stem) = true ∧
      candidate = offered directory descriptor

/-- A source file has been offered exactly when a descriptor of its stem has been met. -/
theorem Collects.isNew_iff {met : List Described} {candidates : List Candidate} {stem : String}
    (collects : Collects tree directory met candidates) (stems : ∀ other ∈ met, IsStem other.stem)
    (isStem : IsStem stem) (isFile : tree.isFile (mainFile directory stem) = true) :
    candidates.any (·.main.same (mainFile directory stem)) = false ↔ firstOf? stem met = none := by
  rw [Bool.eq_false_iff, Ne, List.any_eq_true, ← not_iff_not, not_not, ← Ne,
    Option.ne_none_iff_exists']
  constructor
  · rintro ⟨candidate, member, same⟩
    obtain ⟨first, isFirst, -, rfl⟩ := (collects candidate).mp member
    have isStem' := stems first (firstOf?_eq_some isFirst).1
    rw [offered, mainFile_same_iff isStem' isStem] at same
    exact ⟨first, same ▸ isFirst⟩
  · rintro ⟨first, isFirst⟩
    obtain ⟨-, rfl, -⟩ := firstOf?_eq_some isFirst
    exact ⟨offered directory first, (collects _).mpr ⟨first, isFirst, isFile, rfl⟩,
      same_iff.mpr rfl⟩

/-- A descriptor adds its candidate unless another one of its stem has been met. -/
theorem Collects.meet {met : List Described} {candidates : List Candidate} {descriptor : Described}
    (collects : Collects tree directory met candidates)
    (stems : ∀ other ∈ met ++ [descriptor], IsStem other.stem) :
    Collects tree directory (met ++ [descriptor])
      (meet tree directory candidates descriptor) := by
  rw [List.forall_mem_append, List.forall_mem_singleton] at stems
  obtain ⟨stems, isStem⟩ := stems
  intro candidate
  rw [mem_meet_iff, collects candidate]
  simp only [firstOf?_concat_eq_some_iff]
  constructor
  · rintro (⟨first, isFirst, offers⟩ | ⟨known, isFile, isNew, rfl⟩)
    · exact ⟨first, .inl isFirst, offers⟩
    · have none := (collects.isNew_iff stems isStem isFile).mp isNew
      exact ⟨descriptor, .inr ⟨none, known, rfl⟩, isFile, rfl⟩
  · rintro ⟨first, isFirst | ⟨none, known, rfl⟩, isFile, rfl⟩
    · exact .inl ⟨first, isFirst, isFile, rfl⟩
    · exact .inr ⟨known, isFile, (collects.isNew_iff stems isStem isFile).mpr none, rfl⟩

theorem Collects.foldl {met : List Described} {candidates : List Candidate}
    (collects : Collects tree directory met candidates) (descriptors : List Described)
    (stems : ∀ other ∈ met ++ descriptors, IsStem other.stem) :
    Collects tree directory (met ++ descriptors)
      (descriptors.foldl (Project.meet tree directory) candidates) := by
  induction descriptors generalizing met candidates with
  | nil => rwa [List.append_nil]
  | cons descriptor rest ih =>
      rw [List.foldl_cons]
      rw [List.append_cons] at stems ⊢
      refine ih (collects.meet ?_) stems
      intro other member
      exact stems other (List.mem_append_left rest member)

/-! ## The candidates of a directory -/

/-- The candidates of a directory in the order of their ranks. -/
def gathered (tree : FileTree) (directory : Path) : List Candidate :=
  ((inDirectory tree directory).foldl (meet tree directory) []).mergeSort fun left right =>
    left.rank ≤ right.rank

theorem isCandidate_iff {stem : String} :
    IsCandidate tree directory stem ↔
      tree.isFile (mainFile directory stem) = true ∧
        ∃ first, firstOf? stem (inDirectory tree directory) = some first := by
  refine and_congr_right fun _ => ?_
  rw [← Option.isSome_iff_exists, firstOf?, List.find?_isSome]
  simp only [Bool.and_eq_true, beq_iff_eq, List.contains_iff_mem]
  constructor
  · rintro ⟨extension, known, describes⟩
    exact ⟨_, (describes_iff known).mp describes, rfl, known⟩
  · rintro ⟨descriptor, member, rfl, known⟩
    exact ⟨descriptor.extension, known, (describes_of_mem_inDirectory member).2⟩

theorem mem_gathered_iff (proper : tree.HasProperNames) {candidate : Candidate} :
    candidate ∈ gathered tree directory ↔
      ∃ descriptor, firstOf? descriptor.stem (inDirectory tree directory) = some descriptor ∧
        tree.isFile (mainFile directory descriptor.stem) = true ∧
        candidate = offered directory descriptor := by
  have none : Collects tree directory [] [] := by
    intro candidate
    simp [firstOf?]
  rw [gathered, List.mem_mergeSort]
  refine none.foldl (inDirectory tree directory) ?_ candidate
  intro descriptor member
  exact isStem_of_mem_inDirectory proper member

theorem name_offered (proper : tree.HasProperNames) {descriptor : Described}
    (member : descriptor ∈ inDirectory tree directory) :
    (offered directory descriptor).name = descriptor.stem := by
  rw [Candidate.name, offered, stem?_mainFile (isStem_of_mem_inDirectory proper member)]
  rfl

/-- What is gathered are candidates, named by their stems. -/
theorem exists_stem_of_mem_gathered (proper : tree.HasProperNames) {candidate : Candidate}
    (member : candidate ∈ gathered tree directory) :
    ∃ stem, IsCandidate tree directory stem ∧ candidate.main = mainFile directory stem ∧
      candidate.name = stem := by
  obtain ⟨first, isFirst, isFile, rfl⟩ := (mem_gathered_iff proper).mp member
  exact ⟨first.stem, isCandidate_iff.mpr ⟨isFile, first, isFirst⟩, rfl,
    name_offered proper (firstOf?_eq_some isFirst).1⟩

/-- All candidates are gathered. -/
theorem exists_mem_gathered (proper : tree.HasProperNames) {stem : String}
    (isCandidate : IsCandidate tree directory stem) :
    ∃ candidate ∈ gathered tree directory, candidate.name = stem := by
  obtain ⟨isFile, first, isFirst⟩ := isCandidate_iff.mp isCandidate
  obtain ⟨member, rfl, -⟩ := firstOf?_eq_some isFirst
  exact ⟨offered directory first, (mem_gathered_iff proper).mpr ⟨first, isFirst, isFile, rfl⟩,
    name_offered proper member⟩

theorem gathered_eq_nil_iff (proper : tree.HasProperNames) :
    gathered tree directory = [] ↔ ∀ stem, ¬IsCandidate tree directory stem := by
  rw [List.eq_nil_iff_forall_not_mem]
  constructor
  · intro none stem isCandidate
    obtain ⟨candidate, member, -⟩ := exists_mem_gathered proper isCandidate
    exact none candidate member
  · intro none candidate member
    obtain ⟨stem, isCandidate, -⟩ := exists_stem_of_mem_gathered proper member
    exact none stem isCandidate

end Frontend.Project
