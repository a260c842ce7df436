import Frontend.Import.Descriptor
import Frontend.Proofs.FileTree.Listing
import Frontend.Proofs.Path.Extension

/-!
# Descriptors and their names

A descriptor says nothing that its name does not say. So the descriptors of a directory, ordered by
name, do not depend on the order in which the directory lists its files.
-/

namespace Frontend.Descriptor

open Frontend.FileTree Frontend.Path

theorem ofName?_eq_some_iff {name : FileName} {described : Described} :
    ofName? name = some described ↔
      name.shown = described.name ∧ name.shown ≠ sharedName ∧
        Path.splitExtension name.shown = (described.stem, some described.extension) := by
  obtain ⟨whole, stem, extension⟩ := described
  rw [ofName?, name.splitExtension_eq]
  by_cases shared : name.shown = sharedName
  · simp [shared]
  · rcases split : Path.splitExtension name.shown with ⟨before, _ | after⟩
    · simp [shared]
    · simp [shared]

variable {tree : FileTree} {directory : Path}

theorem mem_inDirectory_iff {described : Described} :
    described ∈ inDirectory tree directory ↔
      described.name ∈ tree.shownFiles directory ∧ described.name ≠ sharedName ∧
        Path.splitExtension described.name = (described.stem, some described.extension) := by
  simp only [inDirectory, shownFiles, List.mem_mergeSort, List.mem_filterMap, List.mem_map,
    ofName?_eq_some_iff]
  constructor
  · rintro ⟨name, listed, isShown, read⟩
    rw [isShown] at read
    exact ⟨⟨name, listed, isShown⟩, read⟩
  · rintro ⟨⟨name, listed, isShown⟩, read⟩
    rw [← isShown] at read
    exact ⟨name, listed, isShown, read⟩

/-- A descriptor is known by its name. -/
theorem eq_of_name_eq {first second : Described} (member : first ∈ inDirectory tree directory)
    (member' : second ∈ inDirectory tree directory) (same : first.name = second.name) :
    first = second := by
  obtain ⟨-, -, split⟩ := mem_inDirectory_iff.mp member
  obtain ⟨-, -, split'⟩ := mem_inDirectory_iff.mp member'
  obtain ⟨stem, extension⟩ := Prod.mk.inj (split.symm.trans (same ▸ split'))
  cases first
  cases second
  simp_all

/-- A list that is sorted by a key is ordered by it. -/
theorem pairwise_mergeSort_key {α β : Type} [LE β] [DecidableLE β] (key : α → β)
    (trans : ∀ {first second third : β}, first ≤ second → second ≤ third → first ≤ third)
    (total : ∀ first second : β, first ≤ second ∨ second ≤ first) (list : List α) :
    (list.mergeSort fun first second => key first ≤ key second).Pairwise
      fun first second => key first ≤ key second := by
  refine (List.pairwise_mergeSort ?_ ?_ list).imp of_decide_eq_true
  · intro first second third below above
    exact decide_eq_true (trans (of_decide_eq_true below) (of_decide_eq_true above))
  · intro first second
    simpa using total (key first) (key second)

theorem pairwise_inDirectory (tree : FileTree) (directory : Path) :
    (inDirectory tree directory).Pairwise fun first second => first.name ≤ second.name :=
  pairwise_mergeSort_key Described.name String.le_trans String.le_total _

/-- There is one way to order the descriptors of a directory. -/
theorem eq_inDirectory_of_perm {descriptors : List Described}
    (listed : descriptors.Perm ((tree.regularFiles directory).filterMap ofName?))
    (ordered : descriptors.Pairwise fun first second => first.name ≤ second.name) :
    descriptors = inDirectory tree directory := by
  have same : descriptors.Perm (inDirectory tree directory) :=
    listed.trans (List.mergeSort_perm _ _).symm
  refine List.Perm.eq_of_pairwise ?_ ordered (pairwise_inDirectory tree directory) same
  intro first second member member' below above
  exact eq_of_name_eq (same.mem_iff.mp member) member' (String.le_antisymm below above)

/-- The descriptors of a directory come in one order, whatever the order of its files. -/
theorem inDirectory_of_relisted {other : FileTree} (relisted : Relisted tree other)
    (directory : Path) : inDirectory tree directory = inDirectory other directory := by
  apply eq_inDirectory_of_perm
  · exact (List.mergeSort_perm _ _).trans ((relisted.perm_regularFiles directory).filterMap ofName?)
  · exact pairwise_inDirectory tree directory

end Frontend.Descriptor
