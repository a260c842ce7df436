import Mathlib.Data.List.TakeWhile
import Frontend.Proofs.Path.Above

/-!
# File names and their extensions

A file name with an extension is a stem, a dot and the extension. A name joined to a directory is the
file name of the joined path, however the directory is written.
-/

namespace Frontend.Path

/-! ## Cuts -/

section

variable {α : Type} [DecidableEq α] {mark : α} {before after list : List α}

theorem cutAtLast_of_notMem (whole : mark ∉ list) : cutAtLast mark list = (list, none) := by
  have nothing : list.reverse.dropWhile (· ≠ mark) = [] := by
    rw [List.dropWhile_eq_nil_iff]
    intro element member
    rw [List.mem_reverse] at member
    exact decide_eq_true fun same => whole (same ▸ member)
  rw [cutAtLast, nothing]

/-- From the end a list is the part behind its last mark, the mark, and the part before it. -/
theorem dropWhile_takeWhile_reverse (before : List α) (whole : mark ∉ after) :
    (before ++ mark :: after).reverse.dropWhile (· ≠ mark) = mark :: before.reverse ∧
      (before ++ mark :: after).reverse.takeWhile (· ≠ mark) = after.reverse := by
  have others : ∀ element ∈ after.reverse, decide (element ≠ mark) = true := by
    intro element member
    rw [List.mem_reverse] at member
    exact decide_eq_true fun same => whole (same ▸ member)
  have backwards : (before ++ mark :: after).reverse = after.reverse ++ mark :: before.reverse := by
    simp
  rw [backwards, List.dropWhile_append_of_pos others, List.takeWhile_append_of_pos others,
    List.dropWhile_cons_of_neg (by simp), List.takeWhile_cons_of_neg (by simp), List.append_nil]
  exact ⟨rfl, rfl⟩

theorem cutAtLast_cons (whole : mark ∉ after) :
    cutAtLast mark (mark :: after) = (mark :: after, none) := by
  obtain ⟨dropped, -⟩ := dropWhile_takeWhile_reverse [] whole
  rw [List.nil_append, List.reverse_nil] at dropped
  rw [cutAtLast, dropped]

theorem cutAtLast_append (some : before ≠ []) (whole : mark ∉ after) :
    cutAtLast mark (before ++ mark :: after) = (before, .some after) := by
  obtain ⟨dropped, taken⟩ := dropWhile_takeWhile_reverse before whole
  rw [cutAtLast, dropped, taken]
  cases backwards : before.reverse with
  | nil => exact absurd (List.reverse_eq_nil_iff.mp backwards) some
  | cons last rest => simp [← backwards]

/-- A list has no mark, or begins with its last one, or has something before it. -/
theorem exists_last_mark (mark : α) (list : List α) :
    mark ∉ list ∨ ∃ before after, mark ∉ after ∧ list = before ++ mark :: after := by
  by_cases member : mark ∈ list
  · obtain ⟨back, front, split, notBefore⟩ := List.eq_append_cons_of_mem (List.mem_reverse.mpr member)
    refine .inr ⟨front.reverse, back.reverse, by simpa using notBefore, ?_⟩
    rw [← List.reverse_reverse list, split]
    simp
  · exact .inl member

theorem cutAtLast_eq_some_iff :
    cutAtLast mark list = (before, some after) ↔
      before ≠ [] ∧ mark ∉ after ∧ list = before ++ mark :: after := by
  constructor
  · intro cut
    rcases exists_last_mark mark list with none | ⟨front, back, whole, rfl⟩
    · rw [cutAtLast_of_notMem none] at cut
      cases cut
    · cases front with
      | nil =>
          rw [List.nil_append, cutAtLast_cons whole] at cut
          cases cut
      | cons first rest =>
          rw [cutAtLast_append (List.cons_ne_nil first rest) whole] at cut
          cases cut
          exact ⟨List.cons_ne_nil first rest, whole, rfl⟩
  · rintro ⟨nonempty, whole, rfl⟩
    exact cutAtLast_append nonempty whole

end

/-! ## Extensions -/

/-- A name is its stem, a dot and its extension, and the extension has no dot. -/
theorem splitExtension_eq_some_iff {name stem extension : String} :
    splitExtension name = (stem, some extension) ↔
      name ≠ ".." ∧ stem ≠ "" ∧ '.' ∉ extension.toList ∧ name = stem ++ "." ++ extension := by
  rw [splitExtension]
  by_cases parent : name = ".."
  · simp [parent]
  · have written : name.toList = stem.toList ++ '.' :: extension.toList ↔
        name = stem ++ "." ++ extension := by
      rw [← String.toList_inj]
      simp
    have cut : cutAtLast '.' name.toList = (stem.toList, some extension.toList) ↔
        stem.toList ≠ [] ∧ '.' ∉ extension.toList ∧ name = stem ++ "." ++ extension := by
      rw [cutAtLast_eq_some_iff, written]
    rw [if_neg parent]
    rcases parts : cutAtLast '.' name.toList with ⟨before, after⟩
    rw [parts] at cut
    have read : (String.ofList before, after.map String.ofList) = (stem, some extension) ↔
        (before, after) = (stem.toList, some extension.toList) := by
      cases after <;> simp [← String.toList_inj]
    exact read.trans (cut.trans (by simp [parent]))

/-- A name that is cut at its last dot is put together again from what stands around the dot. -/
theorem of_splitExtension_eq {name stem extension : String}
    (split : splitExtension name = (stem, some extension)) :
    stem ≠ "" ∧ name = stem ++ "." ++ extension := by
  obtain ⟨-, nonempty, -, written⟩ := splitExtension_eq_some_iff.mp split
  exact ⟨nonempty, written⟩

/-- A stem and an extension without a dot are cut apart where they were put together. -/
theorem splitExtension_append {stem extension : String} (nonempty : stem ≠ "")
    (nonempty' : extension ≠ "") (whole : '.' ∉ extension.toList) :
    splitExtension (stem ++ "." ++ extension) = (stem, some extension) := by
  refine splitExtension_eq_some_iff.mpr ⟨?_, nonempty, whole, rfl⟩
  intro parent
  have length := congrArg String.length parent
  have some : stem.length ≠ 0 := by simpa using nonempty
  have some' : extension.length ≠ 0 := by simpa using nonempty'
  have two : ".".length = 1 ∧ "..".length = 2 := ⟨rfl, rfl⟩
  simp only [String.length_append] at length
  omega

/-! ## Joined names -/

/-- The steps of a relative path come after those of the directory that it is joined to. -/
theorem innerSteps_join {path : Path} (relative : path.isAbsolute = false) (directory : Path) :
    (directory.join path).innerSteps = directory.innerSteps ++ path.innerSteps := by
  cases empty : directory.isEmpty with
  | true =>
      have nothing : directory = ⟨""⟩ := congrArg Path.mk (String.isEmpty_iff.mp empty)
      rw [nothing, join, if_neg (by simp [relative]), if_pos (by rfl), String.empty_append]
      rfl
  | false =>
      have steps : (directory.join path).components =
          directory.parts.anchor.components ++ (directory.innerSteps ++ path.innerSteps) := by
        rw [components_join empty relative, components_eq, List.append_assoc, innerSteps_eq path]
      have isInner : ∀ step ∈ directory.innerSteps ++ path.innerSteps, step.IsInner := by
        intro step member
        rcases List.mem_append.mp member with before | after
        · exact directory.isInner_of_mem_innerSteps step before
        · exact path.isInner_of_mem_innerSteps step after
      exact (anchor_components_append_inj (isInner_of_mem_innerSteps _) isInner
        ((components_eq _).symm.trans steps)).2

theorem isAbsolute_of_isName {name : String} (isName : IsName name) :
    (Path.mk name).isAbsolute = false := by
  rw [isAbsolute, beq_eq_false_iff_ne]
  intro slash
  exact isName.2.2 (List.mem_of_head? slash)

theorem innerSteps_of_isName {name : String} (isName : IsName name) :
    (Path.mk name).innerSteps = [.name name] := by
  have pieces : (Path.mk name).pieces = [name] := by
    rw [pieces, splitSlash_of_notMem isName.2.2, List.map_singleton, String.ofList_toList]
  have read : Component.ofPiece? name = some (.name name) := by
    rw [Component.ofPiece?, if_neg (by simp [isName.1]), if_neg isName.2.1]
  rw [innerSteps_eq, pieces, List.filterMap_cons_some read, List.filterMap_nil]

@[simp]
theorem fileName?_join {name : String} (isName : IsName name) (directory : Path) :
    (directory.join ⟨name⟩).fileName? = some name := by
  rw [fileName?_eq, innerSteps_join (isAbsolute_of_isName isName), innerSteps_of_isName isName,
    List.getLast?_concat]
  rfl

/-- A name behind nothing, or behind a slash, is the file name. -/
theorem fileName?_append {directory name : String} (isName : IsName name)
    (closed : directory = "" ∨ directory.toList.getLast? = some '/') :
    (Path.mk (directory ++ name)).fileName? = some name := by
  have joined : (Path.mk directory).join ⟨name⟩ = ⟨directory ++ name⟩ := by
    rw [join, if_neg (by simp [isAbsolute_of_isName isName]), if_pos]
    rcases closed with rfl | slash
    · rfl
    · simp [slash]
  rw [← joined, fileName?_join isName]

/-- A text without slashes that does not begin with a dot is a name. -/
theorem isName_of_head? {name : String} {c : Char} (first : name.toList.head? = some c)
    (other : c ≠ '.') (whole : '/' ∉ name.toList) : IsName name := by
  refine ⟨?_, ?_, whole⟩
  · rw [silent, Bool.or_eq_false_iff, beq_eq_false_iff_ne, beq_eq_false_iff_ne]
    constructor
    · rintro rfl
      cases first
    · rintro rfl
      exact other (Option.some.inj first).symm
  · rintro rfl
    exact other (Option.some.inj first).symm

end Frontend.Path
