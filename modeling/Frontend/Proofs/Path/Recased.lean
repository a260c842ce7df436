import Frontend.Proofs.Path.Above
import Frontend.Text.Lowercase
import Mathlib.Data.List.Forall2

/-!
# Lower case keeps the shape of a path

Lowercasing replaces characters one by one, but not always by one character, and what replaces a sigma
depends on its neighbours. Slashes and dots are all that gives a path its shape. They stay where they
are, and no other character becomes one of them, so that each piece of the path has its counterpart.
A name may become another name, but never a step up, and a relative path stays relative.
-/

namespace Frontend

/-! ## Slashes and dots -/

namespace Text.Lowercase

/-- The character gives a path its shape. -/
def IsMark (c : Char) : Prop :=
  c = '/' ∨ c = '.'

instance (c : Char) : Decidable (IsMark c) :=
  inferInstanceAs (Decidable (_ ∨ _))

/-- All characters with a partner have one beyond the slash. -/
theorem lt_partner_of_mem_runs : ∀ run ∈ runs, 47 < (run.first : Int) + run.distance := by
  decide +kernel

/-- The codes of the marks are those of the slash and of the character before it. -/
theorem IsMark.toNat {c : Char} (isMark : IsMark c) : c.toNat = 46 ∨ c.toNat = 47 := by
  rcases isMark with rfl | rfl
  · exact Or.inr rfl
  · exact Or.inl rfl

/-- Only a slash and a dot have a lowercase form that is one. -/
theorem isMark_of_isMark_partner {c : Char} (isMark : IsMark (partner c)) : IsMark c := by
  unfold partner at isMark
  simp only at isMark
  split at isMark
  · rename_i run found
    have beyond := lt_partner_of_mem_runs run (List.mem_of_find?_eq_some found)
    have holds := List.find?_some found
    simp only [Bool.and_eq_true, decide_eq_true_iff] at holds
    have code := isMark.toNat
    rw [Char.ofNat] at code
    by_cases valid : (c.toNat + run.distance).toNat.isValidChar
    · rw [dif_pos valid] at code
      change (c.toNat + run.distance).toNat = 46 ∨ (c.toNat + run.distance).toNat = 47 at code
      omega
    · rw [dif_neg valid] at code
      exact absurd code (by decide)
  · exact isMark

theorem partner_of_isMark {c : Char} (isMark : IsMark c) : partner c = c := by
  rcases isMark with rfl | rfl <;> decide +kernel

/-- Marks stay as they are, and each other character is replaced by some that are no marks. -/
inductive Recased : List Char → List Char → Prop where
  | nil : Recased [] []
  | mark {c : Char} {rest recased : List Char} (isMark : IsMark c)
      (further : Recased rest recased) : Recased (c :: rest) (c :: recased)
  | other {c first : Char} {more rest recased : List Char} (noMark : ¬ IsMark c)
      (noMarks : ∀ d ∈ first :: more, ¬ IsMark d) (further : Recased rest recased) :
      Recased (c :: rest) (first :: (more ++ recased))

theorem recased_lowerFrom (before text : List Char) : Recased text (lowerFrom before text) := by
  induction text generalizing before with
  | nil => exact .nil
  | cons c after ih =>
      have further := ih (c :: before)
      rw [lowerFrom, form]
      split
      · rename_i sigma
        subst sigma
        split
        · exact .other (by decide) (by simp [IsMark]) further
        · exact .other (by decide) (by simp [IsMark]) further
      · split
        · rename_i dotted
          subst dotted
          exact .other (by decide) (by simp [IsMark]) further
        · by_cases isMark : IsMark c
          · rw [partner_of_isMark isMark]
            exact .mark isMark further
          · have noMarks : ∀ d ∈ [partner c], ¬ IsMark d := by
              intro d member becomes
              rw [List.mem_singleton.mp member] at becomes
              exact isMark (isMark_of_isMark_partner becomes)
            exact .other isMark noMarks further

namespace Recased

variable {c : Char} {text recased rest : List Char}

/-- What begins with a mark is replaced by what begins with it. -/
theorem eq_cons_of_isMark (alike : Recased (c :: rest) recased) (isMark : IsMark c) :
    ∃ further, recased = c :: further ∧ Recased rest further := by
  cases alike with
  | mark _ further => exact ⟨_, rfl, further⟩
  | other noMark => exact absurd isMark noMark

/-- Only what begins with a mark is replaced by what begins with it. -/
theorem cons_eq_of_isMark (alike : Recased text (c :: rest)) (isMark : IsMark c) :
    ∃ further, text = c :: further ∧ Recased further rest := by
  cases alike with
  | mark _ further => exact ⟨_, rfl, further⟩
  | other _ noMarks => exact absurd isMark (noMarks c List.mem_cons_self)

theorem eq_nil_iff (alike : Recased text recased) : recased = [] ↔ text = [] := by
  cases alike with
  | nil => simp
  | mark => simp
  | other => simp

/-- A text of marks only is all that becomes one. -/
theorem eq_iff_of_isMark (alike : Recased text recased) {marks : List Char}
    (areMarks : ∀ c ∈ marks, IsMark c) : recased = marks ↔ text = marks := by
  induction marks generalizing text recased with
  | nil => exact alike.eq_nil_iff
  | cons c marks ih =>
      rw [List.forall_mem_cons] at areMarks
      constructor
      · rintro rfl
        obtain ⟨rest, rfl, further⟩ := alike.cons_eq_of_isMark areMarks.1
        rw [(ih further areMarks.2).mp rfl]
      · rintro rfl
        obtain ⟨rest, rfl, further⟩ := alike.eq_cons_of_isMark areMarks.1
        rw [(ih further areMarks.2).mpr rfl]

end Recased

theorem recased_refl (text : List Char) : Recased text text := by
  induction text with
  | nil => exact .nil
  | cons c rest ih =>
      by_cases isMark : IsMark c
      · exact .mark isMark ih
      · have noMarks : ∀ d ∈ [c], ¬ IsMark d := by simpa using isMark
        exact .other isMark noMarks ih

theorem recased_lowercase (text : String) : Recased text.toList (lowercase text).toList := by
  rw [lowercase, String.toList_ofList]
  exact recased_lowerFrom [] text.toList

end Text.Lowercase

open Text.Lowercase

namespace Path

theorem splitSlash_append_of_notMem {front rest piece : List Char} {pieces : List (List Char)}
    (whole : '/' ∉ front) (cut : splitSlash rest = piece :: pieces) :
    splitSlash (front ++ rest) = (front ++ piece) :: pieces := by
  induction front with
  | nil => exact cut
  | cons c front ih =>
      rw [List.mem_cons, not_or] at whole
      rw [List.cons_append, splitSlash, if_neg (Ne.symm whole.1), ih whole.2, List.cons_append]

/-- Pieces are replaced one by one. -/
theorem forall₂_splitSlash {text recased : List Char} (alike : Recased text recased) :
    List.Forall₂ Recased (splitSlash text) (splitSlash recased) := by
  induction alike with
  | nil => exact .cons .nil .nil
  | @mark c rest recased isMark _ ih =>
      by_cases slash : c = '/'
      · rw [splitSlash, splitSlash, if_pos slash, if_pos slash]
        exact .cons .nil ih
      · cases cut : splitSlash rest with
        | nil => exact absurd cut (splitSlash_ne_nil rest)
        | cons piece pieces =>
            rw [cut] at ih
            obtain ⟨other, others, first, others', same⟩ := List.forall₂_cons_left_iff.mp ih
            have whole : '/' ∉ [c] := by simpa using Ne.symm slash
            have before : splitSlash (c :: rest) = (c :: piece) :: pieces :=
              splitSlash_append_of_notMem whole cut
            have after : splitSlash (c :: recased) = (c :: other) :: others :=
              splitSlash_append_of_notMem whole same
            rw [before, after]
            exact .cons (.mark isMark first) others'
  | @other c first more rest recased noMark noMarks _ ih =>
      have wholeBefore : '/' ∉ [c] := by
        rw [List.mem_singleton]
        rintro rfl
        exact noMark (Or.inl rfl)
      have wholeAfter : '/' ∉ first :: more := fun member => noMarks '/' member (Or.inl rfl)
      cases cut : splitSlash rest with
      | nil => exact absurd cut (splitSlash_ne_nil rest)
      | cons piece pieces =>
          rw [cut] at ih
          obtain ⟨other, others, piece', others', same⟩ := List.forall₂_cons_left_iff.mp ih
          have before : splitSlash (c :: rest) = (c :: piece) :: pieces :=
            splitSlash_append_of_notMem wholeBefore cut
          have after : splitSlash (first :: (more ++ recased)) =
              (first :: (more ++ other)) :: others :=
            splitSlash_append_of_notMem wholeAfter same
          rw [before, after]
          exact .cons (.other noMark noMarks piece') others'

/-- The steps are of one kind: only names are exchanged for each other. -/
def Component.Alike : Component → Component → Prop
  | .name _, .name _ => True
  | first, second => first = second

/-- A piece and its counterpart are both silent, or stand for steps of one kind. -/
theorem Component.ofPiece?_recased {piece other : String}
    (alike : Recased piece.toList other.toList) :
    ofPiece? piece = none ∧ ofPiece? other = none ∨
      ∃ step counterpart, ofPiece? piece = some step ∧ ofPiece? other = some counterpart ∧
        step.Alike counterpart := by
  have equals : ∀ (marks : String) (chars : List Char), marks.toList = chars →
      (∀ c ∈ chars, IsMark c) → (other = marks ↔ piece = marks) := by
    rintro marks _ rfl areMarks
    rw [← String.toList_inj, ← String.toList_inj]
    exact alike.eq_iff_of_isMark areMarks
  have empty := equals "" [] rfl (by simp)
  have dot := equals "." ['.'] rfl (by simp [IsMark])
  have parent := equals ".." ['.', '.'] rfl (by simp [IsMark])
  have quiet : silent other = true ↔ silent piece = true := by
    simp only [silent, Bool.or_eq_true, beq_iff_eq, empty, dot]
  unfold ofPiece?
  by_cases isQuiet : silent piece = true
  · simp [isQuiet, quiet.mpr isQuiet]
  · have loud : ¬ silent other = true := fun isQuiet' => isQuiet (quiet.mp isQuiet')
    by_cases isParent : piece = ".."
    · simp [isParent, parent.mpr isParent, Alike]
    · have noParent : ¬ other = ".." := fun isParent' => isParent (parent.mp isParent')
      simp [isQuiet, loud, isParent, noParent, Alike]

/-- The inner steps of a path and of its counterpart are of the same kinds. -/
theorem forall₂_innerSteps {first second : Path}
    (alike : Recased first.text.toList second.text.toList) :
    List.Forall₂ Component.Alike first.innerSteps second.innerSteps := by
  rw [innerSteps_eq, innerSteps_eq, pieces, pieces]
  have cut := forall₂_splitSlash alike
  generalize splitSlash first.text.toList = pieces, splitSlash second.text.toList = recased at cut
  induction cut with
  | nil => exact .nil
  | @cons piece other rest others alike _ ih =>
      have read := @Component.ofPiece?_recased (String.ofList piece) (String.ofList other)
        (by simpa using alike)
      rw [List.map_cons, List.map_cons]
      rcases read with ⟨silent, silent'⟩ | ⟨step, counterpart, isStep, isStep', kind⟩
      · rwa [List.filterMap_cons_none silent, List.filterMap_cons_none silent']
      · rw [List.filterMap_cons_some isStep, List.filterMap_cons_some isStep']
        exact .cons kind ih

/-- A relative path stays relative, and an absolute one absolute. -/
theorem isAbsolute_of_recased {first second : Path}
    (alike : Recased first.text.toList second.text.toList) :
    second.isAbsolute = first.isAbsolute := by
  rw [isAbsolute, isAbsolute]
  generalize first.text.toList = text, second.text.toList = recased at alike
  cases alike with
  | nil => rfl
  | mark => rfl
  | @other c d _ _ _ noMark noMarks =>
      have before : c ≠ '/' := fun slash => noMark (Or.inl slash)
      have after : d ≠ '/' := fun slash => noMarks d List.mem_cons_self (Or.inl slash)
      simp [before, after]

/-! ## Climbing -/

/-- From some number of names on the way, the steps go up more often than down. -/
def climbsFrom : Nat → List Component → Bool
  | _, [] => false
  | depth, .name _ :: rest => climbsFrom (depth + 1) rest
  | 0, .parent :: _ => true
  | depth + 1, .parent :: rest => climbsFrom depth rest
  | depth, .root :: rest | depth, .current :: rest => climbsFrom depth rest

/-- A relative path goes above the directory that it is met in. -/
def climbs (path : Path) : Bool :=
  climbsFrom 0 path.innerSteps

theorem climbsFrom_of_forall₂ {steps others : List Component}
    (alike : List.Forall₂ Component.Alike steps others) (depth : Nat) :
    climbsFrom depth others = climbsFrom depth steps := by
  induction alike generalizing depth with
  | nil => rfl
  | @cons step other _ _ kind _ ih =>
      cases step with
      | name text =>
          cases other with
          | name => exact ih (depth + 1)
          | root | current | parent => cases kind
      | root | current =>
          cases kind
          cases depth <;> exact ih _
      | parent =>
          cases kind
          cases depth with
          | zero => rfl
          | succ depth => exact ih depth

theorem climbs_of_recased {first second : Path}
    (alike : Recased first.text.toList second.text.toList) : second.climbs = first.climbs :=
  climbsFrom_of_forall₂ (forall₂_innerSteps alike) 0

end Path

end Frontend
