import Frontend.Selection.Enumerated

/-!
# Sets of enumerated values

A selection is a set of values of a small closed enumeration, held in two words of 64 bits: the bit
at the position of a value says whether the value is in it, and positions from 64 on are those of the
second word. The operations are the usual ones on finite sets, and are done word by word. Read as one
number of 128 bits the two words are `bits`, in which a position is a position again; `contains` is
the view through which the operations are described to everybody else.
-/

namespace Frontend

universe u

/-- A set of values of type `α`. -/
structure Selection (α : Type u) where
  lower : BitVec 64
  upper : BitVec 64
deriving DecidableEq, Repr, Inhabited

namespace Selection

open Enumerated

variable {α : Type u}

/-- The selection with no value. -/
def empty : Selection α :=
  ⟨0#64, 0#64⟩

instance : EmptyCollection (Selection α) :=
  ⟨empty⟩

/-! ## Words -/

/-- One of the two words. -/
def word (selection : Selection α) : Nat → BitVec 64
  | 0 => selection.lower
  | _ => selection.upper

/-- Changes one of the two words. -/
def changeWord (selection : Selection α) (change : BitVec 64 → BitVec 64) : Nat → Selection α
  | 0 => { selection with lower := change selection.lower }
  | _ => { selection with upper := change selection.upper }

/-- Puts the words of two selections together, one by one. -/
def zipWords (combine : BitVec 64 → BitVec 64 → BitVec 64) (left right : Selection α) :
    Selection α :=
  ⟨combine left.lower right.lower, combine left.upper right.upper⟩

/-- The two words as one number. -/
def bits (selection : Selection α) : BitVec 128 :=
  selection.upper ++ selection.lower

/-- All values of both selections. -/
def union (left right : Selection α) : Selection α :=
  zipWords (· ||| ·) left right

/-- The values that both selections hold. -/
def inter (left right : Selection α) : Selection α :=
  zipWords (· &&& ·) left right

/-- The values of the left selection that the right one lacks. -/
def sdiff (left right : Selection α) : Selection α :=
  zipWords (fun ours others => ours &&& ~~~others) left right

instance : Union (Selection α) :=
  ⟨union⟩

instance : Inter (Selection α) :=
  ⟨inter⟩

instance : SDiff (Selection α) :=
  ⟨sdiff⟩

/-- No value is held. -/
def isEmpty (selection : Selection α) : Bool :=
  selection.lower == 0#64 && selection.upper == 0#64

/-- How many values are held, the unlisted ones included. -/
def size (selection : Selection α) : Nat :=
  selection.lower.cpop.toNat + selection.upper.cpop.toNat

/-- Every value of the left selection is in the right one. -/
def isSubset (left right : Selection α) : Bool :=
  left.lower &&& ~~~right.lower == 0#64 && left.upper &&& ~~~right.upper == 0#64

variable [Enumerated α]

/-- The word that a value falls into, and its bit there. -/
def slot (value : α) : Nat × BitVec 64 :=
  (index value / 64, 1#64 <<< (index value % 64))

/-- The value is in the selection. -/
def contains (selection : Selection α) (value : α) : Bool :=
  let (number, bit) := slot value
  selection.word number &&& bit != 0#64

/-- Adds a value, and says whether it was new. -/
def insertNew (selection : Selection α) (value : α) : Bool × Selection α :=
  let (number, bit) := slot value
  (selection.word number &&& bit == 0#64, selection.changeWord (· ||| bit) number)

/-- Removes a value, and says whether it was there. -/
def eraseOld (selection : Selection α) (value : α) : Bool × Selection α :=
  let (number, bit) := slot value
  (selection.word number &&& bit != 0#64, selection.changeWord (· &&& ~~~bit) number)

/-- The selection with the value added. -/
def insert (selection : Selection α) (value : α) : Selection α :=
  (selection.insertNew value).2

/-- The selection with the value removed. -/
def erase (selection : Selection α) (value : α) : Selection α :=
  (selection.eraseOld value).2

/-- Makes the value a member or not, as `present` says. -/
def set (selection : Selection α) (value : α) (present : Bool) : Selection α :=
  if present then selection.insert value else selection.erase value

/-- Adds all values of a list. -/
def insertMany (selection : Selection α) (values : List α) : Selection α :=
  values.foldl insert selection

/-- The selection that holds exactly the values of a list. -/
def ofList (values : List α) : Selection α :=
  insertMany empty values

/-- The selection of all listed values. -/
def full : Selection α :=
  ofList (Enumerated.all α)

/-- The listed members, in order of their positions. -/
def toList (selection : Selection α) : List α :=
  (Enumerated.all α).filter selection.contains

/-- The names of the listed members between braces. -/
def debugText [Named α] (selection : Selection α) : String :=
  "\x7b" ++ ", ".intercalate (selection.toList.map Named.name) ++ "\x7d"

/-! ## The words as one number -/

section

omit [Enumerated α]

variable (selection left right : Selection α)

/-- A position is found in the word that it falls into. -/
theorem getLsbD_bits (position : Nat) (below : position < 128) :
    selection.bits.getLsbD position =
      (selection.word (position / 64)).getLsbD (position % 64) := by
  rw [bits, BitVec.getLsbD_append]
  by_cases first : position < 64
  · rw [if_pos first, Nat.div_eq_of_lt first, Nat.mod_eq_of_lt first]
    rfl
  · have second : position / 64 = 1 := by omega
    have rest : position - 64 = position % 64 := by omega
    rw [if_neg first, second, rest]
    rfl

/-- Selections with the same bits are the same. -/
theorem bits_inj : left.bits = right.bits ↔ left = right := by
  constructor
  · rintro same
    have lower : left.lower = right.lower :=
      BitVec.extractLsb'_append_eq_right.symm.trans
        ((congrArg (BitVec.extractLsb' 0 64) same).trans BitVec.extractLsb'_append_eq_right)
    have upper : left.upper = right.upper :=
      BitVec.extractLsb'_append_eq_left.symm.trans
        ((congrArg (BitVec.extractLsb' 64 64) same).trans BitVec.extractLsb'_append_eq_left)
    cases left
    cases right
    cases lower
    cases upper
    rfl
  · rintro rfl
    rfl

@[simp]
theorem bits_empty : (empty : Selection α).bits = 0#128 :=
  BitVec.zero_append_zero

@[simp]
theorem bits_union : (left ∪ right).bits = left.bits ||| right.bits :=
  BitVec.or_append.symm

@[simp]
theorem bits_inter : (left ∩ right).bits = left.bits &&& right.bits :=
  BitVec.and_append.symm

@[simp]
theorem bits_sdiff : (left \ right).bits = left.bits &&& ~~~right.bits := by
  change _ = (left.upper ++ left.lower) &&& ~~~(right.upper ++ right.lower)
  rw [BitVec.not_append, BitVec.and_append]
  rfl

end

/-- A word and a bit have something in common if the word has the bit. -/
theorem and_bit_ne_zero (word : BitVec 64) (place : Nat) (below : place < 64) :
    (word &&& 1#64 <<< place != 0#64) = word.getLsbD place := by
  rw [← BitVec.twoPow_eq, BitVec.and_twoPow]
  split
  · rename_i held
    have nonzero : BitVec.twoPow 64 place ≠ 0#64 := by
      intro zero
      have bit := congrArg (BitVec.getLsbD · place) zero
      simp [below] at bit
    rw [held, bne_iff_ne]
    exact nonzero
  · rename_i lacking
    simp [lacking]

theorem contains_eq (selection : Selection α) (value : α) :
    selection.contains value = selection.bits.getLsbD (index value) := by
  rw [getLsbD_bits _ _ (index_lt value)]
  exact and_bit_ne_zero _ _ (Nat.mod_lt _ (by decide))

section

omit [Enumerated α]

variable (selection : Selection α) (change : BitVec 64 → BitVec 64)

/-- Changing a word changes the positions that fall into it, and no others. -/
theorem getLsbD_bits_changeWord (number position : Nat) (valid : number < 2)
    (below : position < 128) :
    (selection.changeWord change number).bits.getLsbD position =
      if position / 64 = number then (change (selection.word number)).getLsbD (position % 64)
      else selection.bits.getLsbD position := by
  rw [getLsbD_bits _ _ below, getLsbD_bits _ _ below]
  have other : position / 64 < 2 := by omega
  generalize position / 64 = found at other
  match number, found with
  | 0, 0 | 1, 1 | 0, 1 | 1, 0 => rfl

end

/-- In the word of a value its bit is the one at its position. -/
theorem getLsbD_slot (value : α) (position : Nat) (sameWord : position / 64 = (slot value).1) :
    (slot value).2.getLsbD (position % 64) = decide (index value = position) := by
  have place : index value % 64 < 64 := Nat.mod_lt _ (by decide)
  have positions : index value % 64 = position % 64 ↔ index value = position := by
    change position / 64 = index value / 64 at sameWord
    omega
  rw [slot, ← BitVec.twoPow_eq, BitVec.getLsbD_twoPow, decide_eq_true place, Bool.true_and]
  exact decide_eq_decide.mpr positions

/-- A change to the word of a value that touches no other bit than that of the value. -/
theorem getLsbD_changeWord_slot (selection : Selection α) (value : α)
    (change : BitVec 64 → BitVec 64 → BitVec 64) (combine : Bool → Bool → Bool)
    (bitwise : ∀ word bit place, place < 64 →
      (change word bit).getLsbD place = combine (word.getLsbD place) (bit.getLsbD place))
    (keeps : ∀ held, combine held false = held) (position : Nat) (below : position < 128) :
    (selection.changeWord (change · (slot value).2) (slot value).1).bits.getLsbD position =
      combine (selection.bits.getLsbD position) (decide (index value = position)) := by
  have valid : (slot value).1 < 2 := by
    have bound := index_lt value
    change index value / 64 < 2
    omega
  rw [getLsbD_bits_changeWord _ _ _ _ valid below]
  split
  · rename_i sameWord
    rw [bitwise _ _ _ (Nat.mod_lt _ (by decide)), getLsbD_slot value position sameWord,
      getLsbD_bits _ _ below, sameWord]
  · rename_i otherWord
    have other : index value ≠ position := by
      rintro rfl
      exact otherWord rfl
    rw [decide_eq_false other, keeps]

@[simp]
theorem bits_insert (selection : Selection α) (value : α) :
    (selection.insert value).bits = selection.bits ||| BitVec.twoPow 128 (index value) := by
  apply BitVec.eq_of_getLsbD_eq
  intro position below
  have changed := selection.getLsbD_changeWord_slot value (· ||| ·) (· || ·)
    (by simp) (by simp) position below
  rw [BitVec.getLsbD_or, BitVec.getLsbD_twoPow, decide_eq_true (index_lt value), Bool.true_and]
  exact changed

@[simp]
theorem bits_erase (selection : Selection α) (value : α) :
    (selection.erase value).bits = selection.bits &&& ~~~BitVec.twoPow 128 (index value) := by
  apply BitVec.eq_of_getLsbD_eq
  intro position below
  have changed := selection.getLsbD_changeWord_slot value (· &&& ~~~·) (· && !·)
    (by rintro word bit place small; simp [small]) (by simp) position below
  rw [BitVec.getLsbD_and, BitVec.getLsbD_not, decide_eq_true below, BitVec.getLsbD_twoPow,
    decide_eq_true (index_lt value), Bool.true_and, Bool.true_and]
  exact changed

/-! ## Membership after each operation -/

@[simp]
theorem contains_empty (value : α) : (empty : Selection α).contains value = false := by
  simp [contains_eq]

@[simp]
theorem contains_union (left right : Selection α) (value : α) :
    (left ∪ right).contains value = (left.contains value || right.contains value) := by
  simp [contains_eq]

@[simp]
theorem contains_inter (left right : Selection α) (value : α) :
    (left ∩ right).contains value = (left.contains value && right.contains value) := by
  simp [contains_eq]

@[simp]
theorem contains_sdiff (left right : Selection α) (value : α) :
    (left \ right).contains value = (left.contains value && !right.contains value) := by
  have below := index_lt value
  simp [contains_eq, below]

@[simp]
theorem contains_insert (selection : Selection α) (value other : α) :
    (selection.insert value).contains other =
      (selection.contains other || decide (index other = index value)) := by
  have below := index_lt value
  simp [contains_eq, below, eq_comm]

@[simp]
theorem contains_erase (selection : Selection α) (value other : α) :
    (selection.erase value).contains other =
      (selection.contains other && !decide (index other = index value)) := by
  have below := index_lt other
  simp [contains_eq, below, eq_comm]

/-- Setting the membership of one value leaves that of every other as it was. -/
theorem contains_set [DecidableEq α] (selection : Selection α) (value other : α)
    (present : Bool) :
    (selection.set value present).contains other =
      if value = other then present else selection.contains other := by
  by_cases same : value = other
  · subst other
    cases present <;> simp [set]
  · have different : other ≠ value := fun equal => same equal.symm
    cases present <;> simp [set, index_inj, same, different]

theorem contains_insertMany [DecidableEq α] (selection : Selection α) (values : List α)
    (value : α) :
    (selection.insertMany values).contains value =
      (selection.contains value || decide (value ∈ values)) := by
  induction values generalizing selection with
  | nil => simp [insertMany]
  | cons first values ih =>
      rw [insertMany, List.foldl_cons, ← insertMany, ih, contains_insert]
      simp [index_inj, Bool.or_assoc]

/-- The selection made from a list holds the values of the list. -/
theorem contains_ofList [DecidableEq α] (values : List α) (value : α) :
    (ofList values).contains value = decide (value ∈ values) := by
  simp [ofList, contains_insertMany]

/-! ## Inclusion -/

/-- One selection lies within another if every value of it is in the other. -/
instance : HasSubset (Selection α) :=
  ⟨fun left right => ∀ value, left.contains value = true → right.contains value = true⟩

theorem subset_refl (selection : Selection α) : selection ⊆ selection :=
  fun _ held => held

theorem subset_trans {left middle right : Selection α} (first : left ⊆ middle)
    (second : middle ⊆ right) : left ⊆ right :=
  fun value held => second value (first value held)

theorem sdiff_subset (left right : Selection α) : left \ right ⊆ left := by
  intro value held
  rw [contains_sdiff, Bool.and_eq_true] at held
  exact held.1

theorem inter_subset_left (left right : Selection α) : left ∩ right ⊆ left := by
  intro value held
  rw [contains_inter, Bool.and_eq_true] at held
  exact held.1

theorem union_subset {left right whole : Selection α} (first : left ⊆ whole)
    (second : right ⊆ whole) : left ∪ right ⊆ whole := by
  intro value held
  rw [contains_union, Bool.or_eq_true] at held
  rcases held with inLeft | inRight
  · exact first value inLeft
  · exact second value inRight

/-- A selection made from a list lies within another that holds each value of the list. -/
theorem ofList_subset [DecidableEq α] {values : List α} {selection : Selection α}
    (held : ∀ value ∈ values, selection.contains value = true) : ofList values ⊆ selection := by
  intro value listed
  rw [contains_ofList, decide_eq_true_eq] at listed
  exact held value listed

/-! ## Replacing a part -/

omit [Enumerated α] in
/-- A selection in which everything outside `part` was replaced still has its old values on that
part. -/
theorem inter_union_sdiff (part selection replacement : Selection α) :
    part ∩ ((part ∩ selection) ∪ (replacement \ part)) = part ∩ selection := by
  rw [← bits_inj]
  apply BitVec.eq_of_getLsbD_eq
  intro position below
  simp only [bits_inter, bits_union, bits_sdiff, BitVec.getLsbD_and, BitVec.getLsbD_or,
    BitVec.getLsbD_not, below, decide_true, Bool.true_and]
  cases part.bits.getLsbD position <;> simp

end Selection

end Frontend
