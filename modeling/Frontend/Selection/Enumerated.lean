/-!
# Small closed enumerations

Note kinds, option flags and policy axes are closed lists of named values. Each value has a
position, and the positions below `count` are exactly those that can be turned back into a value.
Positions stay below 128, so that a set of values fits in 128 bits. A value may have a position at
or above `count`: it can be stored, but is never listed.
-/

namespace Frontend

universe u

/-- Values with distinct positions below 128, of which those below `count` can be listed. -/
class Enumerated (α : Type u) where
  /-- How many values can be listed. -/
  count : Nat
  /-- The position of a value. -/
  index : α → Nat
  /-- The value at a position. -/
  ofIndex? : Nat → Option α
  index_lt (value : α) : index value < 128
  index_injective {left right : α} : index left = index right → left = right
  ofIndex?_of_lt {position : Nat} :
    position < count → ∃ value, ofIndex? position = some value ∧ index value = position
  ofIndex?_of_le {position : Nat} : count ≤ position → ofIndex? position = none

namespace Enumerated

variable {α : Type u} [Enumerated α]

/-- Values are told apart by their positions. -/
theorem index_inj {left right : α} : index left = index right ↔ left = right := by
  constructor
  · exact index_injective
  · rintro rfl
    rfl

/-- The value listed at a position has that position. -/
theorem index_of_ofIndex? {position : Nat} {value : α} (listed : ofIndex? position = some value) :
    position < count α ∧ index value = position := by
  by_cases below : position < count α
  · obtain ⟨other, found, indexEq⟩ := ofIndex?_of_lt (α := α) below
    rw [listed] at found
    cases found
    exact ⟨below, indexEq⟩
  · rw [ofIndex?_of_le (Nat.le_of_not_lt below)] at listed
    cases listed

/-- The listed values in order of their positions. -/
def all (α : Type u) [Enumerated α] : List α :=
  (List.range (count α)).filterMap ofIndex?

/-- An enumeration given by the list of its values, in order. -/
@[reducible]
def ofValues (values : List α) (position : α → Nat)
    (getElem?_position : ∀ value, values[position value]? = some value)
    (position_getElem : ∀ (i : Nat) (below : i < values.length), position values[i] = i)
    (length_le : values.length ≤ 128) : Enumerated α where
  count := values.length
  index := position
  ofIndex? i := values[i]?
  index_lt value := by
    have found := getElem?_position value
    have below : position value < values.length := by
      apply Decidable.byContradiction
      intro above
      rw [List.getElem?_eq_none (Nat.le_of_not_lt above)] at found
      cases found
    omega
  index_injective := by
    intro left right equal
    have leftFound := getElem?_position left
    rw [equal, getElem?_position right] at leftFound
    exact (Option.some.inj leftFound).symm
  ofIndex?_of_lt := by
    intro i below
    exact ⟨values[i], List.getElem?_eq_getElem below, position_getElem i below⟩
  ofIndex?_of_le := by
    intro i above
    exact List.getElem?_eq_none above

end Enumerated

/-- Values with a name, as it is written in listings. -/
class Named (α : Type u) where
  name : α → String

end Frontend
