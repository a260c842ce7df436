import Frontend.Import.Recency

/-!
# Moving to the front by exchanges

An exchange of two neighbours fails when one of them would lie outside of the list. Whether the
exchanges that bring an element to the front can all be made is decided by the first of them, since
it is the one furthest to the back; so the test of the position that is made before is just what
keeps every exchange inside of the list.
-/

namespace Frontend.Recency

universe u

variable {α : Type u}

/-- An exchange fails exactly when the later one of its two positions is not in the list. -/
theorem swapAt?_eq_none_iff (position : Nat) (list : List α) :
    swapAt? position list = none ↔ list.length ≤ position + 1 := by
  induction position generalizing list with
  | zero =>
      match list with
      | [] => simp [swapAt?]
      | [_] => simp [swapAt?]
      | _ :: _ :: _ => simp [swapAt?]
  | succ position ih =>
      cases list with
      | nil => simp [swapAt?]
      | cons first rest => simp [swapAt?, ih]

/-- An element inside of the list comes to the front, and what it passes keeps its order. -/
theorem bubble?_eq_some {position : Nat} {list : List α} (inside : position < list.length) :
    bubble? position list =
      some (list[position] :: (list.take position ++ list.drop (position + 1))) := by
  have split : list.take position ++ list[position] :: list.drop (position + 1) = list := by
    rw [← List.drop_eq_getElem_cons inside, List.take_append_drop]
  have length : (list.take position).length = position :=
    List.length_take_of_le (Nat.le_of_lt inside)
  have moved := bubble?_append position (list.take position) (list.drop (position + 1))
    list[position] length
  rwa [split] at moved

/-- The exchanges on the way from a position are all made inside of the list exactly when the
position is in the list, or there are none of them. -/
theorem bubble?_eq_none_iff (position : Nat) (list : List α) :
    bubble? position list = none ↔ 0 < position ∧ list.length ≤ position := by
  cases position with
  | zero => simp [bubble?]
  | succ position =>
      rcases Nat.lt_or_ge (position + 1) list.length with inside | outside
      · rw [bubble?_eq_some inside]
        simp [inside]
      · have first := (swapAt?_eq_none_iff position list).mpr outside
        rw [bubble?, first]
        simp [outside]

/-- Moving to the front makes no exchange outside of the list: the exchanges fail only from behind
its end, and none is made from there. Nothing changes then, nor from the first position; from
anywhere else the element at the position comes first, then what stood before it and then what stood
after it, both in the old order. -/
theorem promote_moves_to_front (position : Nat) (list : List α) :
    (bubble? position list = none ↔ 0 < position ∧ list.length ≤ position) ∧
      (position < list.length → bubble? position list = some (promote position list)) ∧
      (position = 0 ∨ list.length ≤ position → promote position list = list) ∧
      ∀ inside : position < list.length,
        promote position list =
          list[position] :: (list.take position ++ list.drop (position + 1)) := by
  have made (inside : position < list.length) :
      bubble? position list = some (promote position list) := by
    rw [promote, if_neg (Nat.not_le.mpr inside), bubble?_eq_some inside, Option.getD_some]
  refine ⟨bubble?_eq_none_iff position list, made, ?_, ?_⟩
  · rintro (rfl | outside)
    · unfold promote
      split <;> rfl
    · exact if_pos outside
  · intro inside
    exact Option.some.inj ((made inside).symm.trans (bubble?_eq_some inside))

end Frontend.Recency
