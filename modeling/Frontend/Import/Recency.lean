/-!
# Moving the most recently used to the front

An element moves to the front of a list by changing places with its left neighbour until it has
none. The elements it passes keep their order.
-/

namespace Frontend.Recency

universe u

variable {α : Type u}

/-- Exchanges the elements at a position and the next one, if both exist. -/
def swapAt? : Nat → List α → Option (List α)
  | 0, first :: second :: rest => some (second :: first :: rest)
  | position + 1, first :: rest => (swapAt? position rest).map (first :: ·)
  | _, _ => none

/-- Lets the element at a position change places with its left neighbours down to the front. -/
def bubble? : Nat → List α → Option (List α)
  | 0, list => some list
  | position + 1, list => (swapAt? position list).bind (bubble? position)

/-- Moves the element at a position to the front; a position outside the list changes nothing. -/
def promote (position : Nat) (list : List α) : List α :=
  if list.length ≤ position then list else (bubble? position list).getD list

/-! ## The order afterwards -/

/-- Two neighbours change places, and nothing around them moves. -/
theorem swapAt?_append (front back : List α) (first second : α) :
    swapAt? front.length (front ++ first :: second :: back) =
      some (front ++ second :: first :: back) := by
  induction front with
  | nil => rfl
  | cons head front ih => simp [swapAt?, ih]

/-- Every exchange on the way finds both its elements, and those that are passed keep their order.
The induction takes the last of them first, as the exchanges do. -/
theorem bubble?_append (position : Nat) (front back : List α) (element : α)
    (length : front.length = position) :
    bubble? position (front ++ element :: back) = some (element :: (front ++ back)) := by
  induction position generalizing front back with
  | zero =>
      obtain rfl := List.eq_nil_of_length_eq_zero length
      rfl
  | succ position ih =>
      obtain rfl | ⟨init, last, rfl⟩ := front.eq_nil_or_concat
      · simp at length
      · have shorter : init.length = position := by simpa using length
        have swapped := swapAt?_append init back last element
        rw [shorter] at swapped
        simp only [List.concat_eq_append, List.append_assoc, List.cons_append, List.nil_append,
          bubble?, swapped, Option.bind_some]
        exact ih init (last :: back) shorter

/-- The element at a position comes first, then what stood before it, then what stood after it. -/
theorem promote_append (front back : List α) (element : α) :
    promote front.length (front ++ element :: back) = element :: (front ++ back) := by
  have inside : ¬(front ++ element :: back).length ≤ front.length := by
    simp
  rw [promote, if_neg inside, bubble?_append front.length front back element rfl, Option.getD_some]

example : promote 2 ["a", "b", "c", "d"] = ["c", "a", "b", "d"] := rfl

end Frontend.Recency
