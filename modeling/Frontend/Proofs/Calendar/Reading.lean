import Mathlib.Algebra.Group.Nat.Defs
import Mathlib.Data.List.Basic
import Frontend.Proofs.Text.Integer
import Frontend.Calendar

/-!
# Reading dates

A date is written with two digits for the day, two for the month, and as many as are needed for the
year, which may carry a sign. The hyphen before a negative year is told from the others because day
and month are read from the end. What was written is read back, for years of any size.
-/

namespace Frontend.Calendar

open Text.Integer

/-- Reads a date back: the last two digits are the day, the two before them the month, and what
stands before these, with a sign or none, is the year. -/
def Date.ofText? (text : String) : Option Date :=
  match text.toList.reverse with
  | day₀ :: day₁ :: '-' :: month₀ :: month₁ :: '-' :: year => do
      let year ← value? year.reverse
      let month ← magnitude? [month₁, month₀]
      let day ← magnitude? [day₁, day₀]
      some ⟨year, month, day⟩
  | _ => none

theorem toList_padded (width value : Nat) :
    (padded width value).toList =
      List.replicate (width - (Nat.toDigits 10 value).length) '0' ++ Nat.toDigits 10 value :=
  String.toList_ofList

/-- Zeros in front do not change the number that is written. -/
theorem isNumeral_padded (width value : Nat) : IsNumeral (padded width value).toList value := by
  rw [toList_padded]
  refine ⟨?_, ?_, ?_⟩
  · simp [Nat.toDigits_ne_nil]
  · intro c member
    rcases List.mem_append.mp member with zero | digit
    · rw [List.eq_of_mem_replicate zero]
      rfl
    · exact Nat.isDigit_of_mem_toDigits (by decide) (by decide) digit
  · rw [Nat.ofDigitChars_append, Nat.ofDigitChars_replicate_zero, Nat.mul_zero,
      Nat.ofDigitChars_ten_toDigits]

theorem length_padded {width value : Nat} (positive : 0 < width) (fits : value < 10 ^ width) :
    (padded width value).toList.length = width := by
  have digits := (Nat.length_toDigits_le_iff (by decide) positive).mpr fits
  rw [toList_padded, List.length_append, List.length_replicate, Nat.sub_add_cancel digits]

theorem exists_padded_two (value : Nat) (fits : value < 100) :
    ∃ tens ones, (padded 2 value).toList = [tens, ones] ∧ magnitude? [tens, ones] = some value := by
  have two : (padded 2 value).toList.length = 2 := length_padded (by decide) fits
  obtain ⟨tens, ones, digits⟩ := List.length_eq_two.mp two
  exact ⟨tens, ones, digits, magnitude?_eq_some_iff.mpr (digits ▸ isNumeral_padded 2 value)⟩

theorem value?_yearText (year : Int) : value? (yearText year).toList = some year := by
  have numeral := isNumeral_padded 4 year.natAbs
  rw [value?_eq_some_iff, yearText]
  split
  · rw [String.toList_append]
    have written := IsLiteral.negative numeral
    rwa [show -(year.natAbs : Int) = year by omega] at written
  · split
    · have written := IsLiteral.unsigned numeral
      rwa [show (year.natAbs : Int) = year by omega] at written
    · rw [String.toList_append]
      have written := IsLiteral.positive numeral
      rwa [show (year.natAbs : Int) = year by omega] at written

theorem ofText?_text {date : Date} (month : date.month < 100) (day : date.day < 100) :
    Date.ofText? date.text = some date := by
  obtain ⟨month₁, month₀, monthText, isMonth⟩ := exists_padded_two date.month month
  obtain ⟨day₁, day₀, dayText, isDay⟩ := exists_padded_two date.day day
  have reversed : date.text.toList.reverse =
      day₀ :: day₁ :: '-' :: month₀ :: month₁ :: '-' :: (yearText date.year).toList.reverse := by
    simp [Date.text, monthText, dayText]
  rw [Date.ofText?, reversed]
  simp only [List.reverse_reverse, value?_yearText, isMonth, isDay]
  rfl

end Frontend.Calendar
