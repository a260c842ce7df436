import Mathlib.Logic.Function.Iterate
import Mathlib.Tactic.IntervalCases
import Mathlib.Tactic.NormNum
import Frontend.Calendar

/-!
# Counting days

A calendar is known when it is known on which date the count begins and which date follows which.
From the lengths of months and years alone, the date after a date is the next day of the month, or
the first day of the next month, or the first day of the next year. Counting in this way from the
first of January 1970, forwards or backwards, one comes to the date that is computed for a number of
days, and to no other.
-/

namespace Frontend.Calendar

/-! ## The day after -/

/-- The first of January 1970. -/
def epoch : Date :=
  ⟨1970, 1, 1⟩

/-- The date after a date. -/
def Date.next (date : Date) : Date :=
  if date.day < monthLength date.year date.month then ⟨date.year, date.month, date.day + 1⟩
  else if date.month < 12 then ⟨date.year, date.month + 1, 1⟩
  else ⟨date.year + 1, 1, 1⟩

/-- The date lies this number of days after the first of January 1970, or before it if the number is
negative: one comes from the earlier of the two to the later by as many steps to the next date. -/
def Date.IsDay (date : Date) (days : Int) : Prop :=
  Date.next^[days.toNat] epoch = Date.next^[(-days).toNat] date

@[simp]
theorem isValid_mk (year : Int) (month day : Nat) :
    (Date.mk year month day).isValid = true ↔
      (1 ≤ month ∧ month ≤ 12) ∧ 1 ≤ day ∧ day ≤ monthLength year month := by
  simp [Date.isValid, and_assoc]

theorem isValid_epoch : epoch.isValid = true := by
  decide

theorem monthLength_between (year : Int) (month : Nat) :
    28 ≤ monthLength year month ∧ monthLength year month ≤ 31 := by
  unfold monthLength
  split
  · split <;> omega
  all_goals omega

theorem one_le_monthLength (year : Int) (month : Nat) : 1 ≤ monthLength year month :=
  Nat.le_trans (by decide) (monthLength_between year month).1

theorem isValid_next {date : Date} (valid : date.isValid = true) : date.next.isValid = true := by
  obtain ⟨year, month, day⟩ := date
  obtain ⟨⟨monthLeast, monthMost⟩, dayLeast, dayMost⟩ := (isValid_mk year month day).mp valid
  simp only [Date.next]
  split
  · exact (isValid_mk ..).mpr ⟨⟨monthLeast, monthMost⟩, Nat.succ_pos day, ‹_›⟩
  · split
    · exact (isValid_mk ..).mpr ⟨⟨Nat.succ_pos month, ‹_›⟩, le_refl 1, one_le_monthLength ..⟩
    · exact (isValid_mk ..).mpr ⟨⟨le_refl 1, by decide⟩, le_refl 1, one_le_monthLength ..⟩

/-! ## Years from March -/

/-- The leap days from March of year 0 to March of a year. -/
def leapDays (year : Int) : Int :=
  year / 4 - year / 100 + year / 400

/-- The year from March to which a month of a year belongs. -/
def yearFromMarch (year : Int) (month : Nat) : Int :=
  if month ≤ 2 then year - 1 else year

/-- A month, counted from March. -/
def monthFromMarch (month : Nat) : Nat :=
  if month ≤ 2 then month + 9 else month - 3

theorem isLeap_iff (year : Int) :
    isLeap year = true ↔ year % 4 = 0 ∧ (year % 100 = 0 → year % 400 = 0) := by
  simp only [isLeap, Bool.and_eq_true, Bool.or_eq_true, beq_iff_eq, bne_iff_ne]
  omega

/-- The leap day of a year is the last day before its March. -/
theorem leapDays_eq (year : Int) :
    leapDays year = leapDays (year - 1) + if isLeap year then 1 else 0 := by
  simp only [leapDays, isLeap_iff]
  split <;> omega

theorem monthLength_february (year : Int) :
    (monthLength year 2 : Int) = 28 + if isLeap year then 1 else 0 := by
  simp only [monthLength]
  split <;> rfl

/-- Each month but February ends where the next one begins. -/
theorem monthStart_add_monthLength (year : Int) {month : Nat} (least : 1 ≤ month)
    (most : month ≤ 12) (other : month ≠ 2) :
    monthStart (monthFromMarch month) + monthLength year month =
      monthStart (monthFromMarch month + 1) := by
  interval_cases month
  all_goals first | rfl | contradiction

theorem eraStart_add_yearStart (year : Int) :
    year / 400 * daysPerEra + yearStart (year % 400).toNat = 365 * year + leapDays year := by
  unfold daysPerEra yearStart leapDays
  omega

/-- The number of a date: the years from March before it, their leap days, and its day in the year
from March. -/
theorem toDays_mk (year : Int) (month day : Nat) :
    (Date.mk year month day).toDays =
      365 * yearFromMarch year month + leapDays (yearFromMarch year month) +
        (monthStart (monthFromMarch month) + (day - 1) : Nat) - epochOffset := by
  rw [← eraStart_add_yearStart]
  unfold Date.toDays yearFromMarch monthFromMarch
  simp only [Nat.cast_add]
  omega

/-- The date after a date has the next number. -/
theorem toDays_next {date : Date} (valid : date.isValid = true) :
    date.next.toDays = date.toDays + 1 := by
  obtain ⟨year, month, day⟩ := date
  obtain ⟨⟨monthLeast, monthMost⟩, dayLeast, dayMost⟩ := (isValid_mk year month day).mp valid
  simp only [Date.next]
  by_cases inside : day < monthLength year month
  · rw [if_pos inside, toDays_mk, toDays_mk]
    omega
  · have last : day = monthLength year month := by omega
    rw [if_neg inside]
    by_cases february : month = 2
    · subst february
      have length := monthLength_february year
      have leap := leapDays_eq year
      rw [if_pos (by decide), toDays_mk, toDays_mk]
      simp only [yearFromMarch, monthFromMarch, monthStart]
      norm_num
      omega
    · have following := monthStart_add_monthLength year monthLeast monthMost february
      by_cases december : month < 12
      · have sameYear : yearFromMarch year (month + 1) = yearFromMarch year month := by
          unfold yearFromMarch
          split <;> split <;> omega
        have nextMonth : monthFromMarch (month + 1) = monthFromMarch month + 1 := by
          unfold monthFromMarch
          split <;> split <;> omega
        rw [if_pos december, toDays_mk, toDays_mk, sameYear, nextMonth]
        omega
      · obtain rfl : month = 12 := by omega
        rw [if_neg december, toDays_mk, toDays_mk]
        simp only [yearFromMarch, monthFromMarch, monthStart] at following ⊢
        norm_num at following ⊢
        omega

/-! ## The date with a number -/

/-- A day of an era lies in the century that its number shows, but for the leap day that ends the
era. -/
theorem div_century {century day : Nat} (c : century < 4)
    (inside : day < 36524 ∨ day = 36524 ∧ century = 3) :
    (36524 * century + day) / 36524 = century + (36524 * century + day) / 146096 := by
  rcases inside with inside | ⟨rfl, rfl⟩ <;> omega

/-- Four years without their leap day are 1460 days: dividing by them counts the leap days before a
day of an era, and at the end of four years possibly one more, but no more than there are days
since. -/
theorem div_quadrennium {century quadrennium year day : Nat} (c : century < 4)
    (q : quadrennium < 25) (y : year < 4) (inside : day < 365 ∨ day = 365 ∧ year = 3) :
    ∃ extra, (36524 * century + (1461 * quadrennium + 365 * year + day)) / 1460 =
        25 * century + quadrennium + extra ∧ extra ≤ day ∧ day ≤ 364 + extra := by
  refine ⟨(24 * century + quadrennium + 365 * year + day) / 1460, ?_, ?_, ?_⟩ <;> omega

theorem yearOfEra_add {century quadrennium year day : Nat} (c : century < 4)
    (q : quadrennium < 25) (y : year < 4)
    (inside : day < 365 ∨ day = 365 ∧ year = 3 ∧ (quadrennium = 24 → century = 3)) :
    yearOfEra (36524 * century + (1461 * quadrennium + 365 * year + day)) =
      100 * century + 4 * quadrennium + year := by
  have inCentury : 1461 * quadrennium + 365 * year + day < 36524 ∨
      1461 * quadrennium + 365 * year + day = 36524 ∧ century = 3 := by
    rcases inside with short | ⟨long, leap, late⟩
    · omega
    · by_cases last : quadrennium = 24
      · have final := late last
        omega
      · omega
  have inQuadrennium : day < 365 ∨ day = 365 ∧ year = 3 :=
    inside.imp_right fun leapDay => ⟨leapDay.1, leapDay.2.1⟩
  obtain ⟨extra, quadrennia, least, most⟩ := div_quadrennium c q y inQuadrennium
  rw [yearOfEra, div_century c inCentury, quadrennia]
  -- The case splits are used up, and would only multiply in the arithmetic that is left.
  clear inCentury inside inQuadrennium quadrennia
  omega

/-- The year of an era is found from any of its days. -/
theorem yearOfEra_yearStart_add {year day : Nat} (small : year < 400)
    (inside : day < 365 ∨ day = 365 ∧ year % 4 = 3 ∧ (year % 100 = 99 → year = 399)) :
    yearOfEra (yearStart year + day) = year := by
  have start : yearStart year + day =
      36524 * (year / 100) + (1461 * (year % 100 / 4) + 365 * (year % 4) + day) := by
    unfold yearStart
    omega
  rw [start, yearOfEra_add]
  · omega
  · omega
  · omega
  · omega
  · rcases inside with short | ⟨long, leap, late⟩
    · exact .inl short
    · refine .inr ⟨long, leap, ?_⟩
      intro last
      have final : year = 399 := late (by omega)
      omega

/-- The month is found from any of its days. -/
theorem month_of_day {month day : Nat} (inside : monthStart month + day < monthStart (month + 1)) :
    (5 * (monthStart month + day) + 2) / 153 = month := by
  unfold monthStart at *
  omega

theorem month_of_monthFromMarch {month : Nat} (least : 1 ≤ month) (most : month ≤ 12) :
    (if monthFromMarch month < 10 then monthFromMarch month + 3 else monthFromMarch month - 9) =
      month := by
  unfold monthFromMarch
  split <;> split <;> omega

/-- The date with a number, when the number is given by the year from March, the month from March
and the day. -/
theorem ofDays_eq {year : Int} {month day : Nat}
    (inMonth : monthStart month + day < monthStart (month + 1))
    (inYear : monthStart month + day < 365 ∨
      monthStart month + day = 365 ∧ isLeap (year + 1) = true) :
    ofDays (365 * year + leapDays year + (monthStart month + day : Nat) - epochOffset) =
      ⟨year + if (if month < 10 then month + 3 else month - 9) ≤ 2 then 1 else 0,
        if month < 10 then month + 3 else month - 9, day + 1⟩ := by
  have isMonth := month_of_day inMonth
  have isDayOfMonth : monthStart month + day - monthStart month = day := Nat.add_sub_cancel_left ..
  generalize monthStart month + day = dayOfYear at *
  obtain ⟨era, yearInEra, rfl, inEra⟩ :
      ∃ era : Int, ∃ yearInEra : Nat, year = era * 400 + yearInEra ∧ yearInEra < 400 :=
    ⟨year / 400, (year % 400).toNat, by omega, by omega⟩
  have leap : dayOfYear < 365 ∨
      dayOfYear = 365 ∧ yearInEra % 4 = 3 ∧ (yearInEra % 100 = 99 → yearInEra = 399) := by
    refine inYear.imp_right fun leapDay => ⟨leapDay.1, ?_⟩
    have isLeapYear := (isLeap_iff _).mp leapDay.2
    omega
  have shifted : 365 * (era * 400 + yearInEra : Int) + leapDays (era * 400 + yearInEra) +
      dayOfYear - epochOffset + epochOffset =
        era * daysPerEra + (yearStart yearInEra + dayOfYear : Nat) := by
    unfold leapDays daysPerEra yearStart
    omega
  have within : yearStart yearInEra + dayOfYear < 146097 := by
    unfold yearStart
    omega
  have isEra : (era * daysPerEra + (yearStart yearInEra + dayOfYear : Nat)) / daysPerEra = era := by
    unfold daysPerEra
    omega
  have isDayOfEra :
      ((era * daysPerEra + (yearStart yearInEra + dayOfYear : Nat)) % daysPerEra).toNat =
        yearStart yearInEra + dayOfYear := by
    unfold daysPerEra
    omega
  simp only [ofDays, shifted, isEra, isDayOfEra, yearOfEra_yearStart_add inEra leap,
    Nat.add_sub_cancel_left, isMonth, isDayOfMonth]

/-- A day that a month has lies before the next month, and before the end of the year from March,
which is a day later if the February that ends it has a leap day. -/
theorem day_inside {year : Int} {month day : Nat}
    (valid : (Date.mk year month day).isValid = true) :
    monthStart (monthFromMarch month) + (day - 1) < monthStart (monthFromMarch month + 1) ∧
      (monthStart (monthFromMarch month) + (day - 1) < 365 ∨
        monthStart (monthFromMarch month) + (day - 1) = 365 ∧
          isLeap (yearFromMarch year month + 1) = true) := by
  obtain ⟨⟨monthLeast, monthMost⟩, dayLeast, dayMost⟩ := (isValid_mk year month day).mp valid
  by_cases february : month = 2
  · subst february
    have length := monthLength_february year
    have start : monthStart (monthFromMarch 2) = 337 := rfl
    have following : monthStart (monthFromMarch 2 + 1) = 367 := rfl
    have sameYear : yearFromMarch year 2 + 1 = year := Int.sub_add_cancel year 1
    rw [start, following, sameYear]
    by_cases leap : isLeap year = true
    · rw [if_pos leap] at length
      simp only [leap, and_true]
      omega
    · rw [if_neg leap] at length
      omega
  · have following := monthStart_add_monthLength year monthLeast monthMost february
    have early : monthFromMarch month < 11 := by
      unfold monthFromMarch
      split <;> omega
    refine ⟨by omega, .inl ?_⟩
    unfold monthStart at *
    omega

/-- A date is found from its number. -/
theorem ofDays_toDays {date : Date} (valid : date.isValid = true) : ofDays date.toDays = date := by
  obtain ⟨year, month, day⟩ := date
  obtain ⟨⟨monthLeast, monthMost⟩, dayLeast, -⟩ := (isValid_mk year month day).mp valid
  obtain ⟨inMonth, inYear⟩ := day_inside valid
  rw [toDays_mk, ofDays_eq inMonth inYear, month_of_monthFromMarch monthLeast monthMost,
    Nat.sub_add_cancel dayLeast]
  unfold yearFromMarch
  split <;> simp

/-! ## Counting from a date -/

theorem isValid_iterate {date : Date} (valid : date.isValid = true) (count : Nat) :
    (Date.next^[count] date).isValid = true := by
  induction count with
  | zero => exact valid
  | succ count ih =>
      rw [Function.iterate_succ_apply']
      exact isValid_next ih

theorem toDays_iterate {date : Date} (valid : date.isValid = true) (count : Nat) :
    (Date.next^[count] date).toDays = date.toDays + count := by
  induction count with
  | zero => simp
  | succ count ih =>
      rw [Function.iterate_succ_apply', toDays_next (isValid_iterate valid count), ih]
      push_cast
      omega

/-- Every number is that of a date: one counts on from the beginning of four hundred years. -/
theorem exists_toDays_eq (days : Int) :
    ∃ date : Date, date.isValid = true ∧ date.toDays = days := by
  have valid : (Date.mk (1970 + 400 * (days / 146097)) 1 1).isValid = true := by
    rw [isValid_mk]
    exact ⟨⟨le_refl 1, by decide⟩, le_refl 1, one_le_monthLength ..⟩
  refine ⟨Date.next^[(days % 146097).toNat] _, isValid_iterate valid _, ?_⟩
  rw [toDays_iterate valid, toDays_mk]
  simp only [yearFromMarch, monthFromMarch, monthStart, leapDays, epochOffset]
  norm_num
  omega

theorem isValid_ofDays (days : Int) : (ofDays days).isValid = true := by
  obtain ⟨date, valid, rfl⟩ := exists_toDays_eq days
  rwa [ofDays_toDays valid]

@[simp]
theorem toDays_ofDays (days : Int) : (ofDays days).toDays = days := by
  obtain ⟨date, valid, rfl⟩ := exists_toDays_eq days
  rw [ofDays_toDays valid]

/-- The number of a date is the number of days by which it is reached in counting. -/
theorem isDay_iff {date : Date} (valid : date.isValid = true) (days : Int) :
    date.IsDay days ↔ date.toDays = days := by
  have start : epoch.toDays = 0 := by decide
  have forward := toDays_iterate isValid_epoch days.toNat
  have backward := toDays_iterate valid (-days).toNat
  rw [start] at forward
  constructor
  · intro counted
    have same : (Date.next^[days.toNat] epoch).toDays = (Date.next^[(-days).toNat] date).toDays :=
      congrArg Date.toDays counted
    omega
  · rintro rfl
    have same : (Date.next^[date.toDays.toNat] epoch).toDays =
        (Date.next^[(-date.toDays).toNat] date).toDays := by
      omega
    rw [Date.IsDay, ← ofDays_toDays (isValid_iterate isValid_epoch _), same,
      ofDays_toDays (isValid_iterate valid _)]

theorem isDay_ofDays (days : Int) : (ofDays days).IsDay days :=
  (isDay_iff (isValid_ofDays days) days).mpr (toDays_ofDays days)

end Frontend.Calendar
