/-!
# The civil calendar

Days are counted from the first of January 1970 in the Gregorian calendar, extended to all years
before and after. The year is taken to begin in March, so that a leap day ends it; four hundred
years are one era of 146097 days, and within an era all counts are natural numbers.
-/

namespace Frontend.Calendar

/-- A day of the civil calendar. -/
structure Date where
  year : Int
  month : Nat
  day : Nat
deriving DecidableEq, Repr

/-- The days of one era of four hundred years. -/
def daysPerEra : Int := 146097

/-- The days from the first of March of year 0 to the first of January 1970. -/
def epochOffset : Int := 719468

/-- Every fourth year is a leap year, except that of the century years only every fourth is. -/
def isLeap (year : Int) : Bool :=
  year % 4 == 0 && (year % 100 != 0 || year % 400 == 0)

/-- The number of days of a month. -/
def monthLength (year : Int) : Nat → Nat
  | 2 => if isLeap year then 29 else 28
  | 4 | 6 | 9 | 11 => 30
  | _ => 31

/-- The year has this month, and the month this day. -/
def Date.isValid (date : Date) : Bool :=
  1 ≤ date.month && date.month ≤ 12 && 1 ≤ date.day && date.day ≤ monthLength date.year date.month

/-- The year of an era in which a day of the era falls. A day is taken off for each leap day, and
added for each century year without one. -/
def yearOfEra (dayOfEra : Nat) : Nat :=
  (dayOfEra - dayOfEra / 1460 + dayOfEra / 36524 - dayOfEra / 146096) / 365

/-- The day of an era on which a year begins. -/
def yearStart (yearOfEra : Nat) : Nat :=
  365 * yearOfEra + yearOfEra / 4 - yearOfEra / 100

/-- The day of the year on which a month begins, counting months from March. -/
def monthStart (monthFromMarch : Nat) : Nat :=
  (153 * monthFromMarch + 2) / 5

/-- The date of a day counted from 1970. -/
def ofDays (days : Int) : Date :=
  let shifted := days + epochOffset
  let era := shifted / daysPerEra
  let dayOfEra := (shifted % daysPerEra).toNat
  let year := yearOfEra dayOfEra
  let dayOfYear := dayOfEra - yearStart year
  let monthFromMarch := (5 * dayOfYear + 2) / 153
  let month := if monthFromMarch < 10 then monthFromMarch + 3 else monthFromMarch - 9
  { year := era * 400 + year + if month ≤ 2 then 1 else 0
    month := month
    day := dayOfYear - monthStart monthFromMarch + 1 }

/-- The number of a date, counted from 1970. -/
def Date.toDays (date : Date) : Int :=
  let year := if date.month ≤ 2 then date.year - 1 else date.year
  let monthFromMarch := if date.month ≤ 2 then date.month + 9 else date.month - 3
  let dayOfEra := yearStart (year % 400).toNat + monthStart monthFromMarch + (date.day - 1)
  year / 400 * daysPerEra + dayOfEra - epochOffset

/-! ## Texts -/

/-- A number with zeros in front up to a number of digits. -/
def padded (width value : Nat) : String :=
  let digits := Nat.toDigits 10 value
  String.ofList (List.replicate (width - digits.length) '0' ++ digits)

/-- A year has at least four digits. Years before 0 and after 9999 carry a sign. -/
def yearText (year : Int) : String :=
  if year < 0 then "-" ++ padded 4 year.natAbs
  else if year ≤ 9999 then padded 4 year.natAbs
  else "+" ++ padded 4 year.natAbs

/-- Year, month and day with hyphens between them. -/
def Date.text (date : Date) : String :=
  yearText date.year ++ "-" ++ padded 2 date.month ++ "-" ++ padded 2 date.day

end Frontend.Calendar
