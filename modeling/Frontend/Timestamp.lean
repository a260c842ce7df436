import Frontend.Calendar
import Frontend.Text.Integer

/-!
# Reproducible timestamps

A build may be given its time as a number of seconds from the start of 1970, so that two builds
agree. An override that is not such a number, or lies outside the years that can be shown, is
ignored.
-/

namespace Frontend

/-- A point in time, in seconds from the start of 1970. -/
structure Timestamp where
  seconds : Int
deriving DecidableEq, Repr

namespace Timestamp

/-- The first second of the year -262143. -/
def earliest : Int := -8334601228800

/-- The last second of the year 262142. -/
def latest : Int := 8210266876799

/-- The time that an override asks for, unless it is to be ignored. -/
def ofOverride? (text : String) : Option Timestamp :=
  ((Text.Integer.parse? (Text.trimBlanks text.toList)).filter fun seconds =>
    earliest ≤ seconds && seconds ≤ latest).map Timestamp.mk

/-- The time that a build goes by: what the override asks for, and the current time if there is no
override or it is to be ignored. -/
def chosen (override : Option String) (now : Timestamp) : Timestamp :=
  (override.bind ofOverride?).getD now

/-- The seconds of a day. -/
def secondsPerDay : Int := 86400

/-- The day of a point in time, in coordinated universal time. -/
def date (time : Timestamp) : Calendar.Date :=
  Calendar.ofDays (time.seconds / secondsPerDay)

/-- The second of the day. -/
def secondOfDay (time : Timestamp) : Nat :=
  (time.seconds % secondsPerDay).toNat

/-- The date as year, month and day. -/
def dateText (time : Timestamp) : String :=
  time.date.text

/-- The clock as hours, minutes and seconds. -/
def clockText (time : Timestamp) : String :=
  let second := time.secondOfDay
  Calendar.padded 2 (second / 3600) ++ ":" ++ Calendar.padded 2 (second / 60 % 60) ++ ":" ++
    Calendar.padded 2 (second % 60)

end Timestamp

end Frontend
