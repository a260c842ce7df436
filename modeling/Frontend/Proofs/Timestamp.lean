import Frontend.Proofs.Calendar.DayCount
import Frontend.Proofs.Calendar.Reading
import Frontend.Timestamp

/-!
# Reproducible timestamps are exact

An override is used exactly when it is an integer of 64 bits, between blanks or not, that lies in
the range of the years that can be shown. The date and the clock that are shown then are those of
the Gregorian calendar and of a day of 86400 seconds, before 1970 as after it; both can be read back,
so no two times are shown alike.
-/

namespace Frontend.Timestamp

open Calendar Text.Integer

/-! ## Overrides -/

/-- The text is an integer literal of 64 bits between blanks, with this value. -/
def Asks (text : String) (seconds : Int) : Prop :=
  ∃ literal, Text.IsTrimmed text.toList literal ∧ IsLiteral literal seconds ∧
    least ≤ seconds ∧ seconds ≤ greatest

/-- The time can be shown. -/
def IsShowable (seconds : Int) : Prop :=
  earliest ≤ seconds ∧ seconds ≤ latest

theorem ofOverride?_eq_some_iff {text : String} {seconds : Int} :
    ofOverride? text = some ⟨seconds⟩ ↔ Asks text seconds ∧ IsShowable seconds := by
  constructor
  · intro asked
    obtain ⟨found, parsed, same⟩ := Option.map_eq_some_iff.mp asked
    obtain rfl : found = seconds := congrArg Timestamp.seconds same
    rw [Option.filter_eq_some_iff, parse?_eq_some_iff] at parsed
    obtain ⟨⟨literal, fits⟩, showable⟩ := parsed
    exact ⟨⟨_, Text.isTrimmed_trimBlanks text.toList, literal, fits⟩,
      by simpa [IsShowable] using showable⟩
  · rintro ⟨⟨literal, trimmed, isLiteral, fits⟩, showable⟩
    rw [ofOverride?, Text.trimBlanks_eq_iff.mpr trimmed,
      parse?_eq_some_iff.mpr ⟨isLiteral, fits⟩, Option.filter_some, if_pos]
    · rfl
    · simpa [IsShowable] using showable

/-- An override that is used gives its own time, whatever the current time is. -/
theorem chosen_eq_iff {text : String} {seconds : Int} :
    (∀ now, chosen (some text) now = ⟨seconds⟩) ↔ Asks text seconds ∧ IsShowable seconds := by
  rw [← ofOverride?_eq_some_iff]
  constructor
  · intro used
    cases asked : ofOverride? text with
    | some time => rw [← used time, chosen, Option.bind_some, asked, Option.getD_some]
    | none =>
        -- Without a time of its own the override would give two different current times.
        have early := used ⟨seconds + 1⟩
        rw [chosen, Option.bind_some, asked, Option.getD_none, Timestamp.mk.injEq] at early
        omega
  · intro asked now
    rw [chosen, Option.bind_some, asked, Option.getD_some]

theorem chosen_eq_now_iff {text : String} :
    (∀ now, chosen (some text) now = now) ↔
      ¬∃ seconds, Asks text seconds ∧ IsShowable seconds := by
  constructor
  · rintro ignored ⟨seconds, asked⟩
    have used := chosen_eq_iff.mpr asked ⟨seconds + 1⟩
    rw [ignored, Timestamp.mk.injEq] at used
    omega
  · intro nothing now
    cases asked : ofOverride? text with
    | some time => exact absurd ⟨time.seconds, ofOverride?_eq_some_iff.mp asked⟩ nothing
    | none => rw [chosen, Option.bind_some, asked, Option.getD_none]

/-! ## Clocks -/

/-- A time of the day. -/
structure Clock where
  hour : Nat
  minute : Nat
  second : Nat
deriving DecidableEq, Repr

namespace Clock

/-- The day has this hour, the hour this minute and the minute this second. -/
def isValid (clock : Clock) : Bool :=
  clock.hour < 24 && clock.minute < 60 && clock.second < 60

/-- The seconds since the day began. -/
def seconds (clock : Clock) : Nat :=
  3600 * clock.hour + 60 * clock.minute + clock.second

/-- Reads a clock back, two digits for each of hour, minute and second. -/
def ofText? (text : String) : Option Clock :=
  match text.toList with
  | [hour₁, hour₀, ':', minute₁, minute₀, ':', second₁, second₀] => do
      let hour ← magnitude? [hour₁, hour₀]
      let minute ← magnitude? [minute₁, minute₀]
      let second ← magnitude? [second₁, second₀]
      some ⟨hour, minute, second⟩
  | _ => none

end Clock

/-- The time of the day. -/
def clock (time : Timestamp) : Clock where
  hour := time.secondOfDay / 3600
  minute := time.secondOfDay / 60 % 60
  second := time.secondOfDay % 60

variable (time : Timestamp)

theorem secondOfDay_lt : time.secondOfDay < 86400 := by
  unfold secondOfDay secondsPerDay
  omega

theorem isValid_clock : time.clock.isValid = true := by
  have small := time.secondOfDay_lt
  have hour : time.secondOfDay / 3600 < 24 := by omega
  have minute : time.secondOfDay / 60 % 60 < 60 := by omega
  have second : time.secondOfDay % 60 < 60 := by omega
  simp only [Clock.isValid, clock, hour, minute, second, decide_true, Bool.and_true]

theorem seconds_clock : time.clock.seconds = time.secondOfDay := by
  simp only [Clock.seconds, clock]
  omega

theorem ofText?_clockText : Clock.ofText? time.clockText = some time.clock := by
  have small := time.secondOfDay_lt
  obtain ⟨hour₁, hour₀, hourText, isHour⟩ :=
    exists_padded_two (time.secondOfDay / 3600) (by omega)
  obtain ⟨minute₁, minute₀, minuteText, isMinute⟩ :=
    exists_padded_two (time.secondOfDay / 60 % 60) (by omega)
  obtain ⟨second₁, second₀, secondText, isSecond⟩ :=
    exists_padded_two (time.secondOfDay % 60) (by omega)
  have written : time.clockText.toList =
      [hour₁, hour₀, ':', minute₁, minute₀, ':', second₁, second₀] := by
    simp [clockText, hourText, minuteText, secondText]
  rw [Clock.ofText?, written]
  simp only [isHour, isMinute, isSecond]
  rfl

/-! ## Both texts -/

/-- Reads a time back from its date and its clock. -/
def ofTexts? (date clock : String) : Option Timestamp := do
  let date ← Date.ofText? date
  let clock ← Clock.ofText? clock
  some ⟨date.toDays * secondsPerDay + clock.seconds⟩

theorem ofText?_dateText : Date.ofText? time.dateText = some time.date := by
  have valid : (Date.mk time.date.year time.date.month time.date.day).isValid = true :=
    isValid_ofDays _
  obtain ⟨⟨-, month⟩, -, day⟩ := (isValid_mk ..).mp valid
  have short := (monthLength_between time.date.year time.date.month).2
  exact ofText?_text (by omega) (by omega)

/-- A time is read back from its texts. -/
theorem ofTexts?_texts : ofTexts? time.dateText time.clockText = some time := by
  have day : time.date.toDays = time.seconds / secondsPerDay := toDays_ofDays _
  have rest : (time.secondOfDay : Int) = time.seconds % secondsPerDay := by
    unfold secondOfDay secondsPerDay
    omega
  have whole := Int.ediv_mul_add_emod time.seconds secondsPerDay
  simp only [ofTexts?, ofText?_dateText, ofText?_clockText, Option.bind_eq_bind, Option.bind_some,
    day, seconds_clock, rest, whole]

/-- An override is used exactly when it is an integer literal of 64 bits, between blanks or not, in
the range of what can be shown; otherwise the current time is. Every time is shown by a date of the
calendar and a clock within the day that lie as many seconds after the beginning of 1970, or before
it, as the time says, counted day by day; it is read back from the two texts, and no other time is
shown by them. -/
theorem overrides_are_shown_exactly :
    (∀ (text : String) (seconds : Int),
      (∀ now, chosen (some text) now = ⟨seconds⟩) ↔ Asks text seconds ∧ IsShowable seconds) ∧
    (∀ text : String,
      (∀ now, chosen (some text) now = now) ↔
        ¬∃ seconds, Asks text seconds ∧ IsShowable seconds) ∧
    (∀ time : Timestamp, ∃ (date : Date) (clock : Clock) (days : Int),
      Date.ofText? time.dateText = some date ∧ Clock.ofText? time.clockText = some clock ∧
        date.isValid = true ∧ clock.isValid = true ∧ date.IsDay days ∧
        days * 86400 + clock.seconds = time.seconds) ∧
    (∀ time : Timestamp, ofTexts? time.dateText time.clockText = some time) ∧
    ∀ first second : Timestamp,
      first.dateText = second.dateText → first.clockText = second.clockText → first = second := by
  refine ⟨fun _ _ => chosen_eq_iff, fun _ => chosen_eq_now_iff, ?_, ofTexts?_texts, ?_⟩
  · intro time
    refine ⟨time.date, time.clock, time.seconds / secondsPerDay, time.ofText?_dateText,
      time.ofText?_clockText, isValid_ofDays _, time.isValid_clock, isDay_ofDays _, ?_⟩
    rw [seconds_clock]
    unfold secondOfDay secondsPerDay
    omega
  · intro first second sameDate sameClock
    have back := first.ofTexts?_texts
    rw [sameDate, sameClock, second.ofTexts?_texts] at back
    exact (Option.some.inj back).symm

/-- The limits are the ends of the years -262143 and 262142. -/
example :
    (Timestamp.mk earliest).dateText = "-262143-01-01" ∧
      (Timestamp.mk latest).dateText = "+262142-12-31" ∧
      (Timestamp.mk latest).clockText = "23:59:59" := by
  decide +kernel

end Frontend.Timestamp
