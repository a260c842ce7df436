/-!
# How a report ends

The hook answers each report with a directive. By default a table decides what an error does to the
compilation; the caller of the table says how it wants errors handled.
-/

namespace Frontend

/-- What the hook wants done with a report. -/
inductive Directive where
  /-- Let the table decide. -/
  | default
  | doNothing
  /-- Stop the compiler. -/
  | abort
  /-- Stop the current compilation, which can be recovered from. -/
  | raise
deriving DecidableEq, Repr

/-- How errors are handled when the table decides. -/
inductive OnError where
  | nothing
  | abort
  | raise
deriving DecidableEq, Repr

/-- Why a report stopped the compilation. -/
inductive Stop where
  /-- Too many errors, or a caller or hook that asked for it. -/
  | recoverable (errors : Nat)
  /-- The compiler should exit with this code. -/
  | aborted (exitCode : Nat)
deriving DecidableEq, Repr

namespace Stop

/-- The compilation can be recovered from. -/
def isRecoverable : Stop → Bool
  | .recoverable _ => true
  | .aborted _ => false

/-- The text of a stop. -/
def message : Stop → String
  | .recoverable errors => "compilation stopped after " ++ toString errors ++ " error(s)"
  | .aborted exitCode => "compilation aborted (exit code " ++ toString exitCode ++ ")"

end Stop

/-- What a call that reports answers: the directive of the hook, or a stop. -/
abbrev Verdict :=
  Except Stop Directive

/-- What has been counted, and the number of errors that stops a compilation. -/
structure Tally where
  errors : Nat
  errorLimit : Nat
  warnings : Nat
  hints : Nat
  exitCode : Nat
deriving DecidableEq, Repr

namespace Tally

/-- Nothing has been counted, and the first error stops. -/
def initial : Tally where
  errors := 0
  errorLimit := 1
  warnings := 0
  hints := 0
  exitCode := 0

/-- The number of errors that is never reached. -/
def unlimited : Nat := 18446744073709551615

/-- Sets the number of errors that stops a compilation; zero stands for no limit. -/
def limitErrors (counters : Tally) (limit : Nat) : Tally :=
  { counters with errorLimit := if limit = 0 then unlimited else limit }

/-- The counters with their names, on one line. -/
def debugText (counters : Tally) : String :=
  "Counters \x7b errors: " ++ toString counters.errors ++
    ", error_max: " ++ toString counters.errorLimit ++
    ", warnings: " ++ toString counters.warnings ++
    ", hints: " ++ toString counters.hints ++
    ", exit_code: " ++ toString counters.exitCode ++ " \x7d"

end Tally

end Frontend
