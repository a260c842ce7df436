import Frontend.Compilation.Classification

/-!
# Before and after the hook

A report that is given to the compilation is identified and marked as written before anything else
happens to it, so that it cannot be delivered again, not even by the hook that is about to see it.
Its severity is fixed at the same time. Once the hook has returned, the report is counted, and the
directive of the hook, or by default a table, decides how the call ends.
-/

namespace Frontend

/-- What the hook is shown before it acts: the report as the compilation sees it at that moment. -/
structure Notice where
  report : Report
  severity : Severity
  /-- The text of the location. -/
  place : String
  /-- The texts of the trail, outermost first. -/
  trail : List String
  /-- The counters, this report not yet counted. -/
  counters : Tally
deriving DecidableEq

namespace Compilation

/-- Marks an id as written, and says whether it was not. -/
def noteWritten (compilation : Compilation) (id : ReportId) : Bool × Compilation :=
  let (wasNew, ledger) := compilation.ledger.noteWritten id
  (wasNew, { compilation with ledger := ledger })

/-- Accepts an identified report: marks it as written, and answers its severity if it is shown. -/
def accept (compilation : Compilation) (id : ReportId) (report : Report) :
    Option Severity × Compilation :=
  let marked := (compilation.noteWritten id).2
  (if marked.shows report then some (marked.severity report) else none, marked)

/-- The texts of the trail of a report, outermost first. -/
def trailTexts (compilation : Compilation) (report : Report) : List String :=
  report.trail.map fun frame => compilation.locationText frame.location ++ " " ++ frame.symbol

/-- What a hook is shown of a report. -/
def notice (compilation : Compilation) (report : Report) : Notice where
  report := report
  severity := compilation.severity report
  place := compilation.locationText report.location
  trail := compilation.trailTexts report
  counters := compilation.counters

/-- Counts a delivered report of a severity. -/
def countIn (counters : Tally) : Severity → Tally
  | .error => { counters with errors := counters.errors + 1, exitCode := 1 }
  | .warning => { counters with warnings := counters.warnings + 1 }
  | .hint => { counters with hints := counters.hints + 1 }
  | .debug | .trace | .fatal => counters

/-- Counts a delivered report of a severity. -/
def count (compilation : Compilation) (severity : Severity) : Compilation :=
  { compilation with counters := countIn compilation.counters severity }

/-- What a report of a severity does to the compilation by default. A fatal one aborts. An error
raises when there are too many; below that it does what the caller asked for, except that nothing
aborts while an editor is served. -/
def defaultAction (compilation : Compilation) (severity : Severity) (handling : OnError) :
    Directive :=
  match severity with
  | .fatal => .abort
  | .error =>
      if compilation.counters.errorLimit ≤ compilation.counters.errors then .raise
      else
        match handling with
        | .nothing => .default
        | .abort => if compilation.options.servesEditor then .default else .abort
        | .raise => .raise
  | _ => .default

/-- What is done about a report: what the hook wants, or by default what the table says. -/
def action (compilation : Compilation) (severity : Severity) (handling : OnError) :
    Directive → Directive
  | .default => compilation.defaultAction severity handling
  | .doNothing => .doNothing
  | .abort => .abort
  | .raise => .raise

/-- Ends a call by an action. Unless it stops something, the caller is told the directive of the
hook. -/
def conclude (compilation : Compilation) (directive : Directive) :
    (action : Directive) → Verdict × Compilation
  | .abort =>
      let exitCode := max compilation.counters.exitCode 1
      (.error (.aborted exitCode),
        { compilation with counters := { compilation.counters with exitCode := exitCode } })
  | .raise => (.error (.recoverable compilation.counters.errors), compilation)
  | .default | .doNothing => (.ok directive, compilation)

/-- Ends the call for a delivered report, which is counted first. -/
def settle (compilation : Compilation) (severity : Severity) (directive : Directive)
    (handling : OnError) : Verdict × Compilation :=
  let counted := compilation.count severity
  counted.conclude directive (counted.action severity handling directive)

/-- How a call ends has nothing to do with the ledger. -/
theorem conclude_ledger (compilation : Compilation) (directive action : Directive) :
    (compilation.conclude directive action).2.ledger = compilation.ledger := by
  cases action <;> rfl

@[simp]
theorem settle_ledger (compilation : Compilation) (severity : Severity) (directive : Directive)
    (handling : OnError) :
    (compilation.settle severity directive handling).2.ledger = compilation.ledger :=
  conclude_ledger _ directive _

end Compilation

end Frontend
