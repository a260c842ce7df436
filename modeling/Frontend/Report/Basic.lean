import Frontend.Note.Kind
import Frontend.Source.Location

/-!
# Reports

A report says something of one kind about one location. It carries what its kind has to say, and,
once it has been identified, an id and the trail of instantiations in which that happened.
-/

namespace Frontend

/-- The number of a report within one compilation. -/
structure ReportId where
  number : Nat
deriving DecidableEq, Repr

/-- An id as it is shown to people. -/
def ReportId.text (id : ReportId) : String :=
  "#" ++ toString id.number

/-- One step of an instantiation: the symbol being instantiated, and where. -/
structure Frame where
  location : Location
  symbol : String
deriving DecidableEq, Repr

/-- What a report has to say. -/
inductive Payload where
  | error (message : String) (symbol : Option String)
  | warning (message : String) (symbol : Option String)
  | hint (message : String) (symbol : Option String)
  /-- About the compiler itself, with the place in it that raised the report. -/
  | internal (message : String) (origin : Option String)
  | trace (flag : TraceFlag) (message : String)
  /-- A spelling that was found, and the one that the style asks for. -/
  | linter (wanted got : String)
  | nilCheck (expression : String)
  | user (message : String)
deriving DecidableEq, Repr

/-- A report. -/
structure Report where
  id : Option ReportId
  kind : NoteKind
  location : Location
  trail : List Frame
  payload : Payload
deriving DecidableEq, Repr

namespace Report

/-! ## Making reports -/

/-- A report that has not been identified. -/
def fresh (kind : NoteKind) (location : Location) (payload : Payload) : Report where
  id := none
  kind := kind
  location := location
  trail := []
  payload := payload

/-- A report of an error. -/
def error (kind : NoteKind) (location : Location) (message : String) : Report :=
  fresh kind location (.error message none)

/-- A report of a warning. -/
def warning (kind : NoteKind) (location : Location) (message : String) : Report :=
  fresh kind location (.warning message none)

/-- A report of a hint. -/
def hint (kind : NoteKind) (location : Location) (message : String) : Report :=
  fresh kind location (.hint message none)

/-- A hint that shows what a symbol expands to. -/
def expansion (kind : NoteKind) (location : Location) (symbol expanded : String) : Report :=
  fresh kind location (.hint expanded (some symbol))

/-- A report about the compiler itself. -/
def internal (kind : NoteKind) (location : Location) (message : String) : Report :=
  fresh kind location (.internal message none)

/-- A tracing report. Its flag is that of its kind, or semantic tracing for a kind without one. -/
def trace (kind : NoteKind) (location : Location) (message : String) : Report :=
  fresh kind location (.trace (kind.traceFlag?.getD .semTrace) message)

/-- A report of a style check. -/
def linter (kind : NoteKind) (location : Location) (wanted got : String) : Report :=
  fresh kind location (.linter wanted got)

/-- A report of a nil check. -/
def nilCheck (kind : NoteKind) (location : Location) (expression : String) : Report :=
  fresh kind location (.nilCheck expression)

/-- A report issued by the user. -/
def user (kind : NoteKind) (location : Location) (message : String) : Report :=
  fresh kind location (.user message)

/-- Says which symbol the report is about; only errors, warnings and hints have one. -/
def about (report : Report) (symbol : String) : Report :=
  match report.payload with
  | .error message _ => { report with payload := .error message (some symbol) }
  | .warning message _ => { report with payload := .warning message (some symbol) }
  | .hint message _ => { report with payload := .hint message (some symbol) }
  | _ => report

/-- Says where in the compiler the report was raised; only internal reports have such a place. -/
def raisedAt (report : Report) (origin : String) : Report :=
  match report.payload with
  | .internal message _ => { report with payload := .internal message (some origin) }
  | _ => report

/-- The symbol that the report is about. -/
def symbol? (report : Report) : Option String :=
  match report.payload with
  | .error _ symbol => symbol
  | .warning _ symbol => symbol
  | .hint _ symbol => symbol
  | _ => none

/-! ## What saying more about a report leaves alone -/

section

variable (report : Report) (text : String)

@[simp]
theorem about_id : (report.about text).id = report.id := by
  unfold about
  split <;> rfl

@[simp]
theorem about_trail : (report.about text).trail = report.trail := by
  unfold about
  split <;> rfl

@[simp]
theorem raisedAt_id : (report.raisedAt text).id = report.id := by
  unfold raisedAt
  split <;> rfl

@[simp]
theorem raisedAt_trail : (report.raisedAt text).trail = report.trail := by
  unfold raisedAt
  split <;> rfl

end

end Report

end Frontend
