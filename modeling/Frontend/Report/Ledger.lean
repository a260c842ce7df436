import Frontend.Dictionary
import Frontend.Report.Fault

/-!
# The ledger of reports

The ledger hands out ids, keeps postponed reports, remembers which ids have been written, and holds
the stack of open instantiations. A report is identified once: it then gets the next id, and the
open instantiations at that moment become its trail.
-/

namespace Frontend

/-- What must be handed back to close an instantiation: how many were open with it. -/
structure FrameToken where
  depth : Nat
deriving DecidableEq, Repr

/-- The bookkeeping of all reports of a compilation. -/
structure Ledger where
  nextNumber : Nat
  postponed : Dictionary ReportId Report
  written : List ReportId
  /-- The open instantiations, outermost first. -/
  context : List Frame

namespace Ledger

/-- Nothing has been reported. -/
def initial : Ledger where
  nextNumber := 0
  postponed := .empty
  written := []
  context := []

/-! ## Ids -/

/-- All ids have numbers below this one. -/
def idLimit : Nat := 4294967295

/-- The report has an id, or there is one left for it. -/
def hasIdFor (ledger : Ledger) (report : Report) : Bool :=
  report.id.isSome || ledger.nextNumber < idLimit

/-- A report with its id and its trail. A report that has an id is left as it is, and one that is
identified outside all instantiations keeps the trail it has. -/
def identified (ledger : Ledger) (report : Report) : ReportId × Report × Ledger :=
  match report.id with
  | some id => (id, report, ledger)
  | none =>
      let id : ReportId := ⟨ledger.nextNumber⟩
      let trail := if ledger.context.isEmpty then report.trail else ledger.context
      (id, { report with id := some id, trail := trail },
        { ledger with nextNumber := ledger.nextNumber + 1 })

/-- Gives a report its id and its trail, unless the ids have run out. -/
def identify (ledger : Ledger) (report : Report) : Except Fault (ReportId × Report × Ledger) :=
  if ledger.hasIdFor report then .ok (ledger.identified report) else .error .idsExhausted

/-- Identifies a report and keeps it to be replayed by its id. -/
def postpone (ledger : Ledger) (report : Report) : Except Fault (ReportId × Ledger) := do
  let (id, report, ledger) ← ledger.identify report
  pure (id, { ledger with postponed := ledger.postponed.insert id report })

/-- The report kept under an id. -/
def postponed? (ledger : Ledger) (id : ReportId) : Option Report :=
  ledger.postponed.find? id

/-- The id has not been written. -/
def isUnwritten (ledger : Ledger) (id : ReportId) : Bool :=
  !ledger.written.contains id

/-- Marks an id as written, and says whether it was not. -/
def noteWritten (ledger : Ledger) (id : ReportId) : Bool × Ledger :=
  if ledger.isUnwritten id then (true, { ledger with written := id :: ledger.written })
  else (false, ledger)

/-! ## Instantiations -/

/-- Opens an instantiation. -/
def openFrame (ledger : Ledger) (frame : Frame) : FrameToken × Ledger :=
  let context := ledger.context ++ [frame]
  (⟨context.length⟩, { ledger with context := context })

/-- Closes an instantiation, which must be the innermost one. -/
def closeFrame (ledger : Ledger) (token : FrameToken) : Except Fault Ledger :=
  if ledger.context.length = token.depth then
    .ok { ledger with context := ledger.context.dropLast }
  else .error (.contextMismatch token.depth ledger.context.length)

/-- Demands that no instantiation is open. -/
def requireBalanced (ledger : Ledger) : Except Fault Unit :=
  match ledger.context.getLast? with
  | none => .ok ()
  | some innermost => .error (.contextLeft ledger.context.length innermost.symbol)

/-- Only the innermost instantiation can be closed, and nothing else is. -/
theorem closeFrame_eq_ok {ledger closed : Ledger} {token : FrameToken} :
    ledger.closeFrame token = .ok closed ↔
      ledger.context.length = token.depth ∧
        closed = { ledger with context := ledger.context.dropLast } := by
  unfold closeFrame
  split
  · rename_i innermost
    simp [innermost, eq_comm]
  · rename_i deeper
    simp [deeper]

/-! ## Identified reports -/

section

variable {ledger : Ledger} {report : Report}

/-- A report that has an id is not touched, and neither is the ledger. -/
theorem identified_of_id {id : ReportId} (known : report.id = some id) :
    ledger.identified report = (id, report, ledger) := by
  simp [identified, known]

theorem hasIdFor_of_id {id : ReportId} (known : report.id = some id) :
    ledger.hasIdFor report = true := by
  simp [hasIdFor, known]

theorem hasIdFor_of_new (new : report.id = none) :
    ledger.hasIdFor report = true ↔ ledger.nextNumber < idLimit := by
  simp [hasIdFor, new]

theorem identify_eq_ok {result : ReportId × Report × Ledger} :
    ledger.identify report = .ok result ↔
      ledger.hasIdFor report = true ∧ ledger.identified report = result := by
  unfold identify
  split
  · rename_i enough
    simp [enough]
  · rename_i exhausted
    simp [exhausted]

theorem identify_of_id (ledger : Ledger) {id : ReportId} (known : report.id = some id) :
    ledger.identify report = .ok (id, report, ledger) :=
  identify_eq_ok.mpr ⟨hasIdFor_of_id known, identified_of_id known⟩

/-- What is postponed is identified first. -/
theorem postpone_eq_ok {id : ReportId} {later : Ledger} :
    ledger.postpone report = .ok (id, later) ↔
      ledger.hasIdFor report = true ∧ (ledger.identified report).1 = id ∧
        { (ledger.identified report).2.2 with
          postponed := (ledger.identified report).2.2.postponed.insert id
            (ledger.identified report).2.1 } = later := by
  simp only [postpone, Fault.bind_eq_ok, identify_eq_ok, Fault.pure_eq_ok, Prod.mk.injEq]
  constructor
  · rintro ⟨identified, ⟨enough, rfl⟩, rfl, rfl⟩
    exact ⟨enough, rfl, rfl⟩
  · rintro ⟨enough, rfl, rfl⟩
    exact ⟨_, ⟨enough, rfl⟩, rfl, rfl⟩

end

/-! ## What each operation leaves alone -/

section

variable (ledger : Ledger) (report : Report)

@[simp]
theorem identified_report_id :
    (ledger.identified report).2.1.id = some (ledger.identified report).1 := by
  cases known : report.id <;> simp [identified, known]

@[simp]
theorem identified_written : (ledger.identified report).2.2.written = ledger.written := by
  cases known : report.id <;> simp [identified, known]

@[simp]
theorem identified_postponed : (ledger.identified report).2.2.postponed = ledger.postponed := by
  cases known : report.id <;> simp [identified, known]

@[simp]
theorem identified_context : (ledger.identified report).2.2.context = ledger.context := by
  cases known : report.id <;> simp [identified, known]

variable (id other : ReportId)

@[simp]
theorem noteWritten_postponed : (ledger.noteWritten id).2.postponed = ledger.postponed := by
  unfold noteWritten
  split <;> rfl

@[simp]
theorem noteWritten_context : (ledger.noteWritten id).2.context = ledger.context := by
  unfold noteWritten
  split <;> rfl

/-- Marking an id as written takes it from the unwritten ones, and no other. -/
theorem isUnwritten_noteWritten :
    (ledger.noteWritten id).2.isUnwritten other = (ledger.isUnwritten other && other != id) := by
  unfold noteWritten
  split
  · by_cases same : other = id <;> simp [isUnwritten, same]
  · rename_i written
    by_cases same : other = id
    · subst other
      simp [written]
    · simp [same]

end

end Ledger

end Frontend
