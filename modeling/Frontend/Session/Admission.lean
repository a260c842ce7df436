import Frontend.Session.Basic

/-!
# Receiving a report

The hook cuts a call that reports in two. Before the hook the report is identified and marked as
written, and it is fixed whether it is shown and how grave it is. After the hook it is counted, and
the verdict on the call is settled. Anything may happen to the session in between, since the hook is
free to use it.
-/

namespace Frontend

/-- A call that reports. -/
inductive Call where
  | report (report : Report) (handling : OnError)
  /-- Reports what was postponed under an id. -/
  | replay (id : ReportId) (handling : OnError)
deriving DecidableEq, Repr

/-- A report that is with the hook: how grave it was when it went there, and how its caller wants
errors handled. -/
structure Pending where
  report : Report
  severity : Severity
  handling : OnError
deriving DecidableEq, Repr

/-- What becomes of a report before the hook. -/
inductive Admission where
  /-- Its id has been written before, and nothing happens. -/
  | repeated
  /-- It is marked as written, but not shown. -/
  | suppressed (report : Report)
  /-- It is marked as written, and goes to the hook. -/
  | shown (pending : Pending)
deriving DecidableEq, Repr

namespace Session

/-- Demands that a report has a kind. -/
def demandKind (report : Report) : Except Fault Unit :=
  if report.kind = .unset then .error (.kindMissing report.location) else .ok ()

/-- Marks an identified report as written, and fixes whether it is shown and how grave it is. -/
def accept (session : Session) (id : ReportId) (report : Report) (handling : OnError) :
    Admission × Session :=
  let (severity, compilation) := session.compilation.accept id report
  let admission :=
    match severity with
    | none => .suppressed report
    | some severity => .shown ⟨report, severity, handling⟩
  (admission, { session with compilation := compilation })

/-- What a call does before the hook. A report that has been written before is left alone. -/
def receive (session : Session) : Call → Except Fault (Admission × Session)
  | .report report handling => do
      demandKind report
      let (id, report, ledger) ← session.compilation.ledger.identify report
      let session := session.setLedger ledger
      if session.compilation.ledger.isUnwritten id then pure (session.accept id report handling)
      else pure (.repeated, session)
  | .replay id handling =>
      if session.compilation.ledger.isUnwritten id then
        match session.compilation.ledger.postponed? id with
        | none => throw (.neverPostponed id)
        | some report => do
            demandKind report
            pure (session.accept id report handling)
      else pure (.repeated, session)

/-- What a call does after the hook. -/
def settle (session : Session) (pending : Pending) (directive : Directive) : Verdict × Session :=
  let (verdict, compilation) :=
    session.compilation.settle pending.severity directive pending.handling
  (verdict, { session with compilation := compilation })

end Session

end Frontend
