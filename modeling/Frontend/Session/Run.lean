import Frontend.Session.Admission
import Frontend.Session.Perform

/-!
# Running a session

A handler says what happens when a report reaches the hook: it returns a directive and the session
that the hook leaves behind. Running steps is recursion on the steps, for any handler. The handler
of an installed hook runs the steps of its rule with a handler of the next depth, so that hooks can
report again while they handle a report, as deeply as their rules allow.
-/

namespace Frontend

/-- What happens when a report reaches a hook. -/
abbrev Handler :=
  Hook → Report → Session → Except Fault (Directive × Session)

namespace Session

/-! ## Reporting -/

/-- Hands a report to the installed hook. -/
def deliver (handle : Handler) (session : Session) (report : Report) :
    Except Fault (Directive × Session) := do
  demandKind report
  match session.hook with
  | none => throw (.hookMissing report.kind)
  | some hook => handle hook report session

/-- Performs a call that reports: what it does before the hook, the hook if the report is shown, and
what it does after the hook. -/
def perform (handle : Handler) (session : Session) (call : Call) :
    Except Fault (Verdict × Session) := do
  match ← session.receive call with
  | (.shown pending, session) => do
      let (directive, session) ← deliver handle session pending.report
      pure (session.settle pending directive)
  | (.repeated, session) => pure (.ok .doNothing, session)
  | (.suppressed _, session) => pure (.ok .doNothing, session)

/-- Runs an action that may deliver reports, and returns those that reached the hook in it. The
deliveries of the step around it are put back afterwards. -/
def collecting {α : Type} (session : Session)
    (action : Session → Except Fault (α × Session)) :
    Except Fault (α × List Delivery × Session) := do
  let (result, after) ← action { session with deliveries := [] }
  pure (result, after.deliveries, { after with deliveries := session.deliveries })

/-! ## Steps -/

/-- Runs a step that reports. -/
def answerVerdict (session : Session) (action : Session → Except Fault (Verdict × Session)) :
    Except Fault (Answer × Session) := do
  let (verdict, deliveries, session) ← session.collecting action
  pure (.reported verdict deliveries session.compilation.counters, session)

mutual

/-- Runs one step. -/
def runStep (handle : Handler) : Step → Session → Except Fault (Answer × Session)
  | .ask request, session => session.answer request
  | .report draft handling, session => do
      let report ← session.reportOf draft
      session.answerVerdict fun session => perform handle session (.report report handling)
  | .replay id handling, session =>
      session.answerVerdict fun session => perform handle session (.replay id handling)
  | .deliver draft, session => do
      let report ← session.reportOf draft
      let (directive, deliveries, session) ←
        session.collecting fun session => deliver handle session report
      pure (.delivered directive deliveries session.compilation.counters, session)
  | .inside frame steps, session => do
      let (token, ledger) := session.compilation.ledger.openFrame frame
      let (answers, session) ← runSteps handle steps (session.setLedger ledger)
      let ledger ← session.compilation.ledger.closeFrame token
      pure (.inside answers ledger.context.length, session.setLedger ledger)
  | .install hook, session =>
      pure (.flag session.hook.isSome, { session with hook := some hook })

/-- Runs steps one after the other. A fault ends all of them. -/
def runSteps (handle : Handler) : List Step → Session → Except Fault (List Answer × Session)
  | [], session => pure ([], session)
  | step :: steps, session => do
      let (answer, session) ← runStep handle step session
      let (answers, session) ← runSteps handle steps session
      pure (answer :: answers, session)

end

/-! ## Hooks -/

/-- Notes that a report has reached the hook. -/
def record (session : Session) (delivery : Delivery) : Session :=
  { session with deliveries := session.deliveries ++ [delivery] }

/-- Handles a report by the first rule that fits it, while `depth` hooks are running steps. Steps
are run by `runNested`, if there is one. -/
def react (runNested : Option (List Step → Session → Except Fault (List Answer × Session)))
    (depth : Nat) : Handler := fun hook report session =>
  let notice := session.compilation.notice report
  match hook.rule? report.kind notice.severity with
  | none => pure (hook.directive, session.record (.mk notice none))
  | some rule =>
      match rule.steps, runNested with
      | some steps, some run =>
          if depth < rule.maxDepth then do
            let (answers, session) ← run steps session
            pure (rule.directive, session.record (.mk notice (some answers)))
          else pure (rule.directive, session.record (.mk notice none))
      | _, _ => pure (rule.directive, session.record (.mk notice none))

/-- The handler of installed hooks while `depth` hooks are running steps and `further` more may do
so. -/
def handlerAt : (further depth : Nat) → Handler
  | 0, depth => react none depth
  | further + 1, depth => react (some (runSteps (handlerAt further (depth + 1)))) depth

/-! ## Whole sessions -/

/-- The answers to the steps of a session, which a fault ends. -/
def answers (handle : Handler) : List Step → Session → List (Except Fault Answer)
  | [], _ => []
  | step :: steps, session =>
      match runStep handle step session with
      | .ok (answer, session) => .ok answer :: answers handle steps session
      | .error fault => [.error fault]

/-- How deeply the hooks of a session can nest: no deeper than the rules of the first hook, or of
any that a step installs, allow. -/
def depthBound (hook : Option Hook) (steps : List Step) : Nat :=
  max ((hook.map Hook.depth).getD 0) (depthOfSteps steps)

/-- Runs a session from its start: the file tree is set up from a working directory, and the steps
are run with the given hook. -/
def run (workdir : Place) (setup : List TreeRequest) (manualUrl : String) (hook : Option Hook)
    (steps : List Step) : List (Except Fault Answer) :=
  let tree := setup.foldl treeAfter (FileTree.ofWorkdir workdir)
  let session := Session.initial tree manualUrl hook
  answers (handlerAt (depthBound hook steps) 0) steps session

end Session

end Frontend
