import Frontend.Session.Request

/-!
# Steps of a session, and hooks

A step asks something, reports, runs other steps inside an instantiation, or installs a hook. A hook
is a list of rules: the first rule that fits a report may run steps of its own, as long as hooks are
not nested too deeply, and names the directive that the hook answers.
-/

namespace Frontend

/-- Which reports a rule fits: those of a kind, those of a severity, or all. -/
structure Guard where
  kind : Option NoteKind
  severity : Option Severity
deriving DecidableEq, Repr

/-- The guard lets a report of this kind and severity pass. -/
def Guard.fits (guard : Guard) (kind : NoteKind) (severity : Severity) : Bool :=
  guard.kind.all (· == kind) && guard.severity.all (· == severity)

mutual

/-- One step of a session. -/
inductive Step where
  | ask (request : Request)
  | report (draft : Draft) (handling : OnError)
  /-- Reports what was postponed under an id. -/
  | replay (id : ReportId) (handling : OnError)
  /-- Hands a report to the hook, whether it is shown or not, and without counting it. -/
  | deliver (draft : Draft)
  /-- Runs steps inside an instantiation. -/
  | inside (frame : Frame) (steps : List Step)
  | install (hook : Hook)

/-- A rule of a hook. Its steps are run when fewer than `maxDepth` hooks are running steps. -/
inductive Rule where
  | mk (guard : Guard) (maxDepth : Nat) (steps : Option (List Step)) (directive : Directive)

/-- A hook: its rules, and the directive for reports that no rule fits. -/
inductive Hook where
  | mk (rules : List Rule) (directive : Directive)

end

namespace Rule

/-- Which reports the rule fits. -/
def guard : Rule → Guard
  | .mk guard _ _ _ => guard

/-- How many hooks may run steps, this rule's included. -/
def maxDepth : Rule → Nat
  | .mk _ maxDepth _ _ => maxDepth

/-- What the rule runs. -/
def steps : Rule → Option (List Step)
  | .mk _ _ steps _ => steps

/-- What the rule answers. -/
def directive : Rule → Directive
  | .mk _ _ _ directive => directive

end Rule

namespace Hook

/-- The rules, in order. -/
def rules : Hook → List Rule
  | .mk rules _ => rules

/-- The answer when no rule fits. -/
def directive : Hook → Directive
  | .mk _ directive => directive

/-- The first rule that fits a report. -/
def rule? (hook : Hook) (kind : NoteKind) (severity : Severity) : Option Rule :=
  hook.rules.find? fun rule => rule.guard.fits kind severity

end Hook

/-! ## How deeply hooks can nest -/

mutual

/-- The greatest depth that a rule of any hook in a step allows. -/
def Step.depth : Step → Nat
  | .ask _ => 0
  | .report _ _ => 0
  | .replay _ _ => 0
  | .deliver _ => 0
  | .inside _ steps => depthOfSteps steps
  | .install hook => hook.depth

/-- The greatest depth that a rule of any hook in a list of steps allows. -/
def depthOfSteps : List Step → Nat
  | [] => 0
  | step :: steps => max step.depth (depthOfSteps steps)

/-- The greatest depth that a rule allows, or a rule of any hook in its steps. -/
def Rule.depth : Rule → Nat
  | .mk _ maxDepth steps _ => max maxDepth (depthOfStepsIn steps)

/-- The greatest depth that a rule of any hook allows in steps that may be missing. -/
def depthOfStepsIn : Option (List Step) → Nat
  | none => 0
  | some steps => depthOfSteps steps

/-- The greatest depth that a rule of a hook allows. -/
def Hook.depth : Hook → Nat
  | .mk rules _ => depthOfRules rules

/-- The greatest depth that a rule in a list allows. -/
def depthOfRules : List Rule → Nat
  | [] => 0
  | rule :: rules => max rule.depth (depthOfRules rules)

end

end Frontend
