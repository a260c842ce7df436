import Frontend.Session.Run

/-!
# Courses of a session

A hook may use the session while it has a report, so calls are nested in calls. What happens is
therefore followed move by move, together with the *activities* that are not over: reports that are
with the hook, and steps that are run inside an instantiation. A `Course` is a sequence of moves
with the list of their events. Hooks and steps are not given by any program: at each moment whoever
has the session may make any move. So a course may end in the middle of a delivery, its hooks may
depend on anything, and they may be nested without bound.

The second half shows that nothing else can happen: what `runSteps` does, for the handlers of
installed hooks and for every handler that only makes moves, is a course.
-/

namespace Frontend

/-! ## Moves -/

/-- Something that a session is in the middle of. -/
inductive Activity where
  /-- The hook has a report that will be counted when it returns. -/
  | dispatched (pending : Pending)
  /-- The hook has a report that was handed to it directly. -/
  | direct (report : Report)
  /-- Steps are run inside an instantiation. -/
  | inside (frame : Frame) (token : FrameToken)

/-- A moment in a session, and what it is in the middle of, innermost first. -/
structure Moment where
  session : Session
  activities : List Activity

/-- What happens between two moments. -/
inductive Event where
  /-- A request was answered. -/
  | asked (request : Request)
  | installed (hook : Hook)
  /-- The list of deliveries for the running step was changed. -/
  | collected
  /-- A call that reports was received, and handed on to the hook if its report is shown. -/
  | received (admission : Admission)
  /-- The hook returned, the report was counted, and the call ended. -/
  | settled (pending : Pending) (verdict : Verdict)
  /-- A report was handed to the hook directly. -/
  | delivered (report : Report)
  /-- The hook returned from a report that was handed to it directly. -/
  | returned (report : Report)
  | entered (frame : Frame)
  | left (frame : Frame)

/-- One move. It starts an activity, goes on with the session within the innermost one, or ends the
innermost one. -/
inductive Move : Moment → Event → Moment → Prop where
  | ask {session after request answer activities}
      (answered : session.answer request = .ok (answer, after)) :
      Move ⟨session, activities⟩ (.asked request) ⟨after, activities⟩
  | install (session : Session) (activities : List Activity) (hook : Hook) :
      Move ⟨session, activities⟩ (.installed hook) ⟨{ session with hook := some hook }, activities⟩
  | collect (session : Session) (activities : List Activity) (deliveries : List Delivery) :
      Move ⟨session, activities⟩ .collected
        ⟨{ session with deliveries := deliveries }, activities⟩
  | pass {session after call admission activities}
      (received : session.receive call = .ok (admission, after))
      (hidden : ∀ pending, admission ≠ .shown pending) :
      Move ⟨session, activities⟩ (.received admission) ⟨after, activities⟩
  | hand {session after call pending hook activities}
      (received : session.receive call = .ok (.shown pending, after))
      (installed : after.hook = some hook) :
      Move ⟨session, activities⟩ (.received (.shown pending))
        ⟨after, .dispatched pending :: activities⟩
  | settle (session : Session) (activities : List Activity) (pending : Pending)
      (directive : Directive) :
      Move ⟨session, .dispatched pending :: activities⟩
        (.settled pending (session.settle pending directive).1)
        ⟨(session.settle pending directive).2, activities⟩
  | deliver {session : Session} {hook} (activities : List Activity) (report : Report)
      (kind : report.kind ≠ .unset) (installed : session.hook = some hook) :
      Move ⟨session, activities⟩ (.delivered report) ⟨session, .direct report :: activities⟩
  | resume (session : Session) (activities : List Activity) (report : Report) :
      Move ⟨session, .direct report :: activities⟩ (.returned report) ⟨session, activities⟩
  | enter (session : Session) (activities : List Activity) (frame : Frame) :
      Move ⟨session, activities⟩ (.entered frame)
        ⟨session.setLedger (session.compilation.ledger.openFrame frame).2,
          .inside frame (session.compilation.ledger.openFrame frame).1 :: activities⟩
  | leave {session : Session} {ledger token} (activities : List Activity) (frame : Frame)
      (closed : session.compilation.ledger.closeFrame token = .ok ledger) :
      Move ⟨session, .inside frame token :: activities⟩ (.left frame)
        ⟨session.setLedger ledger, activities⟩

/-- A move does not see the activities around those that it starts or ends. -/
theorem Move.around {session after : Session} {activities later : List Activity} {event : Event}
    (move : Move ⟨session, activities⟩ event ⟨after, later⟩) (outer : List Activity) :
    Move ⟨session, activities ++ outer⟩ event ⟨after, later ++ outer⟩ := by
  cases move with
  | ask answered => exact .ask answered
  | install => exact .install ..
  | collect => exact .collect ..
  | pass received hidden => exact .pass received hidden
  | hand received installed => exact .hand received installed
  | settle => exact .settle ..
  | deliver _ report kind installed => exact .deliver _ report kind installed
  | resume => exact .resume ..
  | enter => exact .enter ..
  | leave _ frame closed => exact .leave _ frame closed

/-! ## Courses -/

/-- A sequence of moves from `start` with the events on the way, latest first. -/
inductive Course (start : Moment) : List Event → Moment → Prop where
  | refl : Course start [] start
  | move {log now event next} (course : Course start log now) (move : Move now event next) :
      Course start (event :: log) next

/-- The first moment of a session: nothing has happened, and nothing is going on. -/
def Moment.initial (tree : FileTree) (manualUrl : String) (hook : Option Hook) : Moment :=
  ⟨.initial tree manualUrl hook, []⟩

theorem Course.single {start next : Moment} {event : Event} (move : Move start event next) :
    Course start [event] next :=
  .move .refl move

theorem Course.trans {start middle finish : Moment} {earlier later : List Event}
    (first : Course start earlier middle) (second : Course middle later finish) :
    Course start (later ++ earlier) finish := by
  induction second with
  | refl => exact first
  | move _ move ih => exact .move ih move

theorem Course.around {start finish : Moment} {log : List Event}
    (course : Course start log finish) (outer : List Activity) :
    Course ⟨start.session, start.activities ++ outer⟩ log
      ⟨finish.session, finish.activities ++ outer⟩ := by
  induction course with
  | refl => exact .refl
  | move _ move ih => exact .move ih (move.around outer)

/-- From one session to the other there is a course that starts and ends outside of all activities
of its own. -/
def Session.Leads (session after : Session) : Prop :=
  ∃ log, Course ⟨session, []⟩ log ⟨after, []⟩

/-- The handler does nothing but make moves, if it returns at all. -/
def Handler.Acts (handle : Handler) : Prop :=
  ∀ {hook report session directive after},
    handle hook report session = .ok (directive, after) → session.Leads after

namespace Session

open Fault

theorem Leads.refl (session : Session) : session.Leads session :=
  ⟨[], .refl⟩

theorem Leads.trans {session middle after : Session} (first : session.Leads middle)
    (second : middle.Leads after) : session.Leads after := by
  obtain ⟨earlier, first⟩ := first
  obtain ⟨later, second⟩ := second
  exact ⟨later ++ earlier, first.trans second⟩

theorem Leads.single {session after : Session} {event : Event}
    (move : Move ⟨session, []⟩ event ⟨after, []⟩) : session.Leads after :=
  ⟨[event], .single move⟩

/-- What happens within an activity leads from the move that starts it to the move that ends it. -/
theorem Leads.within {session opened closing after : Session} {activity : Activity}
    {first last : Event} (starts : Move ⟨session, []⟩ first ⟨opened, [activity]⟩)
    (body : opened.Leads closing) (ends : Move ⟨closing, [activity]⟩ last ⟨after, []⟩) :
    session.Leads after := by
  obtain ⟨log, body⟩ := body
  have inner := body.around [activity]
  exact ⟨last :: (log ++ [first]), .move ((Course.single starts).trans inner) ends⟩

/-- Changes to the list of deliveries are moves. -/
theorem leads_deliveries (session : Session) (deliveries : List Delivery) :
    session.Leads { session with deliveries := deliveries } :=
  .single (.collect session [] deliveries)

/-! ## What calls do is a course -/

variable {handle : Handler} {session after : Session}

/-- A report is handed to the hook only if it has a kind and there is a hook. -/
theorem deliver_eq_ok {report : Report} {directive : Directive} :
    deliver handle session report = .ok (directive, after) ↔
      report.kind ≠ .unset ∧
        ∃ hook, session.hook = some hook ∧ handle hook report session = .ok (directive, after) := by
  unfold deliver demandKind
  by_cases kind : report.kind = .unset
  · simp [kind, bind, Except.bind]
  · cases installed : session.hook with
    | none => simp [kind, bind, Except.bind, throw, throwThe, MonadExceptOf.throw]
    | some hook => simp [kind, bind, Except.bind]

/-- A call ends at once, without the hook, or the hook is given the report in the state after the
first half of the call, and the second half goes on from the state that the hook leaves. -/
theorem perform_eq_ok {call : Call} {verdict : Verdict} :
    perform handle session call = .ok (verdict, after) ↔
      (∃ admission, session.receive call = .ok (admission, after) ∧
        (∀ pending, admission ≠ .shown pending) ∧ verdict = .ok .doNothing) ∨
      ∃ pending found directive left, session.receive call = .ok (.shown pending, found) ∧
        deliver handle found pending.report = .ok (directive, left) ∧
        left.settle pending directive = (verdict, after) := by
  unfold perform
  simp only [bind_eq_ok]
  constructor
  · rintro ⟨⟨admission, found⟩, received, ended⟩
    cases admission with
    | shown pending =>
        obtain ⟨⟨directive, left⟩, delivered, settled⟩ := bind_eq_ok.mp ended
        exact Or.inr ⟨pending, found, directive, left, received, delivered,
          pure_eq_ok.mp settled⟩
    | repeated =>
        cases pure_eq_ok.mp ended
        exact Or.inl ⟨.repeated, received, by simp, rfl⟩
    | suppressed report =>
        cases pure_eq_ok.mp ended
        exact Or.inl ⟨.suppressed report, received, by simp, rfl⟩
  · rintro (⟨admission, received, hidden, rfl⟩ |
      ⟨pending, found, directive, left, received, delivered, settled⟩)
    · refine ⟨(admission, after), received, ?_⟩
      cases admission with
      | shown pending => exact absurd rfl (hidden pending)
      | repeated => rfl
      | suppressed report => rfl
    · refine ⟨(.shown pending, found), received, bind_eq_ok.mpr ⟨_, delivered, ?_⟩⟩
      exact pure_eq_ok.mpr settled

theorem deliver_leads (acts : handle.Acts) {report : Report} {directive : Directive}
    (delivered : deliver handle session report = .ok (directive, after)) :
    session.Leads after := by
  obtain ⟨kind, hook, installed, handled⟩ := deliver_eq_ok.mp delivered
  exact .within (.deliver [] report kind installed) (acts handled) (.resume after [] report)

theorem perform_leads (acts : handle.Acts) {call : Call} {verdict : Verdict}
    (performed : perform handle session call = .ok (verdict, after)) : session.Leads after := by
  rcases perform_eq_ok.mp performed with
    ⟨admission, received, hidden, -⟩ |
    ⟨pending, found, directive, left, received, delivered, settled⟩
  · exact .single (.pass received hidden)
  · obtain ⟨-, hook, installed, handled⟩ := deliver_eq_ok.mp delivered
    have ends := Move.settle left [] pending directive
    rw [settled] at ends
    exact .within (.hand received installed) (acts handled) ends

/-- Collecting deliveries around an action adds nothing but changes to their list. -/
theorem collecting_leads {α : Type} {action : Session → Except Fault (α × Session)}
    (leads : ∀ {session result after}, action session = .ok (result, after) → session.Leads after)
    {result : α} {deliveries : List Delivery}
    (collected : session.collecting action = .ok (result, deliveries, after)) :
    session.Leads after := by
  simp only [collecting, bind_eq_ok, pure_eq_ok] at collected
  obtain ⟨⟨result, finished⟩, acted, ended⟩ := collected
  cases ended
  exact ((leads_deliveries session []).trans (leads acted)).trans (leads_deliveries finished _)

/-- Steps inside an instantiation are run between opening and closing it. -/
theorem runStep_inside_of_ok {frame : Frame} {steps : List Step} {answer : Answer}
    (ran : runStep handle (.inside frame steps) session = .ok (answer, after)) :
    ∃ answers closing ledger,
      runSteps handle steps (session.setLedger (session.compilation.ledger.openFrame frame).2) =
        .ok (answers, closing) ∧
      closing.compilation.ledger.closeFrame (session.compilation.ledger.openFrame frame).1 =
        .ok ledger ∧
      after = closing.setLedger ledger := by
  simp only [runStep, bind_eq_ok, pure_eq_ok] at ran
  obtain ⟨⟨answers, closing⟩, body, ledger, closed, ended⟩ := ran
  cases ended
  exact ⟨answers, closing, ledger, body, closed, rfl⟩

mutual

/-- A step is a course. -/
theorem runStep_leads (acts : handle.Acts) {answer : Answer} {session after : Session} :
    (step : Step) → runStep handle step session = .ok (answer, after) → session.Leads after
  | .ask request => by
      intro ran
      exact .single (.ask ran)
  | .report draft handling => by
      intro ran
      simp only [runStep, answerVerdict, bind_eq_ok, pure_eq_ok] at ran
      obtain ⟨report, -, ⟨verdict, deliveries, finished⟩, collected, ended⟩ := ran
      cases ended
      exact collecting_leads (perform_leads acts) collected
  | .replay id handling => by
      intro ran
      simp only [runStep, answerVerdict, bind_eq_ok, pure_eq_ok] at ran
      obtain ⟨⟨verdict, deliveries, finished⟩, collected, ended⟩ := ran
      cases ended
      exact collecting_leads (perform_leads acts) collected
  | .deliver draft => by
      intro ran
      simp only [runStep, bind_eq_ok, pure_eq_ok] at ran
      obtain ⟨report, -, ⟨directive, deliveries, finished⟩, collected, ended⟩ := ran
      cases ended
      exact collecting_leads (deliver_leads acts) collected
  | .inside frame steps => by
      intro ran
      obtain ⟨answers, closing, ledger, body, closed, rfl⟩ := runStep_inside_of_ok ran
      exact .within (.enter session [] frame) (runSteps_leads acts steps body)
        (.leave [] frame closed)
  | .install hook => by
      intro ran
      cases pure_eq_ok.mp ran
      exact .single (.install session [] hook)

/-- Steps one after the other are a course. -/
theorem runSteps_leads (acts : handle.Acts) {answers : List Answer} {session after : Session} :
    (steps : List Step) → runSteps handle steps session = .ok (answers, after) →
      session.Leads after
  | [] => by
      intro ran
      cases pure_eq_ok.mp ran
      exact .refl session
  | step :: steps => by
      intro ran
      simp only [runSteps, bind_eq_ok, pure_eq_ok] at ran
      obtain ⟨⟨answer, middle⟩, first, ⟨answers, finished⟩, rest, ended⟩ := ran
      cases ended
      exact (runStep_leads acts step first).trans (runSteps_leads acts steps rest)

end

/-! ## Installed hooks -/

/-- A rule-driven hook makes moves if the steps of its rule do. -/
theorem react_acts
    {runNested : Option (List Step → Session → Except Fault (List Answer × Session))}
    (leads : ∀ run ∈ runNested, ∀ {steps session answers after},
      run steps session = .ok (answers, after) → session.Leads after) (depth : Nat) :
    (react runNested depth).Acts := by
  intro hook report session directive after reacted
  simp only [react] at reacted
  split at reacted
  · cases pure_eq_ok.mp reacted
    exact leads_deliveries session _
  · split at reacted
    · rename_i run _
      split at reacted
      · obtain ⟨⟨answers, finished⟩, ran, ended⟩ := bind_eq_ok.mp reacted
        cases pure_eq_ok.mp ended
        exact (leads run rfl ran).trans (leads_deliveries finished _)
      · cases pure_eq_ok.mp reacted
        exact leads_deliveries session _
    · cases pure_eq_ok.mp reacted
      exact leads_deliveries session _

/-- Installed hooks, however deeply nested, do nothing but make moves. -/
theorem handlerAt_acts (further depth : Nat) : (handlerAt further depth).Acts := by
  induction further generalizing depth with
  | zero => exact react_acts (by simp) depth
  | succ further ih =>
      apply react_acts
      intro run isRun steps session answers after ran
      cases isRun
      exact runSteps_leads (ih (depth + 1)) steps ran

end Session

/-- Steps that are run at a moment go on with the course that led there, so that whatever holds at
the end of every course holds after every run of a session. -/
theorem Course.runSteps {start now : Moment} {log : List Event} {handle : Handler}
    {steps : List Step} {answers : List Answer} {after : Session} (course : Course start log now)
    (acts : handle.Acts) (ran : Session.runSteps handle steps now.session = .ok (answers, after)) :
    ∃ later, Course start (later ++ log) ⟨after, now.activities⟩ := by
  obtain ⟨later, leads⟩ := Session.runSteps_leads acts steps ran
  exact ⟨later, course.trans (leads.around now.activities)⟩

end Frontend
