import Frontend.Proofs.Session.Books
import Frontend.Proofs.Session.Course

/-!
# The counters account for deliveries

A report is counted when the hook returns, with the severity that was fixed before the hook had it.
In between the hook may deliver other reports and change every policy. The counters are therefore
not those of a list of reports handled one after the other: they are the settled part of all reports
handed over, and the rest is with the hook. The exit code is written when an error is counted and
when a call aborts, both times with one.
-/

namespace Frontend

/-! ## Events about deliveries -/

namespace Event

/-- The report goes to the hook. -/
def hands (pending : Pending) : Event → Bool
  | .received admission => admission = .shown pending
  | _ => false

/-- The hook has returned from the report. -/
def settles (pending : Pending) : Event → Bool
  | .settled other _ => other = pending
  | _ => false

/-- The hook has returned from a report that went to it with the severity. -/
def settlesAs (severity : Severity) : Event → Bool
  | .settled pending _ => pending.severity = severity
  | _ => false

/-- A call that reports answers that the compiler should exit. -/
def aborts : Event → Bool
  | .settled _ (.error (.aborted _)) => true
  | _ => false

/-- The exit code is one from this event on. -/
def fails (event : Event) : Bool :=
  event.settlesAs .error || event.aborts

end Event

/-- The report is with the hook and not yet counted. -/
def Activity.awaits (pending : Pending) : Activity → Bool
  | .dispatched other => other = pending
  | .direct _ | .inside _ _ => false

/-! ## What an event does to the counters -/

/-- How an event moves the counters: one up for a report that is settled, and the exit code to one
for a failure. -/
structure Tally.Follows (event : Event) (counters later : Tally) : Prop where
  errors : later.errors = counters.errors + if event.settlesAs .error then 1 else 0
  warnings : later.warnings = counters.warnings + if event.settlesAs .warning then 1 else 0
  hints : later.hints = counters.hints + if event.settlesAs .hint then 1 else 0
  failed : counters.exitCode ≤ 1 → event.fails = true → later.exitCode = 1
  passed : event.fails = false → later.exitCode = counters.exitCode

/-- Nothing is counted, and the exit code stays. -/
def Tally.Keeps (counters later : Tally) : Prop :=
  later.errors = counters.errors ∧ later.warnings = counters.warnings ∧
    later.hints = counters.hints ∧ later.exitCode = counters.exitCode

/-- Events other than the end of a delivery keep the counters. -/
theorem Tally.follows_iff_keeps {event : Event} {counters later : Tally}
    (other : ∀ pending verdict, event ≠ .settled pending verdict) :
    Tally.Follows event counters later ↔ counters.Keeps later := by
  have settles : ∀ severity, event.settlesAs severity = false := by
    intro severity
    cases event with
    | settled pending verdict => exact absurd rfl (other pending verdict)
    | _ => rfl
  have aborts : event.aborts = false := by
    cases event with
    | settled pending verdict => exact absurd rfl (other pending verdict)
    | _ => rfl
  have fails : event.fails = false := by rw [Event.fails, settles, aborts, Bool.or_false]
  constructor
  · intro follows
    have errors := follows.errors
    have warnings := follows.warnings
    have hints := follows.hints
    simp only [settles, Bool.false_eq_true, if_false, Nat.add_zero] at errors warnings hints
    exact ⟨errors, warnings, hints, follows.passed fails⟩
  · rintro ⟨errors, warnings, hints, exitCode⟩
    constructor <;> simp [settles, fails, errors, warnings, hints, exitCode]

namespace Compilation

/-- Counting a report moves the counter of its severity, and an error sets the exit code. -/
theorem countIn_eq (counters : Tally) (severity : Severity) :
    countIn counters severity =
      { counters with
        errors := counters.errors + if severity = .error then 1 else 0
        warnings := counters.warnings + if severity = .warning then 1 else 0
        hints := counters.hints + if severity = .hint then 1 else 0
        exitCode := if severity = .error then 1 else counters.exitCode } := by
  cases severity <;> rfl

/-- Concluding a call leaves the counters alone, except that aborting sees to the exit code. -/
theorem conclude_counters (compilation : Compilation) (directive action : Directive) :
    (compilation.conclude directive action).2.counters =
      { compilation.counters with
        exitCode := if action = .abort then max compilation.counters.exitCode 1
          else compilation.counters.exitCode } := by
  cases action <;> rfl

theorem aborts_conclude (compilation : Compilation) (pending : Pending)
    (directive action : Directive) :
    (Event.settled pending (compilation.conclude directive action).1).aborts =
      decide (action = .abort) := by
  cases action <;> rfl

end Compilation

theorem Session.follows_settle (session : Session) (pending : Pending) (directive : Directive) :
    Tally.Follows (.settled pending (session.settle pending directive).1)
      session.compilation.counters
      (session.settle pending directive).2.compilation.counters := by
  let counted := session.compilation.count pending.severity
  let action := counted.action pending.severity pending.handling directive
  have counters : counted.counters = _ :=
    Compilation.countIn_eq session.compilation.counters pending.severity
  have concluded : (session.settle pending directive).2.compilation.counters = _ :=
    counted.conclude_counters directive action
  have aborts : (Event.settled pending (session.settle pending directive).1).aborts = _ :=
    counted.aborts_conclude pending directive action
  rw [concluded, counters]
  constructor
  · simp [Event.settlesAs]
  · simp [Event.settlesAs]
  · simp [Event.settlesAs]
  · intro most
    simp only [Event.fails, Event.settlesAs, aborts]
    by_cases error : pending.severity = .error <;> by_cases abort : action = .abort <;>
      simp [error, abort, most]
  · simp only [Event.fails, Event.settlesAs, aborts]
    by_cases error : pending.severity = .error <;> by_cases abort : action = .abort <;>
      simp [error, abort]

theorem Books.Turn.keepsCounters {request : Request} {books later : Books}
    (turn : Books.Turn request books later) : books.counters.Keeps later.counters := by
  cases turn <;> exact ⟨rfl, rfl, rfl, rfl⟩

theorem Books.Receipt.keepsCounters {admission : Admission} {books later : Books}
    (receipt : Books.Receipt admission books later) : books.counters.Keeps later.counters := by
  cases receipt <;> exact ⟨rfl, rfl, rfl, rfl⟩

/-- Every move moves the counters as its event says. -/
theorem Move.follows {now next : Moment} {event : Event} (move : Move now event next) :
    Tally.Follows event now.session.compilation.counters next.session.compilation.counters := by
  cases move with
  | settle session activities pending directive => exact session.follows_settle pending directive
  | ask answered =>
      rw [Tally.follows_iff_keeps (by simp)]
      exact (Session.books_of_answer answered).keepsCounters
  | pass received hidden =>
      rw [Tally.follows_iff_keeps (by simp)]
      exact (Session.books_of_receive received).keepsCounters
  | hand received installed =>
      rw [Tally.follows_iff_keeps (by simp)]
      exact (Session.books_of_receive received).keepsCounters
  | install | collect | deliver | resume | enter | leave =>
      rw [Tally.follows_iff_keeps (by simp)]
      exact ⟨rfl, rfl, rfl, rfl⟩

/-! ## Courses -/

/-- The counters are what the events say: the settled reports of each severity, and in the exit code
whether anything failed. -/
structure Tally.Accounts (log : List Event) (counters : Tally) : Prop where
  errors : counters.errors = log.countP (Event.settlesAs .error)
  warnings : counters.warnings = log.countP (Event.settlesAs .warning)
  hints : counters.hints = log.countP (Event.settlesAs .hint)
  exitCode : counters.exitCode = if log.any Event.fails then 1 else 0

theorem Tally.Accounts.follow {log : List Event} {event : Event} {counters later : Tally}
    (accounts : counters.Accounts log) (follows : Tally.Follows event counters later) :
    later.Accounts (event :: log) := by
  constructor
  · rw [follows.errors, accounts.errors, List.countP_cons]
  · rw [follows.warnings, accounts.warnings, List.countP_cons]
  · rw [follows.hints, accounts.hints, List.countP_cons]
  · have most : counters.exitCode ≤ 1 := by
      rw [accounts.exitCode]
      split <;> decide
    cases fails : event.fails with
    | true => simp [follows.failed most fails, fails]
    | false => simp [follows.passed fails, accounts.exitCode, fails]

theorem Course.accounts {tree : FileTree} {manualUrl : String} {hook : Option Hook}
    {log : List Event} {now : Moment} (course : Course (.initial tree manualUrl hook) log now) :
    now.session.compilation.counters.Accounts log := by
  induction course with
  | refl => exact ⟨rfl, rfl, rfl, rfl⟩
  | move _ move ih => exact ih.follow move.follows

/-- What was handed over has been settled since, or is still with the hook. -/
theorem Course.hands_eq {tree : FileTree} {manualUrl : String} {hook : Option Hook}
    {log : List Event} {now : Moment} (course : Course (.initial tree manualUrl hook) log now)
    (pending : Pending) :
    log.countP (Event.hands pending) =
      log.countP (Event.settles pending) + now.activities.countP (Activity.awaits pending) := by
  induction course with
  | refl => rfl
  | move _ move ih =>
      cases move with
      | settle session activities other directive =>
          by_cases same : other = pending
          · simp [Event.hands, Event.settles, Activity.awaits, same] at ih ⊢
            omega
          · simpa [Event.hands, Event.settles, Activity.awaits, same] using ih
      | @hand session after call other hook activities received installed =>
          by_cases same : other = pending
          · simp [Event.hands, Event.settles, Activity.awaits, same] at ih ⊢
            omega
          · simpa [Event.hands, Event.settles, Activity.awaits, same] using ih
      | pass received hidden =>
          simpa [List.countP_cons, Event.hands, Event.settles, hidden] using ih
      | ask | install | collect | deliver | resume | enter | leave =>
          simpa [List.countP_cons, Event.hands, Event.settles, Activity.awaits] using ih

/-- At every moment of a session, however hooks are nested, the counters are the numbers of those
deliveries whose hook has returned, by the severity that was computed when the report went to the
hook; what was handed over and is not counted is still with the hook. Nothing but the end of such a
delivery moves a counter or the exit code. The exit code is zero or one, it is one exactly when an
error was counted or a call aborted, and it does not go back. -/
theorem counters_account_for_deliveries {tree : FileTree} {manualUrl : String}
    {hook : Option Hook} {log : List Event} {now : Moment}
    (course : Course (.initial tree manualUrl hook) log now) :
    let counters := now.session.compilation.counters
    (counters.errors = log.countP (Event.settlesAs .error) ∧
      counters.warnings = log.countP (Event.settlesAs .warning) ∧
      counters.hints = log.countP (Event.settlesAs .hint)) ∧
    (∀ pending, log.countP (Event.hands pending) =
      log.countP (Event.settles pending) + now.activities.countP (Activity.awaits pending)) ∧
    (∀ pending next, Move now (.received (.shown pending)) next →
      pending.severity = next.session.compilation.severity pending.report) ∧
    (∀ event next, Move now event next → (∀ pending verdict, event ≠ .settled pending verdict) →
      counters.Keeps next.session.compilation.counters) ∧
    (counters.exitCode = 0 ∨ counters.exitCode = 1) ∧
    (counters.exitCode = 1 ↔
      ∃ event ∈ log, event.settlesAs .error = true ∨ event.aborts = true) ∧
    ∀ later finish, Course now later finish → counters.exitCode = 1 →
      finish.session.compilation.counters.exitCode = 1 := by
  intro counters
  have accounts := course.accounts
  refine ⟨⟨accounts.errors, accounts.warnings, accounts.hints⟩, course.hands_eq, ?_, ?_, ?_, ?_, ?_⟩
  · intro pending next move
    cases move with
    | hand received installed => exact Session.severity_of_receive received
    | pass received hidden => exact absurd rfl (hidden pending)
  · intro event next move other
    exact (Tally.follows_iff_keeps other).mp move.follows
  · rw [accounts.exitCode]
    split
    · exact Or.inr rfl
    · exact Or.inl rfl
  · have any : log.any Event.fails = true ↔
        ∃ event ∈ log, event.settlesAs .error = true ∨ event.aborts = true := by
      simp only [List.any_eq_true, Event.fails, Bool.or_eq_true]
    rw [← any, accounts.exitCode]
    cases log.any Event.fails <;> decide
  · intro later finish onwards failed
    have stays := (course.trans onwards).accounts.exitCode
    rw [accounts.exitCode] at failed
    rw [stays, List.any_append]
    split at failed
    · rename_i any
      rw [any, Bool.or_true, if_pos rfl]
    · cases failed

/-- Of an error and another one that the hook reports while it has the first, only the second is
counted when the hook has returned from it. -/
theorem counters_account_for_deliveries_nested :
    let hook : Hook := .mk [] .doNothing
    let mismatch := Report.error .typeMismatch .unknown "expected int"
    let undeclared := Report.error .undeclaredIdentifier .unknown "what is x"
    let outer : Pending := ⟨{ mismatch with id := some ⟨0⟩ }, .error, .nothing⟩
    let inner : Pending := ⟨{ undeclared with id := some ⟨1⟩ }, .error, .nothing⟩
    let log : List Event :=
      [.settled inner (.ok .doNothing), .received (.shown inner), .received (.shown outer)]
    ∃ now, Course (.initial (.ofWorkdir []) "" (some hook)) log now ∧
      now.activities = [.dispatched outer] ∧
      now.session.compilation.counters.errors = 1 ∧
      now.session.compilation.counters.exitCode = 1 := by
  intro hook mismatch undeclared outer inner log
  have handed : ∃ first, (Session.initial (.ofWorkdir []) "" (some hook)).receive
        (.report mismatch .nothing) = .ok (.shown outer, first) ∧ first.hook = some hook ∧
      ∃ second, first.receive (.report undeclared .nothing) = .ok (.shown inner, second) ∧
        second.hook = some hook :=
    ⟨_, rfl, rfl, _, rfl, rfl⟩
  obtain ⟨first, outerReceived, firstHook, second, innerReceived, secondHook⟩ := handed
  have outerHanded : Course (.initial (.ofWorkdir []) "" (some hook))
      [.received (.shown outer)] ⟨first, [.dispatched outer]⟩ :=
    .single (.hand outerReceived firstHook)
  have innerHanded := Course.move outerHanded (.hand innerReceived secondHook)
  have course : Course (.initial (.ofWorkdir []) "" (some hook)) log _ :=
    .move innerHanded (.settle second [.dispatched outer] inner .doNothing)
  obtain ⟨⟨errors, -⟩, -, -, -, -, failed, -⟩ := counters_account_for_deliveries course
  refine ⟨_, course, rfl, errors, ?_⟩
  rw [failed]
  exact ⟨_, .head _, Or.inl rfl⟩

end Frontend
