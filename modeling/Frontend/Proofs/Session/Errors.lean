import Frontend.Proofs.Compilation.Severity
import Frontend.Proofs.Session.Identity

/-!
# Errors cannot be silenced

Whether a report is shown and how grave it is depend on notes and options that anyone may change at
any time. A kind that is an error of its own accord depends on none of them, so that its reports get
past the policy in every compilation. What is left to show is that a call with such a report gets past
the ledger as well. A replay of an unwritten id does, and so does a report without an id, since the id
that it gets was never handed out before.

From there on the report is with the hook. Whatever the hook does with the session, reports of its own
included, is a course, and the end of the call adds this one report to what that course has counted.
-/

namespace Frontend

theorem NoteKind.IsGrave.ne_unset {kind : NoteKind} (grave : kind.IsGrave) : kind ≠ .unset := by
  rintro rfl
  exact absurd grave (by decide)

/-! ## Getting past the policy and the ledger -/

/-- Changes of the policy are moves of a chronicle, and identify nothing. -/
theorem Chronicle.policy {start : Moment} {log : List Event} {known : List Identification}
    {session after : Session} {activities : List Activity}
    (chronicle : Chronicle start log known ⟨session, activities⟩) {request : PolicyRequest}
    {answer : Answer} (answered : session.answer (.policy request) = .ok (answer, after)) :
    Chronicle start (.asked (.policy request) :: log) known ⟨after, activities⟩ :=
  .ask chronicle (.ask answered) trivial

section

variable {tree : FileTree} {manualUrl : String} {firstHook : Option Hook} {log : List Event}
  {known : List Identification} {now : Moment}

/-- What was written so far are ids that were handed out. -/
theorem Chronicle.issued
    (chronicle : Chronicle (.initial tree manualUrl firstHook) log known now) {event : Event}
    (happened : event ∈ log) {id : ReportId} (writes : event.writes id = true) :
    id.number < now.ledger.nextNumber := by
  have written := chronicle.course.written Ledger.keyed_initial happened writes
  have listed : id ∈ now.ledger.written := by simpa [Ledger.isUnwritten] using written
  exact chronicle.registered.written id listed

/-- The id of a call is unwritten if the call names none. -/
theorem Chronicle.isUnwritten_of_subject
    (chronicle : Chronicle (.initial tree manualUrl firstHook) log known now) {call : Call}
    {id : ReportId} {report : Report} (subject : now.session.subject? call = some (id, report))
    (once : call.id? = none ∨ now.ledger.isUnwritten id = true) :
    now.ledger.isUnwritten id = true := by
  rcases once with fresh | unwritten
  · apply Session.isUnwritten_of_subject chronicle.course subject fresh
    exact fun event happened written writes => chronicle.issued happened writes
  · exact unwritten

end

/-- A grave report with an unwritten id is shown, with the severity of its kind. -/
theorem Session.receive_of_isGrave {session : Session} {call : Call} {id : ReportId}
    {report : Report} (subject : session.subject? call = some (id, report))
    (grave : report.kind.IsGrave)
    (unwritten : session.compilation.ledger.isUnwritten id = true) :
    session.receive call =
      .ok (.shown ⟨report, report.kind.ownSeverity, call.handling⟩, session.received call id) := by
  rw [Session.receive_of_unwritten subject grave.ne_unset unwritten,
    session.compilation.shows_of_isGrave grave, session.compilation.severity_of_isGrave grave,
    if_pos rfl]

/-! ## What the end of a call adds -/

section

variable {tree : FileTree} {manualUrl : String} {firstHook : Option Hook} {log : List Event}
  {now : Moment} (course : Course (.initial tree manualUrl firstHook) log now)

include course

/-- A course adds to the counter of errors what was settled as an error in it. -/
theorem Course.errors_eq {later : List Event} {next : Moment} (onwards : Course now later next) :
    next.session.compilation.counters.errors =
      now.session.compilation.counters.errors + later.countP (Event.settlesAs .error) := by
  rw [(course.trans onwards).accounts.errors, course.accounts.errors, List.countP_append,
    Nat.add_comm]

/-- After an error was settled the exit code is one. -/
theorem Course.exitCode_of_settlesAs {event : Event} (happened : event ∈ log)
    (error : event.settlesAs .error = true) : now.session.compilation.counters.exitCode = 1 := by
  have fails : log.any Event.fails = true := by
    rw [List.any_eq_true]
    exact ⟨event, happened, by rw [Event.fails, error, Bool.true_or]⟩
  rw [course.accounts.exitCode, if_pos fails]

/-- A call whose report goes to the hook is a course up to the moment when the hook returns, and one
more move. Among its events exactly one hands over a report with that id. -/
theorem Course.through_call {handle : Handler} (acts : handle.Acts) {call : Call}
    {pending : Pending} {found left : Session}
    (received : now.session.receive call = .ok (.shown pending, found)) {hook : Hook}
    (installed : found.hook = some hook) {directive : Directive}
    (handled : handle hook pending.report found = .ok (directive, left)) {id : ReportId}
    (carries : pending.report.id = some id) :
    let settled := left.settle pending directive
    ∃ inner,
      let begun := inner ++ [.received (.shown pending)]
      Course now begun ⟨left, .dispatched pending :: now.activities⟩ ∧
      Course now (.settled pending settled.1 :: begun) ⟨settled.2, now.activities⟩ ∧
      (Event.settled pending settled.1 :: begun).countP (Event.handsOver id) = 1 := by
  intro settled
  obtain ⟨inner, noneHanded, returns⟩ :=
    course.until_return acts received installed handled carries
  refine ⟨inner, returns, .move returns (.settle left now.activities pending directive), ?_⟩
  have itself : (Event.received (.shown pending)).handsOver id = true := decide_eq_true carries
  have notNow : (Event.settled pending settled.1).handsOver id = false := rfl
  simp [List.countP_append, noneHanded, itself, notNow]

/-- The end of a call counts an error once, beyond what was counted while the hook had it. -/
theorem Course.errors_of_call {pending : Pending} {verdict : Verdict} {inner : List Event}
    {left after : Session}
    (returns : Course now (inner ++ [.received (.shown pending)])
      ⟨left, .dispatched pending :: now.activities⟩)
    (whole : Course now (.settled pending verdict :: (inner ++ [.received (.shown pending)]))
      ⟨after, now.activities⟩)
    (error : pending.severity = .error) :
    left.compilation.counters.errors =
      now.session.compilation.counters.errors + inner.countP (Event.settlesAs .error) ∧
    after.compilation.counters.errors = left.compilation.counters.errors + 1 ∧
    after.compilation.counters.exitCode = 1 := by
  have counts : (Event.settled pending verdict).settlesAs .error = true := decide_eq_true error
  have before := course.errors_eq returns
  have behind := course.errors_eq whole
  rw [List.countP_cons_of_pos counts, ← Nat.add_assoc, ← before] at behind
  refine ⟨?_, behind, ?_⟩
  · simpa [List.countP_append, Event.settlesAs] using before
  · exact (course.trans whole).exitCode_of_settlesAs (.head _) counts

end

/-- Kinds that are errors of their own accord cannot be silenced. At every moment of a chronicle,
whatever was changed before of notes, options, verbosity, module and command, their reports are shown
and keep their severity. If there is a hook, a call with such a report hands it to the hook, unless
the report carries an id that was written before: the call is what the hook makes of the report, and
among its events exactly one hands over a report with that id. When the hook returns, an error is
counted once, beyond what was counted while the hook had it, and the exit code is one. -/
theorem grave_report_reaches_hook {tree : FileTree} {manualUrl : String} {firstHook : Option Hook}
    {log : List Event} {known : List Identification} {now : Moment}
    (chronicle : Chronicle (.initial tree manualUrl firstHook) log known now) {hook : Hook}
    (installed : now.session.hook = some hook) :
    let session := now.session
    (∀ report : Report, report.kind.IsGrave →
      session.compilation.shows report = true ∧
        session.compilation.severity report = report.kind.ownSeverity) ∧
    ∀ (call : Call) (id : ReportId) (report : Report),
      session.subject? call = some (id, report) → report.kind.IsGrave →
      (call.id? = none ∨ session.compilation.ledger.isUnwritten id = true) →
      let found := session.received call id
      let pending : Pending := ⟨report, report.kind.ownSeverity, call.handling⟩
      (∀ handle : Handler, Session.perform handle session call =
        (handle hook report found).map fun answer => answer.2.settle pending answer.1) ∧
      ∀ handle : Handler, handle.Acts → ∀ directive left,
        handle hook report found = .ok (directive, left) →
        ∃ verdict after inner, Session.perform handle session call = .ok (verdict, after) ∧
          let events := .settled pending verdict :: (inner ++ [.received (.shown pending)])
          Course now events ⟨after, now.activities⟩ ∧
          events.countP (Event.handsOver id) = 1 ∧
          (report.kind.ownSeverity = .error →
            left.compilation.counters.errors =
              session.compilation.counters.errors + inner.countP (Event.settlesAs .error) ∧
            after.compilation.counters.errors = left.compilation.counters.errors + 1 ∧
            after.compilation.counters.exitCode = 1) := by
  intro session
  have course := chronicle.course
  constructor
  · intro report grave
    exact ⟨session.compilation.shows_of_isGrave grave,
      session.compilation.severity_of_isGrave grave⟩
  · intro call id report subject grave once found pending
    have unwritten := chronicle.isUnwritten_of_subject subject once
    have received : session.receive call = .ok (.shown pending, found) :=
      Session.receive_of_isGrave subject grave unwritten
    have performed := Session.perform_of_shown received grave.ne_unset installed
    refine ⟨performed, ?_⟩
    intro handle acts directive left handled
    have carries := Session.id_of_subject (course.keyed Ledger.keyed_initial) subject
    obtain ⟨inner, returns, whole, handsOnce⟩ :=
      course.through_call acts received installed handled carries
    refine ⟨_, _, inner, ?_, whole, handsOnce, ?_⟩
    · rw [performed handle, handled]
      rfl
    · exact course.errors_of_call returns whole

/-- An editor is served in a foreign module, and foreign modules show no kind at all. An error that a
user issues there goes to the hook, which reports another one. -/
theorem grave_report_reaches_hook_userError :
    let mismatch := Report.error .typeMismatch .unknown "expected int"
    let complaint := Report.fresh .userError .unknown (.error "not supported" none)
    let steps : List Step := [.report (.made mismatch) .nothing]
    let hook : Hook := .mk [.mk ⟨some .userError, none⟩ 1 (some steps) .doNothing] .doNothing
    ∃ log now, Chronicle (.initial (.ofWorkdir []) "" (some hook)) log [] now ∧
      now.session.hook = some hook ∧
      now.session.compilation.options.servesEditor = true ∧
      now.session.compilation.notes.active = ∅ ∧
      complaint.kind.IsGrave ∧ now.session.compilation.shows complaint = true ∧
      ∃ verdict after,
        Session.perform (Session.handlerAt 1 0) now.session (.report complaint .abort) =
          .ok (verdict, after) ∧
        after.compilation.counters.errors = 2 ∧ after.compilation.counters.exitCode = 1 := by
  intro mismatch complaint steps hook
  let start := Session.initial (.ofWorkdir []) "" (some hook)
  let identified : Report := { complaint with id := some ⟨0⟩ }
  have quietened : ∃ first second third, ∃ editing bare quiet : Session,
      start.answer (.policy (.command .ideTools)) = .ok (first, editing) ∧
      editing.answer (.policy (.change (.replaceForeign ∅))) = .ok (second, bare) ∧
      bare.answer (.policy (.change (.enter false))) = .ok (third, quiet) ∧
      quiet.hook = some hook ∧ quiet.compilation.options.servesEditor = true ∧
      quiet.compilation.notes.active = ∅ ∧
      quiet.subject? (.report complaint .abort) = some (⟨0⟩, identified) ∧
      ∃ left, Session.handlerAt 1 0 hook identified
          (quiet.received (.report complaint .abort) ⟨0⟩) = .ok (.doNothing, left) ∧
        left.compilation.counters.errors = 1 :=
    ⟨_, _, _, _, _, _, rfl, rfl, rfl, rfl, rfl, rfl, rfl, _, rfl, rfl⟩
  obtain ⟨_, _, _, editing, bare, quiet, first, second, third, installed, editor, nothing, subject,
    left, handled, counted⟩ := quietened
  have begun : Chronicle (.initial (.ofWorkdir []) "" (some hook)) [] [] ⟨start, []⟩ := .refl
  have chronicle := ((begun.policy first).policy second).policy third
  have grave : complaint.kind.IsGrave := by decide
  obtain ⟨shown, calls⟩ := grave_report_reaches_hook chronicle installed
  obtain ⟨-, ends⟩ := calls _ _ _ subject grave (Or.inl rfl)
  obtain ⟨verdict, after, inner, performed, -, -, counts⟩ :=
    ends (Session.handlerAt 1 0) (Session.handlerAt_acts 1 0) .doNothing left handled
  obtain ⟨-, errors, exitCode⟩ := counts rfl
  rw [counted] at errors
  exact ⟨_, _, chronicle, installed, editor, nothing, grave, (shown complaint grave).1, verdict,
    after, performed, errors, exitCode⟩

end Frontend
