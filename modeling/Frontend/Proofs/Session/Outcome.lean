import Frontend.Proofs.Session.Accounting
import Frontend.Proofs.Session.Once

/-!
# How a call that reports ends

A call reads the session at two moments. Whether its report is shown and how grave it is are read
before the hook has the report; the counters, the limit of errors and the options are read after it,
when the report itself has been counted. What the hook does in between, nested reports included,
counts for the verdict. The verdict is characterised by what is true at these two moments.
-/

namespace Frontend

/-! ## The verdict on a counted report -/

namespace Compilation

variable (counted : Compilation) (severity : Severity) (handling : OnError) (directive : Directive)

/-- The compiler is to exit: the hook says so, or it leaves the report to the table and the report was
fatal, or was an error below the limit, of a caller who wants to exit, while no editor is served. -/
def Aborts : Prop :=
  directive = .abort ∨ directive = .default ∧
    (severity = .fatal ∨ severity = .error ∧
      counted.counters.errors < counted.counters.errorLimit ∧ handling = .abort ∧
      counted.options.servesEditor = false)

/-- The compilation is to stop: the hook says so, or it leaves the report to the table and the report
was an error that reached the limit, or one of a caller who wants to stop. -/
def Raises : Prop :=
  directive = .raise ∨ directive = .default ∧ severity = .error ∧
    (counted.counters.errorLimit ≤ counted.counters.errors ∨ handling = .raise)

theorem defaultAction_eq_abort_iff :
    counted.defaultAction severity handling = .abort ↔
      severity = .fatal ∨ severity = .error ∧
        counted.counters.errors < counted.counters.errorLimit ∧ handling = .abort ∧
        counted.options.servesEditor = false := by
  unfold defaultAction
  cases severity with
  | error =>
      by_cases limit : counted.counters.errorLimit ≤ counted.counters.errors
      · simp [limit, Nat.not_lt.mpr limit]
      · cases handling <;> simp [limit, Nat.lt_of_not_le limit]
  | fatal | debug | trace | hint | warning => simp

theorem defaultAction_eq_raise_iff :
    counted.defaultAction severity handling = .raise ↔
      severity = .error ∧
        (counted.counters.errorLimit ≤ counted.counters.errors ∨ handling = .raise) := by
  unfold defaultAction
  cases severity with
  | error =>
      by_cases limit : counted.counters.errorLimit ≤ counted.counters.errors
      · simp [limit]
      · cases handling <;> cases counted.options.servesEditor <;> simp [limit]
  | fatal | debug | trace | hint | warning => simp

theorem action_eq_abort_iff :
    counted.action severity handling directive = .abort ↔
      counted.Aborts severity handling directive := by
  cases directive with
  | default => simp [action, Aborts, defaultAction_eq_abort_iff]
  | doNothing | abort | raise => simp [action, Aborts]

theorem action_eq_raise_iff :
    counted.action severity handling directive = .raise ↔
      counted.Raises severity handling directive := by
  cases directive with
  | default => simp [action, Raises, defaultAction_eq_raise_iff]
  | doNothing | abort | raise => simp [action, Raises]

theorem not_raises_of_aborts (aborts : counted.Aborts severity handling directive) :
    ¬ counted.Raises severity handling directive := by
  rw [← action_eq_raise_iff, (action_eq_abort_iff ..).mpr aborts]
  exact Directive.noConfusion

end Compilation

/-! ## The two halves of a call -/

namespace Call

/-- The id that the call names, or that its report has already. -/
def id? : Call → Option ReportId
  | .report about _ => about.id
  | .replay id _ => some id

/-- How the caller wants errors handled. -/
def handling : Call → OnError
  | .report _ handling => handling
  | .replay _ handling => handling

end Call

theorem Ledger.identified_report_kind (ledger : Ledger) (report : Report) :
    (ledger.identified report).2.1.kind = report.kind := by
  cases known : report.id <;> simp [identified, known]

theorem Ledger.identified_ledger (ledger : Ledger) (report : Report) :
    (ledger.identified report).2.2 =
      { ledger with
        nextNumber := if report.id = none then ledger.nextNumber + 1 else ledger.nextNumber } := by
  cases known : report.id <;> simp [identified, known]

/-- The ledger after a call was received: its report has got an id if it had none, and the id is
written. -/
def Ledger.received (ledger : Ledger) (call : Call) (id : ReportId) : Ledger :=
  { ledger with
    nextNumber := if call.id? = none then ledger.nextNumber + 1 else ledger.nextNumber
    written := id :: ledger.written }

namespace Session

/-- The report that a call is about, as it is identified, and its id. There is none if the report has
no id and the ids have run out, or if nothing is postponed under the id of a replay. -/
def subject? (session : Session) : Call → Option (ReportId × Report)
  | .report report _ =>
      match session.compilation.ledger.identify report with
      | .ok (id, report, _) => some (id, report)
      | .error _ => none
  | .replay id _ => (session.compilation.ledger.postponed? id).map fun report => (id, report)

theorem subject?_report_eq_some {session : Session} {about report : Report} {handling : OnError}
    {id : ReportId} :
    session.subject? (.report about handling) = some (id, report) ↔
      session.compilation.ledger.identify about =
          .ok (session.compilation.ledger.identified about) ∧
        (session.compilation.ledger.identified about).1 = id ∧
        (session.compilation.ledger.identified about).2.1 = report := by
  by_cases enough : session.compilation.ledger.hasIdFor about = true <;>
    simp [subject?, Ledger.identify, enough]

/-- A call with a report is about this report, unless the report is to get an id and there is none. -/
theorem exists_subject {session : Session} {about : Report}
    (enough : about.id ≠ none ∨ session.compilation.ledger.nextNumber < Ledger.idLimit)
    (handling : OnError) :
    ∃ id report, session.subject? (.report about handling) = some (id, report) ∧
      report.kind = about.kind := by
  have enough : session.compilation.ledger.hasIdFor about = true := by
    rw [Ledger.hasIdFor, Bool.or_eq_true, Option.isSome_iff_ne_none, decide_eq_true_iff]
    exact enough
  refine ⟨_, _, subject?_report_eq_some.mpr ⟨Ledger.identify_eq_ok.mpr ⟨enough, rfl⟩, rfl, rfl⟩, ?_⟩
  exact session.compilation.ledger.identified_report_kind about

/-- The session that the hook finds when it gets the report of a call. -/
def received (session : Session) (call : Call) (id : ReportId) : Session :=
  session.setLedger (session.compilation.ledger.received call id)

/-- Accepting a report that has not been written marks it, and the policy says what becomes of it. -/
theorem accept_of_unwritten {session : Session} {id : ReportId}
    (unwritten : session.compilation.ledger.isUnwritten id = true) (report : Report)
    (handling : OnError) :
    session.accept id report handling =
      (if session.compilation.shows report
        then .shown ⟨report, session.compilation.severity report, handling⟩
        else .suppressed report,
        session.setLedger
          { session.compilation.ledger with written := id :: session.compilation.ledger.written }) := by
  have marked : (session.compilation.noteWritten id).2 = { session.compilation with
      ledger :=
        { session.compilation.ledger with written := id :: session.compilation.ledger.written } } := by
    rw [Compilation.noteWritten, Ledger.noteWritten, if_pos unwritten]
  have policy : ({ session.compilation with
      ledger := { session.compilation.ledger with
        written := id :: session.compilation.ledger.written } } : Compilation).shows report =
      session.compilation.shows report := rfl
  simp only [accept, Compilation.accept, marked, policy]
  cases session.compilation.shows report <;> rfl

section

variable {session : Session} {call : Call} {id : ReportId} {report : Report}
  (subject : session.subject? call = some (id, report)) (kind : report.kind ≠ .unset)
  (unwritten : session.compilation.ledger.isUnwritten id = true)

include subject kind unwritten

/-- A report with an unwritten id is shown or suppressed as the policy says, which receiving it does
not touch. -/
theorem receive_of_unwritten :
    session.receive call =
      .ok (if session.compilation.shows report
          then .shown ⟨report, session.compilation.severity report, call.handling⟩
          else .suppressed report,
        session.received call id) := by
  cases call with
  | report about handling =>
      obtain ⟨given, rfl, rfl⟩ := subject?_report_eq_some.mp subject
      have demanded : demandKind about = .ok () := by
        rw [Ledger.identified_report_kind] at kind
        rw [demandKind, if_neg kind]
      let numbered := session.setLedger (session.compilation.ledger.identified about).2.2
      have still : numbered.compilation.ledger.isUnwritten
          (session.compilation.ledger.identified about).1 = true :=
        ((session.compilation.ledger.continues_identified about).isUnwritten _).trans unwritten
      have accepted := accept_of_unwritten still
        (session.compilation.ledger.identified about).2.1 handling
      have received : session.receive (.report about handling) = .ok (numbered.accept
          (session.compilation.ledger.identified about).1
          (session.compilation.ledger.identified about).2.1 handling) := by
        simp only [receive, demanded, given]
        exact if_pos still
      rw [received, accepted]
      simp only [numbered, setLedger, Ledger.identified_ledger]
      rfl
  | replay replayed handling =>
      obtain ⟨found, kept, same⟩ := Option.map_eq_some_iff.mp subject
      cases same
      have demanded : demandKind report = .ok () := by rw [demandKind, if_neg kind]
      have accepted := accept_of_unwritten unwritten report handling
      simp only [receive, if_pos unwritten, kept, demanded, accepted]
      rfl

end

/-- When the ids have run out, a report without an id is refused. -/
theorem receive_of_exhausted {session : Session} {report : Report} (new : report.id = none)
    (kind : report.kind ≠ .unset)
    (full : Ledger.idLimit ≤ session.compilation.ledger.nextNumber) (handling : OnError) :
    session.receive (.report report handling) = .error .idsExhausted := by
  have demanded : demandKind report = .ok () := by rw [demandKind, if_neg kind]
  have none : session.compilation.ledger.identify report = .error .idsExhausted := by
    rw [Ledger.identify, if_neg]
    rw [Ledger.hasIdFor_of_new new]
    exact Nat.not_lt.mpr full
  simp only [receive, demanded, none]
  rfl

/-- A call that is refused ends before the hook is asked. -/
theorem perform_of_refused {session : Session} {call : Call} {fault : Fault}
    (refused : session.receive call = .error fault) (handle : Handler) :
    perform handle session call = .error fault := by
  rw [perform, refused]
  rfl

/-- A call whose report is not shown ends before the hook is asked. -/
theorem perform_of_hidden {session found : Session} {call : Call} {report : Report}
    (received : session.receive call = .ok (.suppressed report, found)) (handle : Handler) :
    perform handle session call = .ok (.ok .doNothing, found) := by
  rw [perform, received]
  rfl

/-- A call whose report is shown gives it to the hook, and is settled with what the hook answers. -/
theorem perform_of_shown {session found : Session} {call : Call} {pending : Pending} {hook : Hook}
    (received : session.receive call = .ok (.shown pending, found))
    (kind : pending.report.kind ≠ .unset) (installed : found.hook = some hook) (handle : Handler) :
    perform handle session call =
      (handle hook pending.report found).map fun answer => answer.2.settle pending answer.1 := by
  have delivered : deliver handle found pending.report = handle hook pending.report found := by
    rw [deliver, demandKind, if_neg kind, installed]
    rfl
  rw [perform, received]
  change (deliver handle found pending.report >>= fun answer =>
    pure (answer.2.settle pending answer.1)) = _
  rw [delivered]
  cases handle hook pending.report found <;> rfl

/-! ## The end of a call -/

section

variable (left : Session) (pending : Pending) (directive : Directive)

/-- The compilation that the hook left, with the report counted. -/
def counted : Compilation :=
  left.compilation.count pending.severity

/-- What is done about the report, now that the hook has answered. -/
def actionAfter : Directive :=
  (left.counted pending).action pending.severity pending.handling directive

theorem settle_eq :
    left.settle pending directive =
      (((left.counted pending).conclude directive (left.actionAfter pending directive)).1,
        { left with compilation :=
            ((left.counted pending).conclude directive (left.actionAfter pending directive)).2 }) :=
  rfl

variable {left pending directive}

theorem settle_of_aborts (most : left.compilation.counters.exitCode ≤ 1)
    (aborts : (left.counted pending).Aborts pending.severity pending.handling directive) :
    left.settle pending directive =
      (.error (.aborted 1),
        { left with compilation := { left.counted pending with
            counters := { (left.counted pending).counters with exitCode := 1 } } }) := by
  have code : max (left.counted pending).counters.exitCode 1 = 1 := by
    apply Nat.max_eq_right
    rw [counted, Compilation.count, Compilation.countIn_eq]
    change (if pending.severity = .error then 1 else left.compilation.counters.exitCode) ≤ 1
    split
    · exact Nat.le_refl 1
    · exact most
  have action : left.actionAfter pending directive = .abort :=
    (Compilation.action_eq_abort_iff ..).mpr aborts
  rw [settle_eq, action]
  simp only [Compilation.conclude, code]

theorem settle_of_raises
    (raises : (left.counted pending).Raises pending.severity pending.handling directive) :
    left.settle pending directive =
      (.error (.recoverable (left.counted pending).counters.errors),
        { left with compilation := left.counted pending }) := by
  have action : left.actionAfter pending directive = .raise :=
    (Compilation.action_eq_raise_iff ..).mpr raises
  rw [settle_eq, action]
  rfl

theorem settle_of_neither
    (stays : ¬ (left.counted pending).Aborts pending.severity pending.handling directive)
    (goesOn : ¬ (left.counted pending).Raises pending.severity pending.handling directive) :
    left.settle pending directive =
      (.ok directive, { left with compilation := left.counted pending }) := by
  rw [settle_eq]
  cases action : left.actionAfter pending directive with
  | default | doNothing => rfl
  | abort => exact absurd ((Compilation.action_eq_abort_iff ..).mp action) stays
  | raise => exact absurd ((Compilation.action_eq_raise_iff ..).mp action) goesOn

/-- Each verdict says exactly which of the three cases it was. -/
theorem settle_iff (pending : Pending) (directive : Directive)
    (most : left.compilation.counters.exitCode ≤ 1) :
    let settled := left.settle pending directive
    let aborts := (left.counted pending).Aborts pending.severity pending.handling directive
    let raises := (left.counted pending).Raises pending.severity pending.handling directive
    (settled.1 = .error (.aborted 1) ∧ settled.2.compilation.counters.exitCode = 1 ↔ aborts) ∧
      (settled.1 = .error (.recoverable (left.counted pending).counters.errors) ↔ raises) ∧
      (settled.1 = .ok directive ↔ ¬ aborts ∧ ¬ raises) ∧
      (¬ aborts → settled.2 = { left with compilation := left.counted pending }) ∧
      (aborts → settled.2 = { left with compilation := { left.counted pending with
        counters := { (left.counted pending).counters with exitCode := 1 } } }) := by
  intro settled aborts raises
  by_cases stops : aborts
  · have settles : settled = _ := settle_of_aborts most stops
    have lasts : ¬ raises := Compilation.not_raises_of_aborts _ _ _ _ stops
    simp [settles, stops, lasts]
  · by_cases recovers : raises
    · have settles : settled = _ := settle_of_raises recovers
      simp [settles, stops, recovers]
    · have settles : settled = _ := settle_of_neither stops recovers
      simp [settles, stops, recovers]

end

end Session

/-! ## Ids that have not been written -/

theorem Books.Turn.unwritten {request : Request} {books later : Books} {id : ReportId}
    (turn : Books.Turn request books later) (other : (Event.asked request).writes id = false)
    (unwritten : books.ledger.isUnwritten id = true) : later.ledger.isUnwritten id = true := by
  cases turn with
  | postpone kept =>
      obtain ⟨-, -, rfl⟩ := Ledger.postpone_eq_ok.mp kept
      exact ((books.ledger.continues_identified _).isUnwritten id).trans unwritten
  | identify given => exact ((Ledger.continues_identify given).1.isUnwritten id).trans unwritten
  | noteWritten marked =>
      have differs : marked ≠ id := of_decide_eq_false other
      simp [Ledger.isUnwritten_noteWritten, unwritten, differs.symm]
  | closeFrame kept closed =>
      obtain ⟨-, rfl⟩ := Ledger.closeFrame_eq_ok.mp closed
      exact unwritten
  | openFrame | limitErrors | keep => exact unwritten

theorem Books.Receipt.unwritten {admission : Admission} {books later : Books} {id : ReportId}
    (receipt : Books.Receipt admission books later) (keyed : books.ledger.Keyed)
    (other : (Event.received admission).writes id = false)
    (unwritten : books.ledger.isUnwritten id = true) : later.ledger.isUnwritten id = true := by
  cases receipt with
  | repeated continues => exact (continues.isUnwritten id).trans unwritten
  | @accepted _ _ ledger key report continues about carries =>
      have own : report.id = some key := carries.elim (fun own => own) keyed
      have differs : key ≠ id := by simpa [Event.writes, about, own] using other
      have still : ledger.isUnwritten id = true := (continues.isUnwritten id).trans unwritten
      simp [Ledger.isUnwritten_noteWritten, still, differs.symm]

/-- Only an event that writes an id takes it from the unwritten ones. -/
theorem Move.unwritten {now next : Moment} {event : Event} {id : ReportId}
    (move : Move now event next) (keyed : now.ledger.Keyed) (other : event.writes id = false)
    (unwritten : now.ledger.isUnwritten id = true) : next.ledger.isUnwritten id = true := by
  cases move with
  | ask answered => exact (Session.books_of_answer answered).unwritten other unwritten
  | pass received hidden =>
      exact (Session.books_of_receive received).unwritten keyed other unwritten
  | hand received installed =>
      exact (Session.books_of_receive received).unwritten keyed other unwritten
  | settle session activities pending directive =>
      have same := session.compilation.settle_ledger pending.severity directive pending.handling
      exact (congrArg (Ledger.isUnwritten · id) same).trans unwritten
  | leave activities frame closed =>
      obtain ⟨-, rfl⟩ := Ledger.closeFrame_eq_ok.mp closed
      exact unwritten
  | install | collect | deliver | resume | enter => exact unwritten

theorem Course.unwritten {start now : Moment} {log : List Event} {id : ReportId}
    (course : Course start log now) (keyed : start.ledger.Keyed)
    (unwritten : start.ledger.isUnwritten id = true)
    (others : ∀ event ∈ log, event.writes id = false) : now.ledger.isUnwritten id = true := by
  induction course with
  | refl => exact unwritten
  | move course move ih =>
      have before := ih fun event earlier => others event (List.mem_cons_of_mem _ earlier)
      exact move.unwritten (course.keyed keyed) (others _ List.mem_cons_self) before

/-- The id that a call has or gets is unwritten, if it has an unwritten one, or gets one and only ids
that were handed out have been written. -/
theorem Session.isUnwritten_of_subject {tree : FileTree} {manualUrl : String}
    {installedFirst : Option Hook} {log : List Event} {now : Moment}
    (course : Course (.initial tree manualUrl installedFirst) log now) {call : Call}
    {id : ReportId} {report : Report} (subject : now.session.subject? call = some (id, report))
    (fresh : call.id? = none)
    (issued : ∀ event ∈ log, ∀ written, event.writes written = true →
      written.number < now.ledger.nextNumber) : now.ledger.isUnwritten id = true := by
  cases call with
  | replay => cases fresh
  | report about handling =>
      have next : id = ⟨now.ledger.nextNumber⟩ := by
        have none : about.id = none := fresh
        obtain ⟨-, rfl, -⟩ := subject?_report_eq_some.mp subject
        simp only [Ledger.identified, none]
        rfl
      apply course.unwritten Ledger.keyed_initial rfl
      intro event happened
      rw [Bool.eq_false_iff]
      intro writes
      have less := issued event happened id writes
      rw [next] at less
      exact absurd less (Nat.lt_irrefl _)

/-- The report of a call carries the id of the call. -/
theorem Session.id_of_subject {session : Session} (keyed : session.compilation.ledger.Keyed)
    {call : Call} {id : ReportId} {report : Report}
    (subject : session.subject? call = some (id, report)) : report.id = some id := by
  cases call with
  | report about handling =>
      obtain ⟨-, rfl, rfl⟩ := subject?_report_eq_some.mp subject
      exact session.compilation.ledger.identified_report_id about
  | replay replayed handling =>
      obtain ⟨found, kept, same⟩ := Option.map_eq_some_iff.mp subject
      cases same
      exact keyed kept

/-! ## The call as a course -/

/-- From the moment when a report is handed to the hook, the hook leads to the moment when it returns,
and in between hands nothing over under the same id. -/
theorem Course.until_return {tree : FileTree} {manualUrl : String} {firstHook : Option Hook}
    {log : List Event} {now : Moment} (course : Course (.initial tree manualUrl firstHook) log now)
    {handle : Handler} (acts : handle.Acts) {call : Call} {pending : Pending} {found left : Session}
    (received : now.session.receive call = .ok (.shown pending, found)) {hook : Hook}
    (installed : found.hook = some hook) {directive : Directive}
    (handled : handle hook pending.report found = .ok (directive, left)) {id : ReportId}
    (carries : pending.report.id = some id) :
    ∃ inner, inner.countP (Event.handsOver id) = 0 ∧
      Course now (inner ++ [.received (.shown pending)])
        ⟨left, .dispatched pending :: now.activities⟩ := by
  obtain ⟨inner, leads⟩ := acts handled
  have handed : Course now [.received (.shown pending)]
      ⟨found, .dispatched pending :: now.activities⟩ :=
    .single (.hand received installed)
  have returns : Course now (inner ++ [.received (.shown pending)])
      ⟨left, .dispatched pending :: now.activities⟩ :=
    handed.trans (leads.around (.dispatched pending :: now.activities))
  have once := (course.trans returns).countP_handsOver_le_one Ledger.keyed_initial id
  have this : (Event.received (.shown pending)).handsOver id = true := by
    simp [Event.handsOver, carries]
  simp only [List.countP_append, List.countP_cons, List.countP_nil, this, if_true] at once
  exact ⟨inner, by omega, returns⟩

/-- How a call ends whose report has a kind and an id that was not written before. A report that the
policy does not show changes nothing but the ids, and no hook is asked. Any other one is given to
the hook once, with that change made; if the hook returns, the report is counted, and the verdict is
decided from its severity before the hook, the directive of the hook, and what the counters, the
limit and the options are now. A report without an id gets one, which was not written if only ids that
were handed out have been; when the ids have run out, it is refused, and no hook is asked. -/
theorem outcome_of_call {tree : FileTree} {manualUrl : String} {firstHook : Option Hook}
    {log : List Event} {now : Moment} (course : Course (.initial tree manualUrl firstHook) log now)
    {handle : Handler} (acts : handle.Acts) {hook : Hook}
    (installed : now.session.hook = some hook) :
    let ledger := now.session.compilation.ledger
    (∀ (about : Report) (handling : OnError),
      about.id ≠ none ∨ ledger.nextNumber < Ledger.idLimit →
      ∃ id report, now.session.subject? (.report about handling) = some (id, report) ∧
        report.kind = about.kind) ∧
    (∀ (about : Report) (handling : OnError), about.id = none → about.kind ≠ .unset →
      Ledger.idLimit ≤ ledger.nextNumber →
      ∀ handle, Session.perform handle now.session (.report about handling) =
        .error .idsExhausted) ∧
    ∀ (call : Call) (id : ReportId) (report : Report),
      now.session.subject? call = some (id, report) → report.kind ≠ .unset →
      (ledger.isUnwritten id = true ∨ call.id? = none ∧ ∀ event ∈ log, ∀ written,
        event.writes written = true → written.number < ledger.nextNumber) →
      let found := now.session.received call id
      let severity := now.session.compilation.severity report
      let pending : Pending := ⟨report, severity, call.handling⟩
      (now.session.compilation.shows report = false →
        ∀ handle, Session.perform handle now.session call = .ok (.ok .doNothing, found)) ∧
      (now.session.compilation.shows report = true →
        (∀ fault, handle hook report found = .error fault →
          Session.perform handle now.session call = .error fault) ∧
        ∀ directive left, handle hook report found = .ok (directive, left) →
          let counted := left.compilation.count severity
          let aborts := counted.Aborts severity call.handling directive
          let raises := counted.Raises severity call.handling directive
          ∃ verdict after, Session.perform handle now.session call = .ok (verdict, after) ∧
            (verdict = .error (.aborted 1) ∧ after.compilation.counters.exitCode = 1 ↔ aborts) ∧
            (verdict = .error (.recoverable counted.counters.errors) ↔ raises) ∧
            (verdict = .ok directive ↔ ¬ aborts ∧ ¬ raises) ∧
            (¬ aborts → after = { left with compilation := counted }) ∧
            (aborts → after = { left with compilation := { counted with
              counters := { counted.counters with exitCode := 1 } } }) ∧
            ∃ inner, inner.countP (Event.handsOver id) = 0 ∧
              Course now (.settled pending verdict :: (inner ++ [.received (.shown pending)]))
                ⟨after, now.activities⟩) := by
  intro ledger
  refine ⟨?_, ?_, ?_⟩
  · intro about handling enough
    exact Session.exists_subject enough handling
  · intro about handling new kind full
    exact Session.perform_of_refused (Session.receive_of_exhausted new kind full handling)
  · intro call id report subject kind unwritten found severity pending
    have unwritten : ledger.isUnwritten id = true := by
      rcases unwritten with unwritten | ⟨fresh, issued⟩
      · exact unwritten
      · exact Session.isUnwritten_of_subject course subject fresh issued
    have received := Session.receive_of_unwritten subject kind unwritten
    have carries := Session.id_of_subject (course.keyed Ledger.keyed_initial) subject
    constructor
    · intro hidden handle
      rw [hidden] at received
      exact Session.perform_of_hidden received handle
    · intro shown
      have received : now.session.receive call = .ok (.shown pending, found) := by
        rw [received, shown]
        rfl
      have performed := Session.perform_of_shown received kind installed handle
      constructor
      · intro fault failed
        rw [performed, failed]
        rfl
      · intro directive left handled counted aborts raises
        rw [handled] at performed
        obtain ⟨inner, noneHanded, returns⟩ :=
          course.until_return acts received installed handled carries
        have settles : Course now _ ⟨(left.settle pending directive).2, now.activities⟩ :=
          .move returns (.settle left now.activities pending directive)
        have most : left.compilation.counters.exitCode ≤ 1 := by
          rw [(course.trans returns).accounts.exitCode]
          split <;> decide
        obtain ⟨exits, stops, goesOn, kept, coded⟩ :=
          Session.settle_iff pending directive most
        exact ⟨_, _, performed, exits, stops, goesOn, kept, coded, inner, noneHanded, settles⟩

/-- While the hook has an error whose caller wants to exit, it raises the limit and reports another
error. Both are counted when the call ends, and since they are fewer than the limit now, it exits. -/
theorem outcome_of_call_nested :
    let mismatch := Report.error .typeMismatch .unknown "expected int"
    let undeclared := Report.error .undeclaredIdentifier .unknown "what is x"
    let steps : List Step :=
      [.ask (.report (.limitErrors 5)), .report (.made undeclared) .nothing]
    let hook : Hook := .mk [.mk ⟨some .typeMismatch, none⟩ 1 (some steps) .default] .default
    let start := Session.initial (.ofWorkdir []) "" (some hook)
    ∃ after, Session.perform (Session.handlerAt 1 0) start (.report mismatch .abort) =
        .ok (.error (.aborted 1), after) ∧
      after.compilation.counters.errors = 2 ∧ after.compilation.counters.exitCode = 1 := by
  intro mismatch undeclared steps hook start
  have begun : Course (.initial (.ofWorkdir []) "" (some hook)) [] ⟨start, []⟩ := .refl
  have subject : start.subject? (.report mismatch .abort) =
      some (⟨0⟩, { mismatch with id := some ⟨0⟩ }) := rfl
  have installed : start.hook = some hook := rfl
  obtain ⟨-, -, outcome⟩ := outcome_of_call begun (Session.handlerAt_acts 1 0) installed
  have outcome := outcome _ _ _ subject (by decide) (Or.inr ⟨rfl, by simp⟩)
  have answered : ∃ left, Session.handlerAt 1 0 hook { mismatch with id := some ⟨0⟩ }
      (start.received (.report mismatch .abort) ⟨0⟩) = .ok (.default, left) ∧
      (left.compilation.count .error).counters.errors = 2 ∧
      (left.compilation.count .error).counters.errorLimit = 5 ∧
      (left.compilation.count .error).options.servesEditor = false :=
    ⟨_, rfl, rfl, rfl, rfl⟩
  obtain ⟨left, handled, errors, limit, noEditor⟩ := answered
  obtain ⟨verdict, after, performed, exits, -, -, -, changed, -⟩ :=
    (outcome.2 rfl).2 .default left handled
  have below : (left.compilation.count .error).counters.errors <
      (left.compilation.count .error).counters.errorLimit := by
    rw [errors, limit]
    decide
  have aborts : (left.compilation.count .error).Aborts .error .abort .default :=
    Or.inr ⟨rfl, Or.inr ⟨rfl, below, rfl, noEditor⟩⟩
  obtain ⟨rfl, exitCode⟩ := exits.mpr aborts
  refine ⟨after, performed, ?_, exitCode⟩
  rw [changed aborts]
  exact errors

/-- An id can be marked as written before it is handed out. The next report without an id gets it, and
is taken for one that was reported before: it has a kind and would be shown, but no hook is asked. -/
theorem marked_id_silences_next_report :
    let hook : Hook := .mk [] .default
    let report := Report.error .typeMismatch .unknown "expected int"
    ∃ now, Course (.initial (.ofWorkdir []) "" (some hook))
        [.asked (.report (.noteWritten ⟨0⟩))] now ∧
      now.session.hook = some hook ∧ report.id = none ∧ report.kind ≠ .unset ∧
      now.session.compilation.shows report = true ∧
      ∀ handle, ∃ after,
        Session.perform handle now.session (.report report .nothing) =
          .ok (.ok .doNothing, after) ∧
        after.compilation.counters.errors = 0 := by
  intro hook report
  have answered : ∃ answer after, (Session.initial (.ofWorkdir []) "" (some hook)).answer
      (.report (.noteWritten ⟨0⟩)) = .ok (answer, after) ∧ after.hook = some hook ∧
      after.compilation.shows report = true ∧
      ∃ found, after.receive (.report report .nothing) = .ok (.repeated, found) ∧
        found.compilation.counters.errors = 0 :=
    ⟨_, _, rfl, rfl, rfl, _, rfl, rfl⟩
  obtain ⟨answer, after, answered, installed, shown, found, received, none⟩ := answered
  refine ⟨⟨after, []⟩, .single (.ask answered), installed, rfl, by decide, shown, ?_⟩
  intro handle
  refine ⟨found, ?_, none⟩
  rw [Session.perform, received]
  rfl

end Frontend
