import Frontend.Proofs.Session.Books
import Frontend.Proofs.Session.Course

/-!
# Reports reach the hook once

An id is marked as written before the hook sees its report, and no move ever takes an id from the
written ones. A report goes to the hook only under an id that is unwritten, and since postponed
reports are kept under the ids that they carry, this is the id of the report. So among the events of
a course at most one hands over a report with a given id, and after any event that writes the id
all calls that report it end at once.
-/

namespace Frontend

/-! ## Events about an id -/

/-- A call that reports hands a report with the id to the hook. -/
def Event.handsOver (id : ReportId) : Event → Bool
  | .received (.shown pending) => pending.report.id = some id
  | _ => false

/-- The id is written: a report with it was shown or suppressed, or it was marked by hand. -/
def Event.writes (id : ReportId) : Event → Bool
  | .received admission => admission.report?.any fun report => report.id = some id
  | .asked (.report (.noteWritten marked)) => marked = id
  | _ => false

theorem Event.writes_of_handsOver {id : ReportId} {event : Event}
    (hands : event.handsOver id = true) : event.writes id = true := by
  unfold handsOver at hands
  split at hands
  · simpa [writes, Admission.report?] using hands
  · cases hands

/-- The only request that writes an id is the one that marks it. -/
theorem Event.eq_of_writes_asked {id : ReportId} {request : Request}
    (writes : (Event.asked request).writes id = true) : request = .report (.noteWritten id) := by
  unfold Event.writes at writes
  split at writes
  · contradiction
  · rename_i marked same
    cases same
    rw [of_decide_eq_true writes]
  · cases writes

/-! ## How ledgers advance -/

namespace Ledger

/-- Postponed reports are kept under the ids that they carry. -/
def Keyed (ledger : Ledger) : Prop :=
  ∀ {id report}, ledger.postponed? id = some report → report.id = some id

/-- Nothing that was written is unwritten in the second ledger, and its postponed reports are kept
under their ids if those of the first are. -/
structure Advances (ledger later : Ledger) : Prop where
  unwritten : ∀ {id}, later.isUnwritten id = true → ledger.isUnwritten id = true
  keyed : ledger.Keyed → later.Keyed

theorem keyed_initial : initial.Keyed := by
  intro id report kept
  cases kept

variable {ledger later : Ledger}

/-- A ledger advances when it keeps its reports and its written ids. -/
theorem advances_of_eq (postponed : later.postponed = ledger.postponed)
    (written : later.written = ledger.written) : ledger.Advances later := by
  constructor
  · intro id unwritten
    rwa [isUnwritten, written] at unwritten
  · intro keyed id report kept
    rw [postponed?, postponed] at kept
    exact keyed kept

theorem Continues.advances (continues : ledger.Continues later) : ledger.Advances later :=
  advances_of_eq continues.postponed continues.written

theorem Advances.trans {last : Ledger} (first : ledger.Advances later)
    (second : later.Advances last) : ledger.Advances last where
  unwritten := fun unwritten => first.unwritten (second.unwritten unwritten)
  keyed := fun keyed => second.keyed (first.keyed keyed)

theorem advances_noteWritten (ledger : Ledger) (id : ReportId) :
    ledger.Advances (ledger.noteWritten id).2 := by
  constructor
  · intro other unwritten
    rw [isUnwritten_noteWritten, Bool.and_eq_true] at unwritten
    exact unwritten.1
  · intro keyed other report kept
    rw [postponed?, noteWritten_postponed] at kept
    exact keyed kept

/-- A report is identified before it is kept, so that the id it is kept under is its own. -/
theorem advances_postpone {report : Report} {id : ReportId}
    (kept : ledger.postpone report = .ok (id, later)) : ledger.Advances later := by
  obtain ⟨-, rfl, rfl⟩ := postpone_eq_ok.mp kept
  have identified := ledger.continues_identified report
  constructor
  · intro id unwritten
    rw [← identified.isUnwritten]
    exact unwritten
  · intro keyed id found kept
    simp only [postponed?, Dictionary.find?_insert] at kept
    split at kept
    · rename_i same
      cases kept
      rw [← same]
      exact ledger.identified_report_id report
    · rw [identified.postponed] at kept
      exact keyed kept

theorem advances_closeFrame {token : FrameToken} (closed : ledger.closeFrame token = .ok later) :
    ledger.Advances later := by
  obtain ⟨-, rfl⟩ := closeFrame_eq_ok.mp closed
  exact advances_of_eq rfl rfl

end Ledger

theorem Books.Turn.advances {request : Request} {books later : Books}
    (turn : Books.Turn request books later) : books.ledger.Advances later.ledger := by
  cases turn with
  | postpone kept => exact Ledger.advances_postpone kept
  | identify given => exact (Ledger.continues_identify given).1.advances
  | noteWritten id => exact books.ledger.advances_noteWritten id
  | closeFrame kept closed => exact Ledger.advances_closeFrame closed
  | openFrame | limitErrors | keep => exact Ledger.advances_of_eq rfl rfl

theorem Books.Receipt.advances {admission : Admission} {books later : Books}
    (receipt : Books.Receipt admission books later) : books.ledger.Advances later.ledger := by
  cases receipt with
  | repeated continues => exact continues.advances
  | accepted continues about carries unwritten =>
      exact continues.advances.trans (Ledger.advances_noteWritten _ _)

theorem Books.Turn.marks {id : ReportId} {books later : Books}
    (turn : Books.Turn (.report (.noteWritten id)) books later) :
    later.ledger.isUnwritten id = false := by
  cases turn with
  | noteWritten => simp [Ledger.isUnwritten_noteWritten]
  | keep keeps => exact keeps.elim

/-- A report is marked as written under its own id, which is unwritten until then. -/
theorem Books.Receipt.marks {id : ReportId} {admission : Admission} {books later : Books}
    (receipt : Books.Receipt admission books later) (keyed : books.ledger.Keyed)
    (writes : (Event.received admission).writes id = true) :
    books.ledger.isUnwritten id = true ∧ later.ledger.isUnwritten id = false := by
  cases receipt with
  | repeated => cases writes
  | @accepted _ _ ledger key report continues about carries unwritten =>
      have own : report.id = some key := carries.elim (fun own => own) keyed
      have same : key = id := by simpa [Event.writes, about, own] using writes
      subst same
      exact ⟨unwritten, by simp [Ledger.isUnwritten_noteWritten]⟩

/-! ## Moves -/

/-- The ledger of a moment. -/
def Moment.ledger (now : Moment) : Ledger :=
  now.session.compilation.ledger

namespace Move

variable {now next : Moment} {event : Event} {id : ReportId}

theorem advances (move : Move now event next) : now.ledger.Advances next.ledger := by
  cases move with
  | ask answered => exact (Session.books_of_answer answered).advances
  | pass received hidden => exact (Session.books_of_receive received).advances
  | hand received installed => exact (Session.books_of_receive received).advances
  | settle session activities pending directive =>
      have same := session.compilation.settle_ledger pending.severity directive pending.handling
      exact Ledger.advances_of_eq (congrArg Ledger.postponed same) (congrArg Ledger.written same)
  | leave activities frame closed => exact Ledger.advances_closeFrame closed
  | install | collect | deliver | resume | enter => exact Ledger.advances_of_eq rfl rfl

/-- After an event that writes an id, the id is written. -/
theorem written_of_writes (move : Move now event next) (keyed : now.ledger.Keyed)
    (writes : event.writes id = true) : next.ledger.isUnwritten id = false := by
  cases move with
  | ask answered =>
      have request := Event.eq_of_writes_asked writes
      subst request
      exact (Session.books_of_answer answered).marks
  | pass received hidden => exact ((Session.books_of_receive received).marks keyed writes).2
  | hand received installed => exact ((Session.books_of_receive received).marks keyed writes).2
  | settle | leave | install | collect | deliver | resume | enter => cases writes

/-- Only a report with an unwritten id is handed to the hook. -/
theorem unwritten_of_handsOver (move : Move now event next) (keyed : now.ledger.Keyed)
    (hands : event.handsOver id = true) : now.ledger.isUnwritten id = true := by
  have writes := Event.writes_of_handsOver hands
  cases move with
  | hand received installed => exact ((Session.books_of_receive received).marks keyed writes).1
  | pass received hidden => exact ((Session.books_of_receive received).marks keyed writes).1
  | ask | settle | leave | install | collect | deliver | resume | enter => cases hands

end Move

/-! ## Courses -/

namespace Course

variable {start now : Moment} {log : List Event} {id : ReportId}

theorem keyed (course : Course start log now) (keyed : start.ledger.Keyed) : now.ledger.Keyed := by
  induction course with
  | refl => exact keyed
  | move _ move ih => exact move.advances.keyed ih

/-- What has been written once stays written. -/
theorem written (course : Course start log now) (keyed : start.ledger.Keyed) {event : Event}
    (happened : event ∈ log) (writes : event.writes id = true) :
    now.ledger.isUnwritten id = false := by
  induction course with
  | refl => cases happened
  | move course move ih =>
      rcases List.mem_cons.mp happened with
        rfl |
        earlier
      · exact move.written_of_writes (course.keyed keyed) writes
      · rw [Bool.eq_false_iff]
        intro unwritten
        have before := move.advances.unwritten unwritten
        rw [ih earlier] at before
        cases before

theorem countP_handsOver_le_one (course : Course start log now) (keyed : start.ledger.Keyed)
    (id : ReportId) : log.countP (Event.handsOver id) ≤ 1 := by
  induction course with
  | refl => exact Nat.zero_le 1
  | @move log now event next course move ih =>
      by_cases hands : event.handsOver id = true
      · have unwritten := move.unwritten_of_handsOver (course.keyed keyed) hands
        have none : log.countP (Event.handsOver id) = 0 := by
          rw [List.countP_eq_zero]
          intro other earlier again
          have written := course.written keyed earlier (Event.writes_of_handsOver again)
          rw [written] at unwritten
          cases unwritten
        simp [hands, none]
      · rwa [List.countP_cons_of_neg hands]

end Course

/-! ## Calls about a written id -/

namespace Session

variable {session : Session} {id : ReportId}

theorem receive_report_written {report : Report}
    (written : session.compilation.ledger.isUnwritten id = false) (kind : report.kind ≠ .unset)
    (carries : report.id = some id) (handling : OnError) :
    session.receive (.report report handling) = .ok (.repeated, session) := by
  have known := session.compilation.ledger.identify_of_id carries
  have demanded : demandKind report = .ok () := by rw [demandKind, if_neg kind]
  simp only [receive, demanded, known]
  exact if_neg (Bool.eq_false_iff.mp written)

theorem receive_replay_written (written : session.compilation.ledger.isUnwritten id = false)
    (handling : OnError) : session.receive (.replay id handling) = .ok (.repeated, session) := by
  simp only [receive, written]
  rfl

/-- A call that is left alone does nothing, and no handler is asked. -/
theorem perform_of_repeated {call : Call}
    (repeated : session.receive call = .ok (.repeated, session)) (handle : Handler) :
    perform handle session call = .ok (.ok .doNothing, session) :=
  perform_eq_ok.mpr (Or.inl ⟨.repeated, repeated, by simp, rfl⟩)

end Session

/-- Whatever hooks do, calls that report hand a report with a given id to the hook at most once.
Once such a report was shown or suppressed, or the id was marked by hand, the id is written at every
later moment, even while the hook still has the report. Then a call with a report that carries the
id, and a replay of the id, answer that nothing was done, leave the session as it is, and do so for
every handler, that is, without asking it. -/
theorem reaches_hook_at_most_once {tree : FileTree} {manualUrl : String} {hook : Option Hook}
    {log : List Event} {now : Moment} (course : Course (.initial tree manualUrl hook) log now)
    (id : ReportId) :
    log.countP (Event.handsOver id) ≤ 1 ∧
      ∀ event ∈ log, event.writes id = true →
        now.session.compilation.ledger.isUnwritten id = false ∧
          (∀ handle report handling, report.kind ≠ .unset → report.id = some id →
            Session.perform handle now.session (.report report handling) =
              .ok (.ok .doNothing, now.session)) ∧
          ∀ handle handling,
            Session.perform handle now.session (.replay id handling) =
              .ok (.ok .doNothing, now.session) := by
  constructor
  · exact course.countP_handsOver_le_one Ledger.keyed_initial id
  · intro event happened writes
    have written := course.written Ledger.keyed_initial happened writes
    refine ⟨written, ?_, ?_⟩
    · intro handle report handling kind carries
      apply Session.perform_of_repeated
      exact Session.receive_report_written written kind carries handling
    · intro handle handling
      apply Session.perform_of_repeated
      exact Session.receive_replay_written written handling

/-- While the hook has the first report of a session, which is a type mismatch, it can neither
report it again nor replay it. -/
theorem reaches_hook_at_most_once_typeMismatch :
    let hook : Hook := .mk [] .default
    let report := Report.error .typeMismatch .unknown "expected int"
    let pending : Pending := ⟨{ report with id := some ⟨0⟩ }, .error, .nothing⟩
    ∃ now, Course (.initial (.ofWorkdir []) "" (some hook)) [.received (.shown pending)] now ∧
      (Event.received (.shown pending)).handsOver ⟨0⟩ = true ∧
      now.activities = [.dispatched pending] ∧
      (∀ handle, Session.perform handle now.session (.report pending.report .abort) =
        .ok (.ok .doNothing, now.session)) ∧
      ∀ handle, Session.perform handle now.session (.replay ⟨0⟩ .raise) =
        .ok (.ok .doNothing, now.session) := by
  intro hook report pending
  have handed : ∃ found, (Session.initial (.ofWorkdir []) "" (some hook)).receive
      (.report report .nothing) = .ok (.shown pending, found) ∧ found.hook = some hook :=
    ⟨_, rfl, rfl⟩
  obtain ⟨found, received, installed⟩ := handed
  have course : Course (.initial (.ofWorkdir []) "" (some hook)) [.received (.shown pending)]
      ⟨found, [.dispatched pending]⟩ := .single (.hand received installed)
  have once := (reaches_hook_at_most_once course ⟨0⟩).2 _ (.head _) rfl
  refine ⟨_, course, rfl, rfl, ?_, ?_⟩
  · intro handle
    exact once.2.1 handle pending.report .abort (by decide) rfl
  · intro handle
    exact once.2.2 handle .raise

end Frontend
