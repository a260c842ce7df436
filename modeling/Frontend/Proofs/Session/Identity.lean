import Mathlib.Data.List.Nodup
import Frontend.Proofs.Session.Outcome

/-!
# Reports keep the id that they got

A report gets its id from the session, once, and only the session gives ids. So whoever has the
session can give it no other reports than new ones, those that it has identified itself, and copies
of these. A `Chronicle` is a course in which this is so; beside the events it lists what has been
identified, so that one can say of a report when it got its id and what was open then.

Ids are consecutive numbers. What is written, kept or saved at any moment of a chronicle carries an
id that was handed out before, which is why the next one is always new.
-/

namespace Frontend

/-! ## What has been identified -/

/-- A report that got an id, as it was then, and the instantiations that were open. -/
structure Identification where
  id : ReportId
  report : Report
  context : List Frame

/-- What is new when a ledger identifies a report: nothing, if the report has an id. -/
def Ledger.identification (ledger : Ledger) (report : Report) : List Identification :=
  match report.id with
  | some _ => []
  | none => [⟨(ledger.identified report).1, (ledger.identified report).2.1, ledger.context⟩]

/-- The reports that can be had from a session: new ones, those that it has identified, and copies
of any of these about another symbol or raised elsewhere. -/
inductive Report.Available (known : List Identification) : Report → Prop where
  | fresh (kind : NoteKind) (location : Location) (payload : Payload) :
      Available known (.fresh kind location payload)
  | identified {identification : Identification} (member : identification ∈ known) :
      Available known identification.report
  | about {report : Report} (available : Available known report) (symbol : String) :
      Available known (report.about symbol)
  | raisedAt {report : Report} (available : Available known report) (origin : String) :
      Available known (report.raisedAt origin)

/-- The reports and ids that a request writes out were had from the session. -/
def Request.IsOwn (known : List Identification) : Request → Prop
  | .report (.postpone (.made made)) | .report (.identify (.made made) _)
  | .report (.inspect (.made made) _) => made.Available known
  | .report (.noteWritten id) => ∃ identification ∈ known, identification.id = id
  | _ => True

/-- The report of a call was had from the session. Nothing is asked of the id of a replay: there is
none to be replayed under an id that was not handed out. -/
def Call.IsOwn (known : List Identification) : Call → Prop
  | .report given _ => given.Available known
  | .replay _ _ => True

namespace Session

/-- What a request identifies. -/
def identifiedBy (session : Session) : Request → List Identification
  | .report (.postpone draft) | .report (.identify draft _) =>
      match session.reportOf draft with
      | .ok report => session.compilation.ledger.identification report
      | .error _ => []
  | _ => []

/-- What a call identifies. -/
def identifiedIn (session : Session) : Call → List Identification
  | .report report _ => session.compilation.ledger.identification report
  | .replay _ _ => []

end Session

/-- The event is neither a request nor a call, so that no report is identified or kept in it. -/
def Event.KeepsReports : Event → Prop
  | .asked _ | .received _ => False
  | _ => True

/-- A course in which all reports that are given to the session were had from it, with its events and
with what it has identified, both latest first. -/
inductive Chronicle (start : Moment) : List Event → List Identification → Moment → Prop where
  | refl : Chronicle start [] [] start
  | ask {log known now request next} (chronicle : Chronicle start log known now)
      (move : Move now (.asked request) next) (own : request.IsOwn known) :
      Chronicle start (.asked request :: log) (now.session.identifiedBy request ++ known) next
  | call {log known now call admission next} (chronicle : Chronicle start log known now)
      (move : Move now (.received admission) next)
      (received : now.session.receive call = .ok (admission, next.session))
      (own : call.IsOwn known) :
      Chronicle start (.received admission :: log) (now.session.identifiedIn call ++ known) next
  | other {log known now event next} (chronicle : Chronicle start log known now)
      (move : Move now event next) (keeps : event.KeepsReports) :
      Chronicle start (event :: log) known next

theorem Chronicle.course {start now : Moment} {log : List Event} {known : List Identification}
    (chronicle : Chronicle start log known now) : Course start log now := by
  induction chronicle with
  | refl => exact .refl
  | ask _ move _ ih | call _ move _ _ ih | other _ move _ ih => exact .move ih move

/-! ## Reports that can be had -/

namespace Report.Available

variable {known more : List Identification} {report : Report}

theorem mono (available : Available known report) (grown : known ⊆ more) :
    Available more report := by
  induction available with
  | fresh kind location payload => exact .fresh kind location payload
  | identified member => exact .identified (grown member)
  | about _ symbol ih => exact ih.about symbol
  | raisedAt _ origin ih => exact ih.raisedAt origin

/-- A report that can be had is new, or has the id and the trail of one that was identified. -/
theorem new_or_identified (available : Available known report) :
    report.id = none ∧ report.trail = [] ∨
      ∃ identification ∈ known, report.id = identification.report.id ∧
        report.trail = identification.report.trail := by
  induction available with
  | fresh => exact Or.inl ⟨rfl, rfl⟩
  | @identified identification member => exact Or.inr ⟨identification, member, rfl, rfl⟩
  | about _ symbol ih => simpa using ih
  | raisedAt _ origin ih => simpa using ih

end Report.Available

/-! ## Numbers, and what carries them -/

/-- What has been identified has the numbers from zero up to the next one, which does not pass the
limit, and everything that the ledger has written, and every report that it keeps or that is saved
under a name, was had from the session. -/
structure Registered (known : List Identification) (ledger : Ledger)
    (saved : Dictionary String Report) : Prop where
  limit : ledger.nextNumber ≤ Ledger.idLimit
  numbers : known.map (·.id.number) = (List.range ledger.nextNumber).reverse
  identified : ∀ identification ∈ known,
    identification.report.id = some identification.id ∧
      identification.report.trail = identification.context
  written : ∀ id ∈ ledger.written, id.number < ledger.nextNumber
  postponed : ∀ {id report}, ledger.postponed? id = some report →
    report.id = some id ∧ report.Available known
  saved : ∀ {name report}, saved.find? name = some report → report.Available known

namespace Registered

variable {known : List Identification} {ledger later : Ledger} {saved : Dictionary String Report}
  {report : Report} {id : ReportId}

theorem number_lt (registered : Registered known ledger saved) {identification : Identification}
    (member : identification ∈ known) : identification.id.number < ledger.nextNumber := by
  have listed : identification.id.number ∈ known.map (·.id.number) :=
    List.mem_map_of_mem member
  rw [registered.numbers, List.mem_reverse] at listed
  exact List.mem_range.mp listed

/-- A report that can be had with an id has the number and the trail of the one that got it. -/
theorem exists_of_available (registered : Registered known ledger saved)
    (available : report.Available known) (carries : report.id = some id) :
    ∃ identification ∈ known, identification.id = id ∧ report.trail = identification.context := by
  rcases available.new_or_identified with ⟨none, -⟩ | ⟨identification, member, sameId, sameTrail⟩
  · rw [carries] at none
    cases none
  · obtain ⟨own, trail⟩ := registered.identified identification member
    rw [carries, own] at sameId
    exact ⟨identification, member, (Option.some.inj sameId).symm, sameTrail.trans trail⟩

/-- An id is handed out once. -/
theorem eq_of_id (registered : Registered known ledger saved) {first second : Identification}
    (member : first ∈ known) (kept : second ∈ known) (same : first.id = second.id) :
    first = second := by
  have distinct : (known.map (·.id.number)).Nodup := by
    rw [registered.numbers, List.nodup_reverse]
    exact List.nodup_range
  exact List.inj_on_of_nodup_map distinct member kept (congrArg ReportId.number same)

/-- A report that can be had without an id has no trail. -/
theorem trail_of_new (registered : Registered known ledger saved)
    (available : report.Available known) (new : report.id = none) : report.trail = [] := by
  rcases available.new_or_identified with ⟨-, bare⟩ | ⟨identification, member, same, -⟩
  · exact bare
  · rw [new, (registered.identified identification member).1] at same
    cases same

theorem number_lt_of_available (registered : Registered known ledger saved)
    (available : report.Available known) (carries : report.id = some id) :
    id.number < ledger.nextNumber := by
  obtain ⟨identification, member, rfl, -⟩ := registered.exists_of_available available carries
  exact registered.number_lt member

/-- What is open does not matter. -/
theorem of_eq (registered : Registered known ledger saved)
    (number : later.nextNumber = ledger.nextNumber) (written : later.written = ledger.written)
    (postponed : later.postponed = ledger.postponed) : Registered known later saved where
  limit := by rw [number]; exact registered.limit
  numbers := by rw [number, registered.numbers]
  identified := registered.identified
  written := by rw [number, written]; exact registered.written
  postponed := by
    intro id report kept
    rw [Ledger.postponed?, postponed] at kept
    exact registered.postponed kept
  saved := registered.saved

/-- Identifying a report uses up the next number, unless the report has one. -/
theorem identify (registered : Registered known ledger saved)
    (available : report.Available known) (enough : ledger.hasIdFor report = true) :
    Registered (ledger.identification report ++ known) (ledger.identified report).2.2 saved ∧
      (ledger.identified report).2.1.Available (ledger.identification report ++ known) := by
  cases carries : report.id with
  | some id =>
      have none : ledger.identification report = [] := by
        rw [Ledger.identification, carries]
      rw [Ledger.identified_of_id carries, none]
      exact ⟨registered, available⟩
  | none =>
      have one : ledger.identification report =
          [⟨(ledger.identified report).1, (ledger.identified report).2.1, ledger.context⟩] := by
        rw [Ledger.identification, carries]
      have new := registered.trail_of_new available carries
      have trail : (ledger.identified report).2.1.trail = ledger.context := by
        simp only [Ledger.identified, carries]
        split
        · rename_i nothing
          rw [new, List.isEmpty_iff.mp nothing]
        · rfl
      have number : (ledger.identified report).1 = ⟨ledger.nextNumber⟩ := by
        simp only [Ledger.identified, carries]
      have next : (ledger.identified report).2.2.nextNumber = ledger.nextNumber + 1 := by
        simp only [Ledger.identified, carries]
      have grown : known ⊆ ledger.identification report ++ known :=
        List.subset_append_right _ known
      have itself : (⟨(ledger.identified report).1, (ledger.identified report).2.1,
          ledger.context⟩ : Identification) ∈ ledger.identification report ++ known := by
        rw [one]
        exact List.mem_cons_self
      refine ⟨?_, .identified itself⟩
      constructor
      · rw [next]
        exact (Ledger.hasIdFor_of_new carries).mp enough
      · rw [one, List.singleton_append, List.map_cons, registered.numbers, number, next,
          List.range_succ, List.reverse_append, List.reverse_singleton, List.singleton_append]
      · intro identification member
        rw [one, List.singleton_append, List.mem_cons] at member
        rcases member with rfl | old
        · exact ⟨ledger.identified_report_id report, trail⟩
        · exact registered.identified identification old
      · intro id written
        rw [Ledger.identified_written] at written
        rw [next]
        exact Nat.lt_succ_of_lt (registered.written id written)
      · intro id kept found
        rw [Ledger.postponed?, Ledger.identified_postponed] at found
        obtain ⟨own, available⟩ := registered.postponed found
        exact ⟨own, available.mono grown⟩
      · intro name kept found
        exact (registered.saved found).mono grown

theorem postpone (registered : Registered known ledger saved)
    (available : report.Available known) (kept : ledger.postpone report = .ok (id, later)) :
    Registered (ledger.identification report ++ known) later saved := by
  obtain ⟨enough, rfl, rfl⟩ := Ledger.postpone_eq_ok.mp kept
  obtain ⟨registered, available⟩ := registered.identify available enough
  constructor
  · exact registered.limit
  · exact registered.numbers
  · exact registered.identified
  · exact registered.written
  · intro id kept found
    simp only [Ledger.postponed?, Dictionary.find?_insert] at found
    split at found
    · rename_i same
      cases found
      rw [← same]
      exact ⟨ledger.identified_report_id report, available⟩
    · exact registered.postponed found
  · exact registered.saved

theorem noteWritten (registered : Registered known ledger saved)
    (issued : id.number < ledger.nextNumber) :
    Registered known (ledger.noteWritten id).2 saved := by
  unfold Ledger.noteWritten
  split
  · refine ⟨registered.limit, registered.numbers, registered.identified, ?_, registered.postponed,
      registered.saved⟩
    intro other written
    rcases List.mem_cons.mp written with rfl | old
    · exact issued
    · exact registered.written other old
  · exact registered

theorem save (registered : Registered known ledger saved) (available : report.Available known)
    (name : String) : Registered known ledger (saved.insert name report) := by
  refine ⟨registered.limit, registered.numbers, registered.identified, registered.written,
    registered.postponed, ?_⟩
  intro other kept found
  rw [Dictionary.find?_insert] at found
  split at found
  · cases found
    exact available
  · exact registered.saved found

end Registered

/-! ## Requests -/

namespace Session

open Fault

variable {session after : Session} {answer : Answer} {known : List Identification}

/-- What the session has identified accounts for all reports that it holds. -/
def IsRegistered (session : Session) (known : List Identification) : Prop :=
  Registered known session.compilation.ledger session.savedReports

/-- A report that is named in a request was had from the session: it is written out in the request,
or was saved. -/
theorem available_of_reportOf (registered : session.IsRegistered known) {draft : Draft}
    (own : ∀ report, draft = .made report → report.Available known) {report : Report}
    (drawn : session.reportOf draft = .ok report) : report.Available known := by
  cases draft with
  | made made =>
      cases drawn
      exact own report rfl
  | saved name =>
      simp only [reportOf] at drawn
      split at drawn
      · rename_i found
        cases drawn
        exact registered.saved found
      · cases drawn

theorem IsRegistered.save (registered : session.IsRegistered known) {report : Report}
    (available : report.Available known) (name : Option String) :
    (session.save name report).IsRegistered known := by
  cases name with
  | none => exact registered
  | some name => exact Registered.save registered available name

/-- After a request about reports all reports that the session holds are accounted for. -/
theorem IsRegistered.askReport (registered : session.IsRegistered known)
    {request : ReportRequest} (own : (Request.report request).IsOwn known)
    (answered : session.answerReport request = .ok (answer, after)) :
    after.IsRegistered (session.identifiedBy (.report request) ++ known) := by
  cases request with
  | postpone draft =>
      simp only [Session.answerReport, bind_eq_ok, pure_eq_ok, Prod.mk.injEq] at answered
      obtain ⟨report, drawn, ⟨id, ledger⟩, kept, -, rfl⟩ := answered
      have available := available_of_reportOf registered (by rintro made rfl; exact own) drawn
      simp only [identifiedBy, drawn]
      exact Registered.postpone registered available kept
  | identify draft saveAs =>
      simp only [Session.answerReport, bind_eq_ok, pure_eq_ok, Prod.mk.injEq] at answered
      obtain ⟨report, drawn, _, given, -, rfl⟩ := answered
      obtain ⟨enough, rfl⟩ := Ledger.identify_eq_ok.mp given
      have available := available_of_reportOf registered (by rintro made rfl; exact own) drawn
      obtain ⟨identified, available⟩ := Registered.identify registered available enough
      simp only [identifiedBy, drawn]
      have numbered :
          (session.setLedger (session.compilation.ledger.identified report).2.2).IsRegistered
            (session.compilation.ledger.identification report ++ known) := identified
      exact numbered.save available saveAs
  | inspect draft saveAs =>
      simp only [Session.answerReport, bind_eq_ok, pure_eq_ok, Prod.mk.injEq] at answered
      obtain ⟨report, drawn, -, rfl⟩ := answered
      exact registered.save (available_of_reportOf registered (by rintro made rfl; exact own) drawn)
        saveAs
  | postponed id saveAs =>
      simp only [Session.answerReport] at answered
      split at answered
      · cases pure_eq_ok.mp answered
        exact registered
      · rename_i report kept
        cases pure_eq_ok.mp answered
        exact registered.save (registered.postponed kept).2 saveAs
  | noteWritten id =>
      cases pure_eq_ok.mp answered
      obtain ⟨identification, member, rfl⟩ := own
      exact Registered.noteWritten registered (registered.number_lt member)
  | closeFrame name =>
      simp only [Session.answerReport] at answered
      split at answered
      · exact absurd answered throw_ne_ok
      · simp only [bind_eq_ok, pure_eq_ok, Prod.mk.injEq] at answered
        obtain ⟨ledger, closed, -, rfl⟩ := answered
        obtain ⟨-, rfl⟩ := Ledger.closeFrame_eq_ok.mp closed
        exact Registered.of_eq registered rfl rfl rfl
  | openFrame frame name =>
      cases pure_eq_ok.mp answered
      exact Registered.of_eq registered rfl rfl rfl
  | requireBalanced =>
      simp only [Session.answerReport, bind_eq_ok, pure_eq_ok, Prod.mk.injEq] at answered
      obtain ⟨-, -, -, rfl⟩ := answered
      exact registered
  | trail draft =>
      simp only [Session.answerReport, bind_eq_ok, pure_eq_ok, Prod.mk.injEq] at answered
      obtain ⟨report, -, -, rfl⟩ := answered
      exact registered
  | isUnwritten | ledger | counters | limitErrors | hookInstalled | watchMacro | watchArc =>
      cases pure_eq_ok.mp answered
      exact registered

theorem IsRegistered.ask (registered : session.IsRegistered known) {request : Request}
    (own : request.IsOwn known) (answered : session.answer request = .ok (answer, after)) :
    after.IsRegistered (session.identifiedBy request ++ known) := by
  by_cases about : ∃ reports, request = .report reports
  · obtain ⟨reports, rfl⟩ := about
    exact registered.askReport own answered
  · have other : ∀ reports, request ≠ .report reports := fun reports same => about ⟨reports, same⟩
    have nothing : session.identifiedBy request = [] := by
      cases request with
      | report reports => exact absurd rfl (other reports)
      | policy | source | imports | symbol | tree => rfl
    have same := reportState_of_answer answered other
    have ledger : after.compilation.ledger = session.compilation.ledger :=
      congrArg (fun state => state.1.ledger) same
    have saved : after.savedReports = session.savedReports := congrArg Prod.snd same
    rw [nothing, List.nil_append, IsRegistered, ledger, saved]
    exact registered

/-! ## Calls -/

/-- Accepting a report under its own id marks it as written, and its report goes where it goes
unchanged. -/
theorem IsRegistered.accept (registered : session.IsRegistered known) {id : ReportId}
    {report : Report} (carries : report.id = some id) (available : report.Available known)
    {handling : OnError} {admission : Admission}
    (accepted : session.accept id report handling = (admission, after)) :
    after.IsRegistered known ∧ admission.report? = some report := by
  have about := session.report?_accept id report handling
  have left : (session.accept id report handling).2.IsRegistered known :=
    Registered.noteWritten registered (registered.number_lt_of_available available carries)
  rw [accepted] at about left
  exact ⟨left, about⟩

/-- A call adds at most its own report to what is identified. What goes on to the hook was had from
the session, and carries an id. -/
theorem IsRegistered.receive (registered : session.IsRegistered known) {call : Call}
    (own : call.IsOwn known) {admission : Admission}
    (received : session.receive call = .ok (admission, after)) :
    after.IsRegistered (session.identifiedIn call ++ known) ∧
      ∀ report ∈ admission.report?, report.id ≠ none ∧
        report.Available (session.identifiedIn call ++ known) := by
  cases call with
  | report report handling =>
      simp only [Session.receive, bind_eq_ok] at received
      obtain ⟨-, -, _, given, received⟩ := received
      obtain ⟨enough, rfl⟩ := Ledger.identify_eq_ok.mp given
      obtain ⟨identified, available⟩ := Registered.identify registered own enough
      have numbered :
          (session.setLedger (session.compilation.ledger.identified report).2.2).IsRegistered
            (session.compilation.ledger.identification report ++ known) := identified
      have carries := session.compilation.ledger.identified_report_id report
      split at received
      · obtain ⟨left, about⟩ := numbered.accept carries available (pure_eq_ok.mp received)
        refine ⟨left, ?_⟩
        rintro other same
        rw [about] at same
        cases same
        exact ⟨by simp, available⟩
      · cases pure_eq_ok.mp received
        exact ⟨identified, by rintro other ⟨⟩⟩
  | replay id handling =>
      simp only [Session.receive] at received
      split at received
      · split at received
        · exact absurd received throw_ne_ok
        · rename_i report kept
          obtain ⟨-, -, received⟩ := bind_eq_ok.mp received
          obtain ⟨carries, available⟩ := registered.postponed kept
          obtain ⟨left, about⟩ := registered.accept carries available (pure_eq_ok.mp received)
          refine ⟨left, ?_⟩
          rintro other same
          rw [about] at same
          cases same
          exact ⟨by simp [carries], available⟩
      · cases pure_eq_ok.mp received
        exact ⟨registered, by rintro other ⟨⟩⟩

end Session

/-! ## Chronicles -/

theorem Chronicle.registered {tree : FileTree} {manualUrl : String} {hook : Option Hook}
    {log : List Event} {known : List Identification} {now : Moment}
    (chronicle : Chronicle (.initial tree manualUrl hook) log known now) :
    now.session.IsRegistered known := by
  induction chronicle with
  | refl =>
      refine ⟨Nat.zero_le _, rfl, ?_, ?_, ?_, ?_⟩
      · rintro identification ⟨⟩
      · rintro id ⟨⟩
      · rintro id report ⟨⟩
      · rintro name report ⟨⟩
  | ask _ move own ih =>
      cases move with
      | ask answered => exact ih.ask own answered
  | call _ move received own ih => exact (ih.receive own received).1
  | other _ move keeps ih =>
      cases move with
      | ask | pass | hand => exact keeps.elim
      | install | collect | deliver | resume => exact ih
      | enter => exact Registered.of_eq ih rfl rfl rfl
      | leave activities frame closed =>
          obtain ⟨-, rfl⟩ := Ledger.closeFrame_eq_ok.mp closed
          exact Registered.of_eq ih rfl rfl rfl
      | settle session activities pending directive =>
          have same := session.compilation.settle_ledger pending.severity directive pending.handling
          exact Registered.of_eq ih (congrArg Ledger.nextNumber same)
            (congrArg Ledger.written same) (congrArg Ledger.postponed same)

/-- At every moment of a session, however hooks and instantiations are nested, the ids that were
handed out are consecutive numbers below the limit, each greater than those before it. All ids that
are written, under which a report is kept, or that a report from the session carries, are among them,
and a report is kept under its own id. So a report without an id gets one that is new, as long as
there is one, and the call goes on to decide whether the report is shown. -/
theorem ids_are_handed_out_once {tree : FileTree} {manualUrl : String} {hook : Option Hook}
    {log : List Event} {known : List Identification} {now : Moment}
    (chronicle : Chronicle (.initial tree manualUrl hook) log known now) :
    let compilation := now.session.compilation
    let ledger := compilation.ledger
    (known.reverse.map (·.id.number) = List.range ledger.nextNumber ∧
      ledger.nextNumber ≤ Ledger.idLimit ∧
      known.Pairwise fun later earlier => earlier.id.number < later.id.number) ∧
    (∀ id ∈ ledger.written, id.number < ledger.nextNumber) ∧
    (∀ id report, ledger.postponed? id = some report →
      id.number < ledger.nextNumber ∧ report.id = some id) ∧
    (∀ (report : Report) (id : ReportId), report.Available known → report.id = some id →
      id.number < ledger.nextNumber) ∧
    ∀ (report : Report) (handling : OnError), report.id = none → report.kind ≠ .unset →
      let id := (ledger.identified report).1
      let identified := (ledger.identified report).2.1
      (∀ identification ∈ known, identification.id ≠ id) ∧ id ∉ ledger.written ∧
        ledger.postponed? id = none ∧
        (ledger.nextNumber < Ledger.idLimit →
          now.session.receive (.report report handling) =
            .ok (if compilation.shows identified
                then .shown ⟨identified, compilation.severity identified, handling⟩
                else .suppressed identified,
              now.session.received (.report report handling) id)) ∧
        (ledger.nextNumber = Ledger.idLimit →
          now.session.receive (.report report handling) = .error .idsExhausted) := by
  intro compilation ledger
  have registered : Registered known ledger now.session.savedReports := chronicle.registered
  have kept : ∀ id report, ledger.postponed? id = some report →
      id.number < ledger.nextNumber ∧ report.id = some id := by
    rintro id report found
    obtain ⟨carries, available⟩ := registered.postponed found
    exact ⟨registered.number_lt_of_available available carries, carries⟩
  refine ⟨⟨?_, registered.limit, ?_⟩, registered.written, kept, ?_, ?_⟩
  · rw [List.map_reverse, registered.numbers, List.reverse_reverse]
  · have decreasing : (known.map (·.id.number)).Pairwise (fun later earlier => earlier < later) := by
      rw [registered.numbers, List.pairwise_reverse]
      exact List.pairwise_lt_range
    exact List.pairwise_map.mp decreasing
  · rintro report id available carries
    exact registered.number_lt_of_available available carries
  · rintro report handling new kind id identified
    have number : id.number = ledger.nextNumber := by
      simp only [id, Ledger.identified, new]
    have notWritten : id ∉ ledger.written := by
      rintro written
      have less := registered.written id written
      omega
    refine ⟨?_, notWritten, ?_, ?_, ?_⟩
    · rintro identification member same
      have less := registered.number_lt member
      rw [same] at less
      omega
    · rw [Option.eq_none_iff_forall_ne_some]
      rintro other found
      have less := (kept id other found).1
      omega
    · rintro below
      have given : ledger.identify report = .ok (ledger.identified report) :=
        Ledger.identify_eq_ok.mpr ⟨(Ledger.hasIdFor_of_new new).mpr below, rfl⟩
      have subject : now.session.subject? (.report report handling) = some (id, identified) :=
        Session.subject?_report_eq_some.mpr ⟨given, rfl, rfl⟩
      have hasKind : identified.kind ≠ .unset := by
        rw [Ledger.identified_report_kind]
        exact kind
      have unwritten : ledger.isUnwritten id = true := by
        simpa [Ledger.isUnwritten] using notWritten
      exact Session.receive_of_unwritten subject hasKind unwritten
    · rintro full
      exact Session.receive_of_exhausted new kind (Nat.le_of_eq full.symm) handling

/-- While the hook has the first error it postpones another one, which gets the next id. A third error
gets the id after that, and goes to the hook as well. -/
theorem ids_are_handed_out_once_nested :
    let hook : Hook := .mk [] .default
    let mismatch := Report.error .typeMismatch .unknown "expected int"
    let undeclared := Report.error .undeclaredIdentifier .unknown "what is x"
    let outer : Pending := ⟨{ mismatch with id := some ⟨0⟩ }, .error, .nothing⟩
    let third : Pending := ⟨{ mismatch with id := some ⟨2⟩ }, .error, .nothing⟩
    let log : List Event :=
      [.asked (.report (.postpone (.made undeclared))), .received (.shown outer)]
    ∃ known now, Chronicle (.initial (.ofWorkdir []) "" (some hook)) log known now ∧
      now.activities = [.dispatched outer] ∧
      known.reverse.map (·.id.number) = [0, 1] ∧
      ∃ after, now.session.receive (.report mismatch .nothing) = .ok (.shown third, after) := by
  intro hook mismatch undeclared outer third log
  let start := Session.initial (.ofWorkdir []) "" (some hook)
  have ran : ∃ found, start.receive (.report mismatch .nothing) = .ok (.shown outer, found) ∧
      found.hook = some hook ∧
      ∃ after, found.answer (.report (.postpone (.made undeclared))) = .ok (.id ⟨1⟩, after) ∧
        after.compilation.ledger.nextNumber = 2 ∧
        (after.compilation.ledger.identified mismatch).2.1 = third.report ∧
        after.compilation.shows third.report = true ∧
        after.compilation.severity third.report = .error :=
    ⟨_, rfl, rfl, _, rfl, rfl, rfl, rfl, rfl⟩
  obtain ⟨found, received, installed, after, answered, number, next, shown, severity⟩ := ran
  have handed : Chronicle (.initial (.ofWorkdir []) "" (some hook)) [.received (.shown outer)] _
      ⟨found, [.dispatched outer]⟩ :=
    .call .refl (.hand received installed) received (.fresh ..)
  have chronicle : Chronicle (.initial (.ofWorkdir []) "" (some hook)) log _
      ⟨after, [.dispatched outer]⟩ :=
    .ask handed (.ask answered) (.fresh ..)
  obtain ⟨⟨numbers, -⟩, -, -, -, further⟩ := ids_are_handed_out_once chronicle
  obtain ⟨-, -, -, reaches, -⟩ := further mismatch .nothing rfl (by decide)
  have below : after.compilation.ledger.nextNumber < Ledger.idLimit := by
    rw [number]
    decide
  have reaches := reaches below
  have handedOut : (List.range after.compilation.ledger.nextNumber) = [0, 1] := by
    rw [number]
    rfl
  rw [next, shown, severity] at reaches
  exact ⟨_, _, chronicle, rfl, numbers.trans handedOut, _, reaches⟩

end Frontend
