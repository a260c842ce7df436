import Frontend.Proofs.Session.Identity

/-!
# Trails are taken with the id

What is open when a report gets its id becomes its trail, and is what its trail says from then on. A
report may be kept and replayed while other instantiations are open, by a hook that is with another
report, or as a copy about another symbol. So the trail of what reaches the hook is tied to a moment
that may be long past: the one at which the number of its id was used up.
-/

namespace Frontend

/-! ## The moment of an id -/

/-- On the way to this moment a move used up the number of the id, while just these instantiations
were open, outermost first. -/
def HandedOut (start : Moment) (log : List Event) (now : Moment) (id : ReportId)
    (context : List Frame) : Prop :=
  ∃ earlier before event after later, log = later ++ event :: earlier ∧
    Course start earlier before ∧ Move before event after ∧ Course after later now ∧
    before.ledger.nextNumber = id.number ∧ after.ledger.nextNumber = id.number + 1 ∧
    before.ledger.context = context

variable {start now next : Moment} {log : List Event} {event : Event} {id : ReportId}
  {context : List Frame}

/-- What was handed out on the way to a moment was handed out on the way to the next one. -/
theorem HandedOut.move (handedOut : HandedOut start log now id context)
    (move : Move now event next) : HandedOut start (event :: log) next id context := by
  obtain ⟨earlier, before, handing, after, later, rfl, first, moves, rest, number⟩ := handedOut
  exact ⟨earlier, before, handing, after, event :: later, rfl, first, moves, .move rest move, number⟩

/-- A move that identifies one report uses up its number. -/
theorem HandedOut.of_identification {known : List Identification} {identification : Identification}
    (course : Course start log now) (move : Move now event next)
    (registered : now.session.IsRegistered known)
    (further : next.session.IsRegistered (identification :: known))
    (wasOpen : identification.context = now.ledger.context) :
    HandedOut start (event :: log) next identification.id identification.context := by
  have older : known.map (·.id.number) = (List.range now.ledger.nextNumber).reverse :=
    registered.numbers
  have numbers : (identification :: known).map (·.id.number) =
      (List.range next.ledger.nextNumber).reverse := further.numbers
  have before : known.length = now.ledger.nextNumber := by
    simpa using congrArg List.length older
  have after : known.length + 1 = next.ledger.nextNumber := by
    simpa using congrArg List.length numbers
  have number : identification.id.number = known.length := by
    rw [← after, List.range_succ, List.reverse_append] at numbers
    exact (List.cons.inj numbers).1
  exact ⟨log, now, event, next, [], rfl, course, move, .refl, before.symm.trans number.symm,
    by rw [number, after], wasOpen.symm⟩

/-! ## What is identified in a move -/

theorem Ledger.identification_eq_singleton {ledger : Ledger} {report : Report}
    {identification : Identification} (member : identification ∈ ledger.identification report) :
    ledger.identification report = [identification] ∧ identification.context = ledger.context := by
  cases carries : report.id with
  | some id => simp [Ledger.identification, carries] at member
  | none =>
      simp only [Ledger.identification, carries, List.mem_singleton] at member ⊢
      exact ⟨by rw [member], by rw [member]⟩

namespace Session

variable {session after : Session}

theorem identifiedBy_eq_singleton {request : Request} {identification : Identification}
    (member : identification ∈ session.identifiedBy request) :
    session.identifiedBy request = [identification] ∧
      identification.context = session.compilation.ledger.context := by
  unfold identifiedBy at member ⊢
  split at member
  · split at member
    · exact Ledger.identification_eq_singleton member
    · cases member
  · split at member
    · exact Ledger.identification_eq_singleton member
    · cases member
  · cases member

theorem identifiedIn_eq_singleton {call : Call} {identification : Identification}
    (member : identification ∈ session.identifiedIn call) :
    session.identifiedIn call = [identification] ∧
      identification.context = session.compilation.ledger.context := by
  cases call with
  | report report handling => exact Ledger.identification_eq_singleton member
  | replay id handling => cases member

/-- What is shown or suppressed is the report of the call, as it is identified. -/
theorem subject_of_receive {call : Call} {admission : Admission}
    (received : session.receive call = .ok (admission, after)) {report : Report}
    (about : admission.report? = some report) :
    ∃ id, session.subject? call = some (id, report) := by
  have accepted : ∀ {session : Session} {id given handling},
      session.accept id given handling = (admission, after) → given = report := by
    rintro session id given handling accepted
    have own := session.report?_accept id given handling
    rw [accepted, about] at own
    exact (Option.some.inj own).symm
  cases call with
  | report given handling =>
      simp only [receive, Fault.bind_eq_ok] at received
      obtain ⟨-, -, ⟨id, identified, ledger⟩, given, received⟩ := received
      split at received
      · obtain rfl := accepted (Fault.pure_eq_ok.mp received)
        exact ⟨_, by rw [subject?, given]⟩
      · cases Fault.pure_eq_ok.mp received
        cases about
  | replay id handling =>
      simp only [receive] at received
      split at received
      · split at received
        · exact absurd received Fault.throw_ne_ok
        · rename_i kept found
          obtain ⟨-, -, received⟩ := Fault.bind_eq_ok.mp received
          obtain rfl := accepted (Fault.pure_eq_ok.mp received)
          exact ⟨id, by rw [subject?, found]; rfl⟩
      · cases Fault.pure_eq_ok.mp received
        cases about

end Session

/-! ## Along a chronicle -/

namespace Chronicle

variable {tree : FileTree} {manualUrl : String} {hook : Option Hook}
  {known : List Identification} {report : Report}

/-- All that is identified in a chronicle got its id on the way, and its context is what was open
then. -/
theorem handedOut (chronicle : Chronicle (.initial tree manualUrl hook) log known now) :
    ∀ identification ∈ known, HandedOut (.initial tree manualUrl hook) log now identification.id
      identification.context := by
  induction chronicle with
  | refl => rintro identification ⟨⟩
  | ask earlier move own ih =>
      have further := (Chronicle.ask earlier move own).registered
      rintro identification member
      rcases List.mem_append.mp member with new | old
      · obtain ⟨one, context⟩ := Session.identifiedBy_eq_singleton new
        rw [one] at further
        exact .of_identification earlier.course move earlier.registered further context
      · exact (ih identification old).move move
  | call earlier move received own ih =>
      have further := (Chronicle.call earlier move received own).registered
      rintro identification member
      rcases List.mem_append.mp member with new | old
      · obtain ⟨one, context⟩ := Session.identifiedIn_eq_singleton new
        rw [one] at further
        exact .of_identification earlier.course move earlier.registered further context
      · exact (ih identification old).move move
  | other _ move _ ih =>
      rintro identification member
      exact (ih identification member).move move

/-- The trail of a report with an id is what was open when the id was handed out. -/
theorem handedOut_of_available (chronicle : Chronicle (.initial tree manualUrl hook) log known now)
    (available : report.Available known) (carries : report.id = some id) :
    HandedOut (.initial tree manualUrl hook) log now id report.trail := by
  obtain ⟨identification, member, rfl, trail⟩ :=
    chronicle.registered.exists_of_available available carries
  rw [trail]
  exact chronicle.handedOut identification member

/-- Whatever was handed to the hook was had from the session, and carries an id. -/
theorem available_of_shown (chronicle : Chronicle (.initial tree manualUrl hook) log known now)
    {pending : Pending} (handed : .received (.shown pending) ∈ log) :
    pending.report.id ≠ none ∧ pending.report.Available known := by
  induction chronicle with
  | refl => cases handed
  | ask _ _ _ ih =>
      rcases List.mem_cons.mp handed with same | old
      · cases same
      · obtain ⟨carries, available⟩ := ih old
        exact ⟨carries, available.mono (List.subset_append_right ..)⟩
  | call earlier _ received own ih =>
      rcases List.mem_cons.mp handed with same | old
      · cases same
        exact (earlier.registered.receive own received).2 pending.report rfl
      · obtain ⟨carries, available⟩ := ih old
        exact ⟨carries, available.mono (List.subset_append_right ..)⟩
  | other _ _ keeps ih =>
      rcases List.mem_cons.mp handed with same | old
      · rw [← same] at keeps
        exact keeps.elim
      · exact ih old

/-- Reports from the session that carry the same id have the same trail. -/
theorem trail_eq (chronicle : Chronicle (.initial tree manualUrl hook) log known now)
    (available : report.Available known) {other : Report} (alike : other.Available known)
    (same : report.id = other.id) : report.trail = other.trail := by
  have registered : now.session.IsRegistered known := chronicle.registered
  cases carries : report.id with
  | none =>
      rw [carries] at same
      rw [registered.trail_of_new available carries, registered.trail_of_new alike same.symm]
  | some id =>
      rw [carries] at same
      obtain ⟨first, member, number, trail⟩ := registered.exists_of_available available carries
      obtain ⟨second, kept, again, likewise⟩ := registered.exists_of_available alike same.symm
      rw [trail, likewise, registered.eq_of_id member kept (number.trans again.symm)]

end Chronicle

/-! ## Reports that have an id -/

/-- Postponing a report that has an id leaves it as it is. -/
theorem Ledger.postpone_of_id (ledger : Ledger) {report : Report} (carries : report.id = some id) :
    ledger.postpone report =
      .ok (id, { ledger with postponed := ledger.postponed.insert id report }) := by
  rw [postpone_eq_ok, identified_of_id carries]
  exact ⟨hasIdFor_of_id carries, rfl, rfl⟩

/-- At every moment of a session, however hooks and instantiations are nested, the trail of every
report from the session that has an id, and so of every report that was handed to the hook or is kept,
is what was open when the id was handed out. All reports with one id have the same trail, and nothing
that is done with a report that has an id gives it another one. -/
theorem trails_are_taken_with_the_id {tree : FileTree} {manualUrl : String} {hook : Option Hook}
    {log : List Event} {known : List Identification} {now : Moment}
    (chronicle : Chronicle (.initial tree manualUrl hook) log known now) :
    let handedOut := HandedOut (.initial tree manualUrl hook) log now
    (∀ pending, .received (.shown pending) ∈ log →
      pending.report.Available known ∧
        ∃ id, pending.report.id = some id ∧ handedOut id pending.report.trail) ∧
    (∀ id report, now.ledger.postponed? id = some report →
      report.Available known ∧ report.id = some id ∧ handedOut id report.trail) ∧
    (∀ (report : Report) (id : ReportId), report.Available known → report.id = some id →
      handedOut id report.trail) ∧
    (∀ report other : Report, report.Available known → other.Available known →
      report.id = other.id → report.trail = other.trail) ∧
    ∀ (report : Report) (id : ReportId), report.id = some id →
      now.ledger.identify report = .ok (id, report, now.ledger) ∧
      (∃ later, now.ledger.postpone report = .ok (id, later) ∧
        later.postponed? id = some report) ∧
      (∀ (handling : OnError) (admission : Admission) (after : Session),
        now.session.receive (.report report handling) = .ok (admission, after) →
          ∀ given ∈ admission.report?, given = report) ∧
      ∀ text, ((report.about text).id = some id ∧ (report.about text).trail = report.trail) ∧
        (report.raisedAt text).id = some id ∧ (report.raisedAt text).trail = report.trail := by
  intro handedOut
  refine ⟨?_, ?_, ?_, ?_, ?_⟩
  · rintro pending handed
    obtain ⟨carries, available⟩ := chronicle.available_of_shown handed
    obtain ⟨id, carries⟩ := Option.ne_none_iff_exists'.mp carries
    exact ⟨available, id, carries, chronicle.handedOut_of_available available carries⟩
  · rintro id report kept
    obtain ⟨carries, available⟩ := chronicle.registered.postponed kept
    exact ⟨available, carries, chronicle.handedOut_of_available available carries⟩
  · rintro report id available carries
    exact chronicle.handedOut_of_available available carries
  · rintro report other available alike same
    exact chronicle.trail_eq available alike same
  · rintro report id carries
    have identified := now.ledger.identify_of_id carries
    refine ⟨identified, ?_, ?_, ?_⟩
    · refine ⟨_, now.ledger.postpone_of_id carries, ?_⟩
      rw [Ledger.postponed?, Dictionary.find?_insert, if_pos rfl]
    · rintro handling admission after received given about
      obtain ⟨key, subject⟩ := Session.subject_of_receive received about
      obtain ⟨-, -, rfl⟩ := Session.subject?_report_eq_some.mp subject
      rw [Ledger.identified_of_id carries]
    · rintro text
      simp [carries]

/-- A report is postponed inside one instantiation, and replayed inside another one after the first
was closed. It reaches the hook with the trail of the first. -/
theorem trails_are_taken_with_the_id_replayed :
    let hook : Hook := .mk [] .default
    let undeclared := Report.error .undeclaredIdentifier .unknown "what is x"
    let first : Frame := ⟨.unknown, "map"⟩
    let second : Frame := ⟨.unknown, "filter"⟩
    let pending : Pending :=
      ⟨{ undeclared with id := some ⟨0⟩, trail := [first] }, .error, .nothing⟩
    let log : List Event :=
      [.received (.shown pending), .entered second, .left first,
        .asked (.report (.postpone (.made undeclared))), .entered first]
    ∃ known now, Chronicle (.initial (.ofWorkdir []) "" (some hook)) log known now ∧
      now.ledger.context = [second] ∧
      HandedOut (.initial (.ofWorkdir []) "" (some hook)) log now ⟨0⟩ [first] := by
  intro hook undeclared first second pending log
  let start := Session.initial (.ofWorkdir []) "" (some hook)
  have ran : ∃ postponed ledger found,
      (start.setLedger (start.compilation.ledger.openFrame first).2).answer
          (.report (.postpone (.made undeclared))) = .ok (.id ⟨0⟩, postponed) ∧
      postponed.compilation.ledger.closeFrame ⟨1⟩ = .ok ledger ∧
      ((postponed.setLedger ledger).setLedger (ledger.openFrame second).2).receive
          (.replay ⟨0⟩ .nothing) = .ok (.shown pending, found) ∧
      found.hook = some hook ∧ found.compilation.ledger.context = [second] :=
    ⟨_, _, _, rfl, rfl, rfl, rfl, rfl⟩
  obtain ⟨postponed, ledger, found, answered, closed, received, installed, context⟩ := ran
  have opened : Chronicle (.initial (.ofWorkdir []) "" (some hook)) [.entered first] []
      ⟨_, [.inside first ⟨1⟩]⟩ :=
    .other .refl (.enter start [] first) trivial
  have asked := opened.ask (.ask answered) (.fresh ..)
  have left := asked.other (.leave [] first closed) trivial
  have entered := left.other (.enter (postponed.setLedger ledger) [] second) trivial
  have chronicle := entered.call (.hand received installed) received trivial
  obtain ⟨handed, -⟩ := trails_are_taken_with_the_id chronicle
  obtain ⟨-, id, carries, handedOut⟩ := handed pending List.mem_cons_self
  cases carries
  exact ⟨_, _, chronicle, context, handedOut⟩

end Frontend
