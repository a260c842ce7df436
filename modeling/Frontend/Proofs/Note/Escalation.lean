import Frontend.Note.Verbosity
import Frontend.Proofs.Note.Comparison

/-!
# Kinds that count as errors

The sets of the kinds that count as errors decide nothing about what is shown. A write on one of
their axes does, however, mark its kind as modified or as owned by the command line, like any other
write, and later changes consult the marks. So writes of this sort that are added to a run can be
felt in their own kinds only, and there only through a change that finds a mark which the run would
not have made without them. In foreign packages they are never felt, because no mark is consulted for
those.
-/

namespace Frontend

namespace Standing

/-- The change is a write on an axis of errors, or concerns another kind. -/
def Change.IsEscalation : Change → Prop
  | .assign axis _ | .assignFromCommandLine axis _ =>
      axis = .warningsAsErrors ∨ axis = .hintsAsErrors
  | .elsewhere => True
  | .assignDefault _ | .adoptPreset _ | .replaceForeign _ | .enter _ => False

variable {left right : Standing}

/-- A write on an axis of errors leaves marks, but changes nothing of what is shown. -/
theorem Compare.escalate {Related : Bool → Bool → Prop} (compared : Compare Related left right)
    {change : Change} (escalation : change.IsEscalation) :
    Compare Related left (right.apply change) := by
  obtain ⟨active, main, foreign, inMain⟩ := compared
  cases change with
  | assign | assignFromCommandLine =>
      rcases escalation with rfl | rfl
      · exact ⟨active, main, foreign, inMain⟩
      · exact ⟨active, main, foreign, inMain⟩
  | elsewhere => exact ⟨active, main, foreign, inMain⟩
  | assignDefault | adoptPreset | replaceForeign | enter => exact escalation.elim

theorem foreignPackage_apply_of_isEscalation (standing : Standing) {change : Change}
    (escalation : change.IsEscalation) :
    (standing.apply change).foreignPackage = standing.foreignPackage := by
  have same : Compare Eq standing standing := Compare.refl (fun _ => rfl) standing
  exact (same.escalate escalation).foreignPackage.symm

theorem foreignPackage_assign (standing : Standing) (axis : Axis) (shown : Bool) :
    (standing.assign axis shown).foreignPackage =
      if axis = .foreignPackage then shown else standing.foreignPackage := by
  cases axis with
  | active | mainPackage =>
      rw [assign]
      split
      · rfl
      · rfl
  | foreignPackage | warningsAsErrors | hintsAsErrors | cmdlineModified => rfl

/-- What foreign packages show of a kind depends on no mark. -/
theorem foreignPackage_apply_eq (same : left.foreignPackage = right.foreignPackage)
    (change : Change) : (left.apply change).foreignPackage = (right.apply change).foreignPackage := by
  cases change with
  | assign axis shown =>
      rw [apply, apply, foreignPackage_assign, foreignPackage_assign, same]
  | assignFromCommandLine axis shown =>
      cases axis with
      | active | mainPackage => exact congrArg (shown && ·) same
      | foreignPackage => rfl
      | warningsAsErrors | hintsAsErrors | cmdlineModified => exact same
  | assignDefault | replaceForeign => rfl
  | adoptPreset | enter | elsewhere => exact same

end Standing

namespace NotePolicy

/-- The change is a write on an axis of errors, explicit or from the command line. -/
def Change.IsEscalation : Change → Prop
  | .assign axis _ _ | .assignFromCommandLine axis _ _ =>
      axis = .warningsAsErrors ∨ axis = .hintsAsErrors
  | .assignDefault _ _ | .adoptPreset _ | .replaceForeign _ | .enter _ => False

/-- A change of a run, or an escalation that was added to the run. -/
inductive Entry where
  | own (change : Change)
  | added (escalation : Change) (isEscalation : escalation.IsEscalation)

/-- What the entry does in the run with the additions. -/
def Entry.change : Entry → Change
  | .own change => change
  | .added escalation _ => escalation

/-- What the entry does in the run itself. -/
def Entry.own? : Entry → Option Change
  | .own change => some change
  | .added _ _ => none

/-- The run itself. -/
def plainRun (entries : List Entry) : List Change :=
  entries.filterMap Entry.own?

/-- The run with the additions. -/
def fullRun (entries : List Entry) : List Change :=
  entries.map Entry.change

/-- None of the additions is for the kind. -/
def AddsNothingFor (kind : NoteKind) (entries : List Entry) : Prop :=
  ∀ escalation isEscalation, Entry.added escalation isEscalation ∈ entries →
    escalation.on kind = .elsewhere

/-- Whenever a change of the run itself consults marks of the kind, it finds them the same in the run
with the additions, now at `full`, as in the run without them, now at `plain`. -/
def ConsultedAlike (kind : NoteKind) (plain full : NotePolicy) : List Entry → Prop
  | [] => True
  | .own change :: entries =>
      (change.on kind).ConsultsAlike (plain.standing kind) (full.standing kind) ∧
        ConsultedAlike kind (plain.apply change) (full.apply change) entries
  | .added escalation _ :: entries =>
      ConsultedAlike kind plain (full.apply escalation) entries

instance decidableConsultedAlike (kind : NoteKind) :
    (plain full : NotePolicy) → (entries : List Entry) →
      Decidable (ConsultedAlike kind plain full entries)
  | _, _, [] => .isTrue trivial
  | plain, full, .own change :: entries =>
      have := decidableConsultedAlike kind (plain.apply change) (full.apply change) entries
      inferInstanceAs (Decidable (_ ∧ _))
  | plain, full, .added escalation _ :: entries =>
      decidableConsultedAlike kind plain (full.apply escalation) entries

variable {kind : NoteKind} {plain full : NotePolicy} {entries : List Entry}

theorem Change.IsEscalation.on {change : Change} (escalation : change.IsEscalation) :
    (change.on kind).IsEscalation := by
  cases change with
  | assign | assignFromCommandLine =>
      rw [Change.on]
      split
      · exact escalation
      · trivial
  | assignDefault | adoptPreset | replaceForeign | enter => exact escalation.elim

/-- What each change of the run keeps between the two standings, and each addition as well, still
holds between them after the run. -/
theorem standing_fullRun_related (Related : Standing → Standing → Prop)
    (own : ∀ {left right} change, Related left right →
      Related (left.apply change) (right.apply change))
    (added : ∀ {left right} escalation isEscalation,
      Entry.added escalation isEscalation ∈ entries → Related left right →
        Related left (right.apply (escalation.on kind)))
    (related : Related (plain.standing kind) (full.standing kind)) :
    Related ((plain.applyAll (plainRun entries)).standing kind)
      ((full.applyAll (fullRun entries)).standing kind) := by
  induction entries generalizing plain full with
  | nil => exact related
  | cons entry entries ih =>
      have addedLater : ∀ {left right} escalation isEscalation,
          Entry.added escalation isEscalation ∈ entries → Related left right →
            Related left (right.apply (escalation.on kind)) := by
        intro left right escalation isEscalation member
        exact added escalation isEscalation (List.mem_cons_of_mem entry member)
      cases entry with
      | own change =>
          apply @ih (plain.apply change) (full.apply change) addedLater
          rw [standing_apply, standing_apply]
          exact own (change.on kind) related
      | added escalation isEscalation =>
          apply @ih plain (full.apply escalation) addedLater
          rw [standing_apply]
          exact added escalation isEscalation List.mem_cons_self related

/-- Additions never change what foreign packages show. -/
theorem foreignPackage_fullRun (policy : NotePolicy) (entries : List Entry) (kind : NoteKind) :
    (policy.applyAll (fullRun entries)).foreignPackage.contains kind =
      (policy.applyAll (plainRun entries)).foreignPackage.contains kind := by
  symm
  apply standing_fullRun_related fun left right => left.foreignPackage = right.foreignPackage
  · intro left right change same
    exact Standing.foreignPackage_apply_eq same change
  · intro left right escalation isEscalation _ same
    exact same.trans (Standing.foreignPackage_apply_of_isEscalation right isEscalation.on).symm
  · rfl

/-- Additions for other kinds leave a kind as it is. -/
theorem standing_fullRun_of_addsNothing (aside : AddsNothingFor kind entries)
    (policy : NotePolicy) :
    (policy.applyAll (plainRun entries)).standing kind =
      (policy.applyAll (fullRun entries)).standing kind := by
  apply standing_fullRun_related Eq
  · rintro left _ change rfl
    rfl
  · rintro left _ escalation isEscalation member rfl
    rw [aside escalation isEscalation member, Standing.apply]
  · rfl

/-- A run in which no mark is found that only the additions have made shows the same of the kind as
without them. -/
theorem compare_fullRun (consulted : ConsultedAlike kind plain full entries)
    (same : Standing.Compare Eq (plain.standing kind) (full.standing kind)) :
    Standing.Compare Eq ((plain.applyAll (plainRun entries)).standing kind)
      ((full.applyAll (fullRun entries)).standing kind) := by
  induction entries generalizing plain full with
  | nil => exact same
  | cons entry entries ih =>
      cases entry with
      | own change =>
          apply @ih (plain.apply change) (full.apply change) consulted.2
          rw [standing_apply, standing_apply]
          exact same.apply (fun _ => rfl) consulted.1
      | added escalation isEscalation =>
          apply @ih plain (full.apply escalation) consulted
          rw [standing_apply]
          exact same.escalate isEscalation.on

/-- What writes on the axes of errors can do to what is shown, when any number of them is added
anywhere to a run. They never change what foreign packages show. They change nothing in the active
and the main-package set about a kind for which none of them is, nor about a kind of their own as
long as no change of the run finds a mark of it that only they have made: a change of preset the mark
as modified, an explicit write of the kind or a default for it the mark as owned by the command
line. -/
theorem escalations_are_felt_through_marks (policy : NotePolicy) (entries : List Entry)
    (kind : NoteKind) :
    let plain := policy.applyAll (plainRun entries)
    let full := policy.applyAll (fullRun entries)
    full.foreignPackage.contains kind = plain.foreignPackage.contains kind ∧
      (AddsNothingFor kind entries ∨ ConsultedAlike kind policy policy entries →
        full.active.contains kind = plain.active.contains kind ∧
          full.mainPackage.contains kind = plain.mainPackage.contains kind) := by
  intro plain full
  constructor
  · exact policy.foreignPackage_fullRun entries kind
  · intro unfelt
    have same : Standing.Compare Eq (plain.standing kind) (full.standing kind) := by
      rcases unfelt with aside | consulted
      · rw [standing_fullRun_of_addsNothing aside]
        exact Standing.Compare.refl (fun _ => rfl) _
      · exact compare_fullRun consulted (Standing.Compare.refl (fun _ => rfl) _)
    exact ⟨same.active.symm, same.mainPackage.symm⟩

/-- A hint that was shown explicitly before stays through the quietest preset, whether or not it is
made an error in between. -/
theorem escalations_are_felt_through_marks_gcStats :
    let entries : List Entry :=
      [ .own (.assign .active .gcStats true), .own (.enter false),
        .added (.assign .hintsAsErrors .gcStats true) (Or.inr rfl),
        .added (.assignFromCommandLine .warningsAsErrors .deprecated true) (Or.inl rfl),
        .own (.adoptPreset Verbosity.preset0), .own (.enter true) ]
    let start := NotePolicy.initial Verbosity.preset1 Verbosity.foreignPackage
    ConsultedAlike .gcStats start start entries ∧
      (start.applyAll (fullRun entries)).active.contains .gcStats =
        (start.applyAll (plainRun entries)).active.contains .gcStats := by
  intro entries start
  have consulted : ConsultedAlike .gcStats start start entries := by decide
  exact ⟨consulted,
    ((start.escalations_are_felt_through_marks entries .gcStats).2 (Or.inr consulted)).1⟩

/-- A kind that was made an error counts as modified, and is left out of a preset that would show
it. -/
theorem escalation_keeps_kind_out_of_preset :
    let entries : List Entry :=
      [ .added (.assign .hintsAsErrors .gcStats true) (Or.inr rfl),
        .own (.adoptPreset Verbosity.preset3) ]
    let start := NotePolicy.initial Verbosity.preset1 Verbosity.foreignPackage
    (start.applyAll (plainRun entries)).active.contains .gcStats = true ∧
      (start.applyAll (fullRun entries)).active.contains .gcStats = false := by
  decide

end NotePolicy

end Frontend
