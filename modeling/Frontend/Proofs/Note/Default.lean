import Frontend.Proofs.Note.CommandLine

/-!
# Defaults for a kind that the command line switched off

Switching a kind off on the command line takes it out of the active set, the main-package set and the
set of foreign packages. The command line owns it on the first two only. A later default is refused
there, but it still decides what foreign packages show, and entering a foreign module makes that set
the active one. So the kind stays off in the main package, and the last default given for it decides
about foreign modules.
-/

namespace Frontend

namespace Standing

/-- The command line switched the kind off, and nothing shows it in any package. -/
structure Silent (standing : Standing) : Prop where
  decided : standing.Decided false
  active : standing.active = false
  foreign : standing.foreignPackage = false

/-- A preset, a switch of modules, or a default that does not show the kind. -/
def Change.KeepsSilence : Change → Prop
  | .assignDefault shown => shown = false
  | .adoptPreset _ | .enter _ | .elsewhere => True
  | .assign _ _ | .assignFromCommandLine _ _ | .replaceForeign _ => False

theorem silent_assignFromCommandLine (standing : Standing) {axis : Axis}
    (decides : axis = .active ∨ axis = .mainPackage) :
    (standing.assignFromCommandLine axis false).Silent := by
  refine ⟨decided_assignFromCommandLine standing decides false, ?_, ?_⟩
  · rcases decides with rfl | rfl <;> rfl
  · rcases decides with rfl | rfl <;> rfl

variable {standing : Standing}

/-- Both sets that a module may show are without the kind. -/
theorem Silent.enter (silent : standing.Silent) (inMain : Bool) :
    (standing.enter inMain).Silent := by
  refine ⟨silent.decided.enter inMain, ?_, silent.foreign⟩
  cases inMain with
  | true => exact silent.decided.main
  | false => exact silent.foreign

theorem Silent.adoptPreset (silent : standing.Silent) (member : Bool) :
    (standing.adoptPreset member).Silent := by
  have main := (silent.decided.adoptPreset member).main
  apply Silent.enter
  exact ⟨⟨silent.decided.owned, main, fun _ => silent.active⟩, silent.active, silent.foreign⟩

theorem Silent.assignDefault (silent : standing.Silent) :
    (standing.assignDefault false).Silent := by
  refine ⟨silent.decided.assignDefault false, ?_, rfl⟩
  simp [Standing.assignDefault, silent.active]

theorem Silent.apply {change : Change} (keeps : change.KeepsSilence) (silent : standing.Silent) :
    (standing.apply change).Silent := by
  cases change with
  | assignDefault shown =>
      cases keeps
      exact silent.assignDefault
  | adoptPreset member => exact silent.adoptPreset member
  | enter inMain => exact silent.enter inMain
  | elsewhere => exact silent
  | assign | assignFromCommandLine | replaceForeign => exact keeps.elim

end Standing

namespace NotePolicy

/-- The change is a default, a preset or a switch of modules. -/
def Change.IsRoutine : Change → Prop
  | .assignDefault _ _ | .adoptPreset _ | .enter _ => True
  | .assign _ _ _ | .assignFromCommandLine _ _ _ | .replaceForeign _ => False

/-- The last default for a kind once the change is made, when it was `last` before. -/
def Change.defaultAfter (change : Change) (kind : NoteKind) (last : Bool) : Bool :=
  match change with
  | .assignDefault other shown => if other = kind then shown else last
  | _ => last

/-- The last default for a kind in a run of changes; off when there is none. -/
def lastDefault (kind : NoteKind) (changes : List Change) : Bool :=
  changes.foldl (fun last change => change.defaultAfter kind last) false

variable {kind : NoteKind} {changes : List Change}

theorem Change.IsRoutine.leavesDecision {change : Change} (routine : change.IsRoutine) :
    change.LeavesDecision kind := by
  cases change with
  | assignDefault | adoptPreset | enter => trivial
  | assign | assignFromCommandLine | replaceForeign => exact routine.elim

theorem Change.IsRoutine.keepsSilence {change : Change} (routine : change.IsRoutine)
    (quiet : change ≠ .assignDefault kind true) : (change.on kind).KeepsSilence := by
  cases change with
  | assignDefault other shown =>
      by_cases same : other = kind
      · subst other
        cases shown with
        | true => exact absurd rfl quiet
        | false => simp [Change.on, Standing.Change.KeepsSilence]
      · simp [Change.on, same, Standing.Change.KeepsSilence]
  | adoptPreset | enter => trivial
  | assign | assignFromCommandLine | replaceForeign => exact routine.elim

/-- Of all routine changes only a default for the kind decides what foreign packages show of it. -/
theorem foreignPackage_apply_of_routine (policy : NotePolicy) {change : Change}
    (routine : change.IsRoutine) :
    (policy.apply change).foreignPackage.contains kind =
      change.defaultAfter kind (policy.foreignPackage.contains kind) := by
  have step := congrArg Standing.foreignPackage (standing_apply policy change kind)
  cases change with
  | assignDefault other shown =>
      by_cases same : other = kind
      · rw [Change.on, if_pos same] at step
        rw [Change.defaultAfter, if_pos same]
        exact step
      · rw [Change.on, if_neg same] at step
        rw [Change.defaultAfter, if_neg same]
        exact step
  | adoptPreset | enter => exact step
  | assign | assignFromCommandLine | replaceForeign => exact routine.elim

theorem foreignPackage_applyAll_of_routine (policy : NotePolicy)
    (routine : ∀ change ∈ changes, change.IsRoutine) :
    (policy.applyAll changes).foreignPackage.contains kind =
      changes.foldl (fun last change => change.defaultAfter kind last)
        (policy.foreignPackage.contains kind) := by
  induction changes generalizing policy with
  | nil => rfl
  | cons change changes ih =>
      rw [applyAll_cons, ih _ fun later member => routine later (List.mem_cons_of_mem _ member),
        foreignPackage_apply_of_routine policy (routine change List.mem_cons_self)]
      rfl

/-- Whatever defaults, presets and switches of modules follow, a kind that the command line switched
off stays out of the main-package set, and out of the active set in the main package. A foreign
module shows it only after a default that does, and as the last default says when it is entered. -/
theorem off_in_main_package_under_defaults (policy : NotePolicy) (kind : NoteKind) {axis : Axis}
    (decides : axis = .active ∨ axis = .mainPackage) {changes : List Change}
    (routine : ∀ change ∈ changes, change.IsRoutine) :
    let later := (policy.assignFromCommandLine axis kind false).applyAll changes
    later.mainPackage.contains kind = false ∧
      (later.active.contains kind = true →
        later.inMain = false ∧ Change.assignDefault kind true ∈ changes) ∧
      (later.enter false).active.contains kind = lastDefault kind changes := by
  intro later
  have silent : ((policy.assignFromCommandLine axis kind false).standing kind).Silent := by
    rw [standing_assignFromCommandLine, if_pos rfl]
    exact Standing.silent_assignFromCommandLine _ decides
  have decided : (later.standing kind).Decided false := by
    apply standing_applyAll_induction Standing.Decided.apply
    · intro change member
      exact (routine change member).leavesDecision.on
    · exact silent.decided
  refine ⟨decided.main, ?_, ?_⟩
  · intro shown
    constructor
    · rw [Bool.eq_false_iff]
      intro inMain
      exact absurd ((decided.active inMain).symm.trans shown) Bool.false_ne_true
    · apply Decidable.byContradiction
      intro absent
      have stillSilent : (later.standing kind).Silent := by
        apply standing_applyAll_induction Standing.Silent.apply
        · intro change member
          apply (routine change member).keepsSilence
          rintro rfl
          exact absent member
        · exact silent
      exact absurd (stillSilent.active.symm.trans shown) Bool.false_ne_true
  · have start : (policy.assignFromCommandLine axis kind false).foreignPackage.contains kind =
        false := silent.foreign
    exact (foreignPackage_applyAll_of_routine _ routine).trans (by rw [start]; rfl)

/-- A default shows the warning to foreign packages and a noisier preset leaves it out of the main
package; the next default silences it again. -/
theorem off_in_main_package_under_defaults_deprecated :
    let changes : List Change :=
      [ .assignDefault .deprecated true, .enter false, .adoptPreset Verbosity.preset3,
        .assignDefault .deprecated false ]
    let start := NotePolicy.initial Verbosity.preset1 Verbosity.foreignPackage
    let later := (start.assignFromCommandLine .active .deprecated false).applyAll changes
    (∀ change ∈ changes, change.IsRoutine) ∧ later.mainPackage.contains .deprecated = false ∧
      later.active.contains .deprecated = true ∧ later.inMain = false ∧
      (later.enter false).active.contains .deprecated = false := by
  intro changes start later
  have routine : ∀ change ∈ changes, change.IsRoutine := by
    simp [changes, Change.IsRoutine]
  have off := off_in_main_package_under_defaults start .deprecated (Or.inl rfl) routine
  have shown : later.active.contains .deprecated = true := by decide
  exact ⟨routine, off.1, shown, (off.2.1 shown).1, off.2.2⟩

/-- The command line does not keep a kind out of foreign modules: a default for it makes it active
in the next one. -/
theorem default_shows_kind_in_foreign_module :
    let changes : List Change := [.assignDefault .deprecated true, .enter false]
    let start := NotePolicy.initial Verbosity.preset1 Verbosity.foreignPackage
    (∀ change ∈ changes, change.IsRoutine) ∧
      ((start.assignFromCommandLine .active .deprecated false).applyAll
        changes).active.contains .deprecated = true := by
  refine ⟨?_, by decide⟩
  simp [Change.IsRoutine]

end NotePolicy

end Frontend
