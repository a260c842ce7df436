import Frontend.Note.Verbosity
import Frontend.Proofs.Note.Standing

/-!
# What the command line decides

A kind that was switched on or off on the command line keeps that state in the main package. The
invariant is a property of the standing of that one kind: the command line owns it, the main-package
set agrees with the decision, and so does the active set while the current module belongs to the
main package. Neither set can be dropped from it, since entering a module copies one into the other,
and a preset is adopted from either, as the module flag says.
-/

namespace Frontend

namespace Standing

/-- The command line owns the kind, and its decision is in force in the main package. -/
structure Decided (shown : Bool) (standing : Standing) : Prop where
  owned : standing.cmdlineModified = true
  main : standing.mainPackage = shown
  active : standing.inMain = true → standing.active = shown

/-- The change takes the kind neither out of the hands of the command line, nor is it another
decision of the command line. -/
def Change.LeavesDecision : Change → Prop
  | .assign axis shown => axis = .cmdlineModified → shown = true
  | .assignFromCommandLine axis _ => axis ≠ .active ∧ axis ≠ .mainPackage
  | .assignDefault _ | .adoptPreset _ | .replaceForeign _ | .enter _ | .elsewhere => True

theorem decided_assignFromCommandLine (standing : Standing) {axis : Axis}
    (decides : axis = .active ∨ axis = .mainPackage) (shown : Bool) :
    (standing.assignFromCommandLine axis shown).Decided shown := by
  rcases decides with rfl | rfl
  · exact ⟨rfl, rfl, fun _ => rfl⟩
  · exact ⟨rfl, rfl, fun _ => rfl⟩

variable {shown : Bool} {standing : Standing}

/-- What the command line owns is not written on the active and main-package axes. -/
theorem Decided.isOwned (decided : standing.Decided shown) {axis : Axis}
    (decides : axis = .active ∨ axis = .mainPackage) : standing.isOwned axis = true := by
  rcases decides with rfl | rfl
  · exact decided.owned
  · exact decided.owned

/-- An explicit write either is refused or concerns an axis that the decision does not. -/
theorem Decided.assign (decided : standing.Decided shown) {axis : Axis} {value : Bool}
    (leaves : axis = .cmdlineModified → value = true) :
    (standing.assign axis value).Decided shown := by
  by_cases decides : axis = .active ∨ axis = .mainPackage
  · rw [Standing.assign, if_pos (decided.isOwned decides)]
    exact decided
  · obtain ⟨owned, main, active⟩ := decided
    cases axis with
    | active => exact absurd (Or.inl rfl) decides
    | mainPackage => exact absurd (Or.inr rfl) decides
    | cmdlineModified => exact ⟨leaves rfl, main, active⟩
    | foreignPackage | warningsAsErrors | hintsAsErrors => exact ⟨owned, main, active⟩

theorem Decided.assignFromCommandLine (decided : standing.Decided shown) {axis : Axis}
    {value : Bool} (leaves : axis ≠ .active ∧ axis ≠ .mainPackage) :
    (standing.assignFromCommandLine axis value).Decided shown := by
  obtain ⟨owned, main, active⟩ := decided
  cases axis with
  | active => exact absurd rfl leaves.1
  | mainPackage => exact absurd rfl leaves.2
  | cmdlineModified | foreignPackage | warningsAsErrors | hintsAsErrors =>
      exact ⟨rfl, main, active⟩

theorem Decided.assignDefault (decided : standing.Decided shown) (value : Bool) :
    (standing.assignDefault value).Decided shown := by
  obtain ⟨owned, main, active⟩ := decided
  refine ⟨owned, ?_, ?_⟩
  · simpa [Standing.assignDefault, owned] using main
  · simpa [Standing.assignDefault, owned] using active

/-- Entering a module of the main package restores the decision from the main-package set. -/
theorem Decided.enter (decided : standing.Decided shown) (inMain : Bool) :
    (standing.enter inMain).Decided shown := by
  refine ⟨decided.owned, decided.main, ?_⟩
  rintro rfl
  exact decided.main

/-- A preset is adopted from whichever set holds the decision at that moment. -/
theorem Decided.adoptPreset (decided : standing.Decided shown) (member : Bool) :
    (standing.adoptPreset member).Decided shown := by
  apply Decided.enter
  have current : (if standing.inMain = true then standing.active else standing.mainPackage) =
      shown := by
    split
    · rename_i inMain
      exact decided.active inMain
    · exact decided.main
  constructor
  · exact decided.owned
  · simp [decided.owned, current]
  · intro inMain
    exact decided.active inMain

theorem Decided.apply {change : Change} (leaves : change.LeavesDecision)
    (decided : standing.Decided shown) : (standing.apply change).Decided shown := by
  cases change with
  | assign axis value => exact decided.assign leaves
  | assignFromCommandLine axis value => exact decided.assignFromCommandLine leaves
  | assignDefault value => exact decided.assignDefault value
  | adoptPreset member => exact decided.adoptPreset member
  | replaceForeign member => exact ⟨decided.owned, decided.main, decided.active⟩
  | enter inMain => exact decided.enter inMain
  | elsewhere => exact decided

end Standing

namespace NotePolicy

/-- The change does not take the kind out of the hands of the command line, and is not another
decision of the command line on it. -/
def Change.LeavesDecision (change : Change) (kind : NoteKind) : Prop :=
  match change with
  | .assign axis other shown => axis = .cmdlineModified → other = kind → shown = true
  | .assignFromCommandLine axis other _ => other = kind → axis ≠ .active ∧ axis ≠ .mainPackage
  | .assignDefault _ _ | .adoptPreset _ | .replaceForeign _ | .enter _ => True

theorem Change.LeavesDecision.on {change : Change} {kind : NoteKind}
    (leaves : change.LeavesDecision kind) : (change.on kind).LeavesDecision := by
  cases change with
  | assign axis other shown =>
      by_cases same : other = kind
      · simpa [Change.on, same, Standing.Change.LeavesDecision] using fun special =>
          leaves special same
      · simp [Change.on, same, Standing.Change.LeavesDecision]
  | assignFromCommandLine axis other shown =>
      by_cases same : other = kind
      · simpa [Change.on, same, Standing.Change.LeavesDecision] using leaves same
      · simp [Change.on, same, Standing.Change.LeavesDecision]
  | assignDefault other shown =>
      rw [Change.on]
      split <;> trivial
  | adoptPreset | replaceForeign | enter => trivial

/-- What the command line switched on or off stays so. After any run of changes that leaves the
decision alone, the main-package set agrees with it, the active set agrees with it in every module
of the main package, and explicit writes of the kind on these two axes are refused and change
nothing. -/
theorem cmdline_decision_stays (policy : NotePolicy) (kind : NoteKind) (shown : Bool)
    {axis : Axis} (decides : axis = .active ∨ axis = .mainPackage) {changes : List Change}
    (leave : ∀ change ∈ changes, change.LeavesDecision kind) :
    let later := (policy.assignFromCommandLine axis kind shown).applyAll changes
    later.mainPackage.contains kind = shown ∧
      (later.inMain = true → later.active.contains kind = shown) ∧
      ∀ target value, target = .active ∨ target = .mainPackage →
        later.assign target kind value = (false, later) := by
  intro later
  have decided : (later.standing kind).Decided shown := by
    apply standing_applyAll_induction Standing.Decided.apply
    · intro change member
      exact (leave change member).on
    · rw [standing_assignFromCommandLine, if_pos rfl]
      exact Standing.decided_assignFromCommandLine _ decides shown
  refine ⟨decided.main, decided.active, ?_⟩
  intro target value decidesTarget
  have owned : later.isOwned target kind = true := decided.isOwned decidesTarget
  rw [assign, if_pos owned]

/-- A warning switched off on the command line stays off through writes, a default, a noisier
preset and a visit to a foreign module. -/
theorem cmdline_decision_stays_deprecated :
    let changes : List Change :=
      [ .assign .active .deprecated true, .assignDefault .deprecated true,
        .assign .mainPackage .deprecated true, .enter false, .adoptPreset Verbosity.preset3,
        .assignFromCommandLine .warningsAsErrors .deprecated true, .enter true ]
    let start := NotePolicy.initial Verbosity.preset1 Verbosity.foreignPackage
    let later := (start.assignFromCommandLine .active .deprecated false).applyAll changes
    (∀ change ∈ changes, change.LeavesDecision .deprecated) ∧
      later.mainPackage.contains .deprecated = false ∧ later.inMain = true ∧
      later.active.contains .deprecated = false ∧
      later.assign .active .deprecated true = (false, later) := by
  intro changes start later
  have leave : ∀ change ∈ changes, change.LeavesDecision .deprecated := by
    simp [changes, Change.LeavesDecision]
  have stays := cmdline_decision_stays start .deprecated false (Or.inl rfl) leave
  have inMain : later.inMain = true := rfl
  exact ⟨leave, stays.1, inMain, stays.2.1 inMain, stays.2.2 .active true (Or.inl rfl)⟩

end NotePolicy

end Frontend
