import Frontend.Note.Verbosity
import Frontend.Proofs.Note.Mirror

/-!
# What a change of preset keeps

A modified kind has two memberships that a preset could keep, in the active set and in the
main-package set. While the main package is processed the active set is the one in force: its
membership is kept, the main-package set follows it, and the active set is then read back from there.
Otherwise the active set shows foreign notes, and the main-package set keeps its own membership. That
way a choice made on the active set alone becomes one of the main package; nothing is promised about
a choice made on the main-package set alone, which the active set may contradict.
-/

namespace Frontend

namespace Standing

variable {standing : Standing}

/-- The kind was set explicitly or on the command line. -/
def isModified (standing : Standing) : Bool :=
  standing.cmdlineModified || standing.explicit

/-- A modified kind keeps the membership in force, and a preset decides about every other. -/
theorem mainPackage_adoptPreset (standing : Standing) (member : Bool) :
    (standing.adoptPreset member).mainPackage =
      if standing.isModified then
        if standing.inMain then standing.active else standing.mainPackage
      else member :=
  rfl

/-- The active set is selected anew under a preset. -/
theorem active_adoptPreset (standing : Standing) (member : Bool) :
    (standing.adoptPreset member).active =
      if standing.inMain then (standing.adoptPreset member).mainPackage
      else standing.foreignPackage :=
  rfl

/-- A preset decides about a kind that was not modified. -/
theorem mainPackage_adoptPreset_of_unmodified (unmodified : standing.isModified = false)
    (member : Bool) : (standing.adoptPreset member).mainPackage = member := by
  have keepsNone : ¬(standing.cmdlineModified || standing.explicit) = true :=
    Bool.eq_false_iff.mp unmodified
  simp only [adoptPreset, enter, if_neg keepsNone]

/-- A modified kind keeps the membership in force. -/
theorem mainPackage_adoptPreset_of_modified (modified : standing.isModified = true)
    (member : Bool) :
    (standing.adoptPreset member).mainPackage =
      if standing.inMain then standing.active else standing.mainPackage := by
  have keeps : (standing.cmdlineModified || standing.explicit) = true := modified
  simp only [adoptPreset, enter, if_pos keeps]

theorem active_adoptPreset_of_modified (modified : standing.isModified = true)
    (inMain : standing.inMain = true) (member : Bool) :
    (standing.adoptPreset member).active = standing.active := by
  rw [active_adoptPreset, if_pos inMain, mainPackage_adoptPreset_of_modified modified, if_pos inMain]

end Standing

namespace NotePolicy

variable {kind : NoteKind}

theorem contains_modified (policy : NotePolicy) :
    policy.modified.contains kind = (policy.standing kind).isModified :=
  Selection.contains_union policy.cmdlineModified policy.explicit kind

/-- What a change of preset does to each kind, after any run of changes. A modified kind keeps its
active membership in the main package. Its main-package membership stays as well if the current
module is foreign or the two sets agree on the kind; they do when it was never written on one of them
alone. A kind that was never written on the main-package set alone is shown by that set, after a
change of preset in the main package, as it is by the active set. All other kinds follow the
preset. -/
theorem preset_keeps_choice_in_force (shown foreign : KindSet) (changes : List Change)
    (preset : KindSet) (kind : NoteKind) :
    let policy := (initial shown foreign).applyAll changes
    let later := policy.adoptPreset preset
    (policy.modified.contains kind = true →
      (policy.inMain = true → later.active.contains kind = policy.active.contains kind) ∧
      ((policy.inMain = true →
          policy.active.contains kind = policy.mainPackage.contains kind) →
        later.mainPackage.contains kind = policy.mainPackage.contains kind) ∧
      ((∀ change ∈ changes, change.WritesNeitherAlone kind) →
        later.mainPackage.contains kind = policy.mainPackage.contains kind) ∧
      ((∀ shown, .assign .mainPackage kind shown ∉ changes) → policy.inMain = true →
        later.mainPackage.contains kind = policy.active.contains kind)) ∧
    (policy.modified.contains kind = false →
      later.mainPackage.contains kind = preset.contains kind) := by
  intro policy later
  have after : later.standing kind = (policy.standing kind).adoptPreset (preset.contains kind) :=
    standing_adoptPreset policy kind preset
  rw [contains_modified]
  constructor
  · intro modified
    have inForce : later.mainPackage.contains kind =
        if policy.inMain then policy.active.contains kind else policy.mainPackage.contains kind := by
      have kept := Standing.mainPackage_adoptPreset_of_modified modified (preset.contains kind)
      rw [← after] at kept
      exact kept
    have stays : (policy.inMain = true →
          policy.active.contains kind = policy.mainPackage.contains kind) →
        later.mainPackage.contains kind = policy.mainPackage.contains kind := by
      intro agree
      rw [inForce]
      split
      · next inMain => exact agree inMain
      · rfl
    refine ⟨?_, stays, ?_, ?_⟩
    · intro inMain
      have kept := Standing.active_adoptPreset_of_modified modified inMain (preset.contains kind)
      rw [← after] at kept
      exact kept
    · intro both
      exact stays (mirrored_contains shown foreign both)
    · -- The equation also holds for kinds written on the main-package set alone, but a choice made
      -- there is not meant to be overruled.
      intro _ inMain
      rw [inForce, if_pos inMain]
  · intro unmodified
    have decided := Standing.mainPackage_adoptPreset_of_unmodified unmodified (preset.contains kind)
    rw [← after] at decided
    exact decided

/-- A kind that was made active alone, and so was no member of the main-package set, is one after a
change to a preset without it. -/
theorem preset_moves_active_choice_to_main_package :
    let policy :=
      (initial Verbosity.preset1 Verbosity.foreignPackage).applyAll [.assign .active .gcStats true]
    policy.modified.contains .gcStats = true ∧ policy.mainPackage.contains .gcStats = false ∧
      (policy.adoptPreset Verbosity.preset0).mainPackage.contains .gcStats = true := by
  decide

end NotePolicy

end Frontend
