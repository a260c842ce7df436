import Frontend.Note.Verbosity
import Frontend.Proofs.Note.Standing

/-!
# Changes of preset and switches of modules

A change of preset decides about the kinds that were not modified, and the modified ones keep the
state in force; entering a module only chooses which set is the active one. What a change of preset
keeps is therefore the same whichever preset was adopted before and whichever modules were entered
since, and a run of such changes is remembered by its last preset and its last module alone.
-/

namespace Frontend.NotePolicy

/-- The change adopts a preset or enters a module. -/
def Change.IsSwitch : Change → Prop
  | .adoptPreset _ | .enter _ => True
  | .assign _ _ _ | .assignFromCommandLine _ _ _ | .assignDefault _ _ | .replaceForeign _ => False

/-- The preset last adopted once the change is made, when it was `last` before. -/
def Change.presetAfter (change : Change) (last : KindSet) : KindSet :=
  match change with
  | .adoptPreset preset => preset
  | _ => last

/-- Whether the module last entered belongs to the main package once the change is made. -/
def Change.moduleAfter (change : Change) (last : Bool) : Bool :=
  match change with
  | .enter inMain => inMain
  | _ => last

/-- The preset last adopted in a run of changes that begins under `preset`. -/
def lastPreset (preset : KindSet) (changes : List Change) : KindSet :=
  changes.foldl (fun last change => change.presetAfter last) preset

/-- Whether the module last entered in a run of changes belongs to the main package, when the run
begins in a module for which `inMain` says so. -/
def lastModule (inMain : Bool) (changes : List Change) : Bool :=
  changes.foldl (fun last change => change.moduleAfter last) inMain

/-! ## Two switches in a row -/

variable (policy : NotePolicy)

/-- What a change of preset keeps: the modified kinds that the set in force holds. -/
def kept : KindSet :=
  policy.modified ∩ if policy.inMain then policy.active else policy.mainPackage

theorem adoptPreset_eq (preset : KindSet) :
    policy.adoptPreset preset =
      ({ policy with
        mainPackage := policy.kept ∪ (preset \ policy.modified) } : NotePolicy).enter
          policy.inMain :=
  rfl

/-- A change of preset selects the active set for the current module anew. -/
theorem enter_adoptPreset (preset : KindSet) :
    (policy.adoptPreset preset).enter policy.inMain = policy.adoptPreset preset :=
  rfl

theorem enter_enter (first second : Bool) :
    (policy.enter first).enter second = policy.enter second :=
  rfl

/-- After a change of preset the next one would keep the same kinds, in whichever module: in the
main package the active set is a copy of the main-package set, and elsewhere that set itself is the
one in force. -/
theorem kept_enter_adoptPreset (preset : KindSet) (inMain : Bool) :
    ((policy.adoptPreset preset).enter inMain).kept = policy.kept := by
  have onKept : policy.modified ∩ (policy.kept ∪ (preset \ policy.modified)) = policy.kept :=
    Selection.inter_union_sdiff policy.modified _ preset
  cases inMain with
  | true => exact onKept
  | false => exact onKept

/-- Of two changes of preset only the later counts, and the module entered between them stays the
current one. -/
theorem adoptPreset_enter_adoptPreset (earlier preset : KindSet) (inMain : Bool) :
    ((policy.adoptPreset earlier).enter inMain).adoptPreset preset =
      (policy.adoptPreset preset).enter inMain := by
  rw [adoptPreset_eq, kept_enter_adoptPreset]
  rfl

theorem adoptPreset_adoptPreset (earlier preset : KindSet) :
    (policy.adoptPreset earlier).adoptPreset preset = policy.adoptPreset preset :=
  policy.adoptPreset_enter_adoptPreset earlier preset policy.inMain

/-! ## Runs of switches -/

/-- One more switch replaces the last preset or the last module. -/
theorem apply_of_isSwitch {change : Change} (switch : change.IsSwitch) (preset : KindSet)
    (inMain : Bool) :
    ((policy.adoptPreset preset).enter inMain).apply change =
      (policy.adoptPreset (change.presetAfter preset)).enter (change.moduleAfter inMain) := by
  cases change with
  | adoptPreset next => exact policy.adoptPreset_enter_adoptPreset preset next inMain
  | enter next => exact enter_enter (policy.adoptPreset preset) inMain next
  | assign | assignFromCommandLine | assignDefault | replaceForeign => exact switch.elim

theorem applyAll_of_isSwitch {changes : List Change}
    (switches : ∀ change ∈ changes, change.IsSwitch) (preset : KindSet) (inMain : Bool) :
    ((policy.adoptPreset preset).enter inMain).applyAll changes =
      (policy.adoptPreset (lastPreset preset changes)).enter (lastModule inMain changes) := by
  induction changes generalizing preset inMain with
  | nil => rfl
  | cons change changes ih =>
      rw [applyAll_cons, apply_of_isSwitch policy (switches change List.mem_cons_self)]
      exact ih (fun later member => switches later (List.mem_cons_of_mem change member)) _ _

/-- A run of changes of preset and switches of modules that begins with a change of preset ends where
its last preset and its last module alone would lead. In particular a preset adopted twice is
adopted once. -/
theorem switches_leave_last_preset_and_module (preset : KindSet) {changes : List Change}
    (switches : ∀ change ∈ changes, change.IsSwitch) :
    policy.applyAll (.adoptPreset preset :: changes) =
        (policy.adoptPreset (lastPreset preset changes)).enter
          (lastModule policy.inMain changes) ∧
      (policy.adoptPreset preset).adoptPreset preset = policy.adoptPreset preset := by
  constructor
  · rw [applyAll_cons, apply, ← enter_adoptPreset]
    exact applyAll_of_isSwitch policy switches preset policy.inMain
  · exact policy.adoptPreset_adoptPreset preset preset

/-- A noisy preset and two visits to foreign modules leave nothing behind, although one kind was
switched on and another off before. -/
theorem switches_leave_last_preset_and_module_visits :
    let policy :=
      (initial Verbosity.preset1 Verbosity.foreignPackage).applyAll
        [.assign .active .gcStats true, .assignFromCommandLine .active .deprecated false]
    let changes : List Change :=
      [ .enter false, .adoptPreset Verbosity.preset3, .enter true, .enter false,
        .adoptPreset Verbosity.preset0 ]
    (∀ change ∈ changes, change.IsSwitch) ∧
      policy.applyAll (.adoptPreset Verbosity.preset2 :: changes) =
        (policy.adoptPreset Verbosity.preset0).enter false := by
  intro policy changes
  have switches : ∀ change ∈ changes, change.IsSwitch := by
    simp [changes, Change.IsSwitch]
  constructor
  · exact switches
  · exact (policy.switches_leave_last_preset_and_module Verbosity.preset2 switches).1

end Frontend.NotePolicy
