import Frontend.Note.Kind

/-!
# Verbosity presets

Preset 3 is the noisiest and preset 0 the quietest. Each preset is made from the one above it by
leaving kinds out, and the basic kinds are never left out, so the presets grow with the level.
-/

namespace Frontend.Verbosity

/-- The highest level; higher requests count as this one. -/
def maxLevel : Nat := 3

/-- The level of a fresh compilation. -/
def defaultLevel : Nat := 1

/-- Shown at every level and for every package. -/
def base : KindSet :=
  .ofList [.echoMessage, .versionInfo, .helpText]

/-- The noisiest preset: all warnings and hints but four. -/
def preset3 : KindSet :=
  (base ∪ .ofList NoteKind.warnings ∪ .ofList NoteKind.hints) \
    .ofList [.vmStackTrace, .uninit, .extendedContext, .processingStmt]

/-- Leaves out unproved fields, collector notes, and listings of paths, dependencies and globals. -/
def preset2 : KindSet :=
  preset3 \ .ofList [.proveField, .gcUnsafe, .path, .dependency, .globalVar, .gcStats]

/-- Leaves out the progress of the compilation too. -/
def preset1 : KindSet :=
  preset2 \
    .ofList [.success, .successX, .conf, .processing, .pattern, .executing, .linking]

/-- What the quietest preset keeps: warnings, and what the user asked to be told. -/
def quiet : KindSet :=
  .ofList (NoteKind.warnings ++ [.userHint, .quitCalled])

/-- The quietest preset. -/
def preset0 : KindSet :=
  base ∪ (preset1 ∩ quiet)

/-- The preset of a level; levels above the highest saturate. -/
def preset : Nat → KindSet
  | 0 => preset0
  | 1 => preset1
  | 2 => preset2
  | _ => preset3

/-- What is shown for code outside the package being compiled: the basic kinds, progress, and what
the user issued. -/
def foreignPackage : KindSet :=
  base ∪ .ofList [.processing, .userHint, .userWarning, .userError, .quitCalled]

/-! ## The presets grow with the level -/

theorem base_subset_preset1 : base ⊆ preset1 := by
  apply Selection.ofList_subset
  decide

/-- Each preset lies within the next one. -/
theorem preset_subset_succ (level : Nat) : preset level ⊆ preset (level + 1) := by
  match level with
  | 0 => exact Selection.union_subset base_subset_preset1 (Selection.inter_subset_left _ _)
  | 1 => exact Selection.sdiff_subset _ _
  | 2 => exact Selection.sdiff_subset _ _
  | _ + 3 => exact Selection.subset_refl preset3

theorem preset_subset_of_le {low high : Nat} (le : low ≤ high) : preset low ⊆ preset high := by
  induction le with
  | refl => exact Selection.subset_refl (preset low)
  | @step high _ ih => exact Selection.subset_trans ih (preset_subset_succ high)

end Frontend.Verbosity
