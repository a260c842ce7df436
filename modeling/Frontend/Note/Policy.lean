import Frontend.Note.Kind

/-!
# The note policy

Which kinds are shown is kept on independent axes. The *active* set belongs to the module being
processed: entering a module copies the set of the main package or of foreign packages into it.
The command line owns the kinds that it sets: ordinary writes to the active and main-package sets no
longer touch them, and neither does a change of verbosity. Kinds set in any other way are remembered
as explicit, and a change of verbosity keeps those too.

`NotePolicy.Change` lists the operations, so that a run is a list of changes.
-/

namespace Frontend

/-- The axes on which a kind can be a member. -/
inductive Axis where
  /-- Shown for the module being processed. -/
  | active
  /-- Shown for modules of the package being compiled. -/
  | mainPackage
  /-- Shown for modules of all other packages. -/
  | foreignPackage
  | warningsAsErrors
  | hintsAsErrors
  /-- Set on the command line, and left alone by later defaults. -/
  | cmdlineModified
deriving DecidableEq, Repr

instance : Enumerated Axis :=
  .ofValues
    [ .active, .mainPackage, .foreignPackage, .warningsAsErrors, .hintsAsErrors,
      .cmdlineModified ]
    Axis.ctorIdx (by intro value; cases value <;> rfl) (by decide) (by decide)

instance : Named Axis where
  name
    | .active => "Active"
    | .mainPackage => "MainPackage"
    | .foreignPackage => "ForeignPackage"
    | .warningsAsErrors => "WarningsAsErrors"
    | .hintsAsErrors => "HintsAsErrors"
    | .cmdlineModified => "CmdlineModified"

/-- The sets of all axes, the kinds set explicitly, and whether the current module belongs to the
main package. -/
structure NotePolicy where
  active : KindSet
  mainPackage : KindSet
  foreignPackage : KindSet
  warningsAsErrors : KindSet
  hintsAsErrors : KindSet
  cmdlineModified : KindSet
  explicit : KindSet
  inMain : Bool
deriving DecidableEq

namespace NotePolicy

/-- At the start the main package shows `shown`, foreign packages show `foreign`, and nothing has
been modified. -/
def initial (shown foreign : KindSet) : NotePolicy where
  active := shown
  mainPackage := shown
  foreignPackage := foreign
  warningsAsErrors := ∅
  hintsAsErrors := ∅
  cmdlineModified := ∅
  explicit := ∅
  inMain := true

/-- The set on an axis. -/
def get (policy : NotePolicy) : Axis → KindSet
  | .active => policy.active
  | .mainPackage => policy.mainPackage
  | .foreignPackage => policy.foreignPackage
  | .warningsAsErrors => policy.warningsAsErrors
  | .hintsAsErrors => policy.hintsAsErrors
  | .cmdlineModified => policy.cmdlineModified

/-- Makes a kind a member on one axis, or not, and touches nothing else. -/
def write (policy : NotePolicy) (axis : Axis) (kind : NoteKind) (shown : Bool) : NotePolicy :=
  match axis with
  | .active => { policy with active := policy.active.set kind shown }
  | .mainPackage => { policy with mainPackage := policy.mainPackage.set kind shown }
  | .foreignPackage => { policy with foreignPackage := policy.foreignPackage.set kind shown }
  | .warningsAsErrors => { policy with warningsAsErrors := policy.warningsAsErrors.set kind shown }
  | .hintsAsErrors => { policy with hintsAsErrors := policy.hintsAsErrors.set kind shown }
  | .cmdlineModified => { policy with cmdlineModified := policy.cmdlineModified.set kind shown }

/-- The kinds whose state the user chose, on the command line or otherwise. -/
def modified (policy : NotePolicy) : KindSet :=
  policy.cmdlineModified ∪ policy.explicit

/-- The command line owns the kind on this axis. -/
def isOwned (policy : NotePolicy) (axis : Axis) (kind : NoteKind) : Bool :=
  (axis == .active || axis == .mainPackage) && policy.cmdlineModified.contains kind

/-! ## Operations -/

/-- An explicit write on one axis. It is refused, with the answer `false`, when the command line
owns the kind there. -/
def assign (policy : NotePolicy) (axis : Axis) (kind : NoteKind) (shown : Bool) :
    Bool × NotePolicy :=
  if policy.isOwned axis kind then (false, policy)
  else
    let written := policy.write axis kind shown
    if axis = .cmdlineModified then (true, written)
    else (true, { written with explicit := written.explicit.insert kind })

/-- A write from the command line, which owns the kind from then on. On the active or main-package
axis both sets follow, and switching a kind off silences it for foreign packages too. -/
def assignFromCommandLine (policy : NotePolicy) (axis : Axis) (kind : NoteKind) (shown : Bool) :
    NotePolicy :=
  let marked := { policy with cmdlineModified := policy.cmdlineModified.insert kind }
  match axis with
  | .active | .mainPackage =>
      let both := (marked.write .active kind shown).write .mainPackage kind shown
      if shown then both else both.write .foreignPackage kind false
  | .cmdlineModified => marked
  | .foreignPackage | .warningsAsErrors | .hintsAsErrors => marked.write axis kind shown

/-- A write that respects what the command line owns. -/
def writeUnlessOwned (policy : NotePolicy) (axis : Axis) (kind : NoteKind) (shown : Bool) :
    NotePolicy :=
  if policy.isOwned axis kind then policy else policy.write axis kind shown

/-- A default for a kind, in every package. A kind that the command line owns keeps its active and
main-package state. -/
def assignDefault (policy : NotePolicy) (kind : NoteKind) (shown : Bool) : NotePolicy :=
  let active := policy.writeUnlessOwned .active kind shown
  let main := active.writeUnlessOwned .mainPackage kind shown
  main.write .foreignPackage kind shown

/-- Enters a module of the main package or of a foreign one, and makes its notes active. -/
def enter (policy : NotePolicy) (inMain : Bool) : NotePolicy :=
  { policy with
    inMain := inMain
    active := if inMain then policy.mainPackage else policy.foreignPackage }

/-- Switches the main package to a preset. Modified kinds keep the state they have in the active
set, or in the main-package set while a foreign module is processed. -/
def adoptPreset (policy : NotePolicy) (preset : KindSet) : NotePolicy :=
  let modified := policy.modified
  let current := if policy.inMain then policy.active else policy.mainPackage
  let main := (modified ∩ current) ∪ (preset \ modified)
  { policy with mainPackage := main }.enter policy.inMain

/-- Replaces the notes of foreign packages, from the next module on. -/
def replaceForeign (policy : NotePolicy) (foreign : KindSet) : NotePolicy :=
  { policy with foreignPackage := foreign }

/-! ## Runs of changes -/

/-- One operation on the policy. -/
inductive Change where
  | assign (axis : Axis) (kind : NoteKind) (shown : Bool)
  | assignFromCommandLine (axis : Axis) (kind : NoteKind) (shown : Bool)
  | assignDefault (kind : NoteKind) (shown : Bool)
  | adoptPreset (preset : KindSet)
  | replaceForeign (foreign : KindSet)
  | enter (inMain : Bool)
deriving DecidableEq

/-- The policy after one operation. -/
def apply (policy : NotePolicy) : Change → NotePolicy
  | .assign axis kind shown => (policy.assign axis kind shown).2
  | .assignFromCommandLine axis kind shown => policy.assignFromCommandLine axis kind shown
  | .assignDefault kind shown => policy.assignDefault kind shown
  | .adoptPreset preset => policy.adoptPreset preset
  | .replaceForeign foreign => policy.replaceForeign foreign
  | .enter inMain => policy.enter inMain

/-- The policy after a list of operations, first to last. -/
def applyAll (policy : NotePolicy) (changes : List Change) : NotePolicy :=
  changes.foldl apply policy

end NotePolicy

end Frontend
