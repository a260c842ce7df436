import Frontend.Note.Policy
import Mathlib.Data.List.Forall2

/-!
# The standing of one kind

Every operation of a note policy treats each kind by itself. What a policy says of one kind is its
*standing*: one truth value for each set, and the module flag. A change of the policy becomes a
change of the standing, which no other kind can influence. The main statement is the simulation
`standing_apply`; `standing_applyAll_induction` and `standing_applyAll_related` lift it to one run of
changes and to two.
-/

namespace Frontend

/-- What a policy says of one kind, and whether the current module belongs to the main package. -/
@[ext]
structure Standing where
  active : Bool
  mainPackage : Bool
  foreignPackage : Bool
  warningsAsErrors : Bool
  hintsAsErrors : Bool
  cmdlineModified : Bool
  explicit : Bool
  inMain : Bool
deriving DecidableEq

namespace Standing

/-- Decides the membership on one axis. -/
def write (standing : Standing) (axis : Axis) (shown : Bool) : Standing :=
  match axis with
  | .active => { standing with active := shown }
  | .mainPackage => { standing with mainPackage := shown }
  | .foreignPackage => { standing with foreignPackage := shown }
  | .warningsAsErrors => { standing with warningsAsErrors := shown }
  | .hintsAsErrors => { standing with hintsAsErrors := shown }
  | .cmdlineModified => { standing with cmdlineModified := shown }

/-- The command line owns the kind on this axis. -/
def isOwned (standing : Standing) (axis : Axis) : Bool :=
  (axis == .active || axis == .mainPackage) && standing.cmdlineModified

/-- An explicit write. -/
def assign (standing : Standing) (axis : Axis) (shown : Bool) : Standing :=
  if standing.isOwned axis then standing
  else
    let written := standing.write axis shown
    if axis = .cmdlineModified then written else { written with explicit := true }

/-- A write from the command line. -/
def assignFromCommandLine (standing : Standing) (axis : Axis) (shown : Bool) : Standing :=
  let marked := { standing with cmdlineModified := true }
  match axis with
  | .active | .mainPackage =>
      { marked with
        active := shown
        mainPackage := shown
        foreignPackage := shown && marked.foreignPackage }
  | .cmdlineModified => marked
  | .foreignPackage | .warningsAsErrors | .hintsAsErrors => marked.write axis shown

/-- A default. -/
def assignDefault (standing : Standing) (shown : Bool) : Standing :=
  { standing with
    active := if standing.cmdlineModified then standing.active else shown
    mainPackage := if standing.cmdlineModified then standing.mainPackage else shown
    foreignPackage := shown }

/-- A module is entered. -/
def enter (standing : Standing) (inMain : Bool) : Standing :=
  { standing with
    inMain := inMain
    active := if inMain then standing.mainPackage else standing.foreignPackage }

/-- A preset is adopted that holds the kind or not. -/
def adoptPreset (standing : Standing) (member : Bool) : Standing :=
  let current := if standing.inMain then standing.active else standing.mainPackage
  let main := if standing.cmdlineModified || standing.explicit then current else member
  { standing with mainPackage := main }.enter standing.inMain

/-- What a change of a policy can mean for one kind. -/
inductive Change where
  | assign (axis : Axis) (shown : Bool)
  | assignFromCommandLine (axis : Axis) (shown : Bool)
  | assignDefault (shown : Bool)
  | adoptPreset (member : Bool)
  | replaceForeign (member : Bool)
  | enter (inMain : Bool)
  /-- The change concerns another kind. -/
  | elsewhere
deriving DecidableEq

/-- The standing after a change. -/
def apply (standing : Standing) : Change → Standing
  | .assign axis shown => standing.assign axis shown
  | .assignFromCommandLine axis shown => standing.assignFromCommandLine axis shown
  | .assignDefault shown => standing.assignDefault shown
  | .adoptPreset member => standing.adoptPreset member
  | .replaceForeign member => { standing with foreignPackage := member }
  | .enter inMain => standing.enter inMain
  | .elsewhere => standing

end Standing

namespace NotePolicy

/-- What a policy says of one kind. -/
def standing (policy : NotePolicy) (kind : NoteKind) : Standing where
  active := policy.active.contains kind
  mainPackage := policy.mainPackage.contains kind
  foreignPackage := policy.foreignPackage.contains kind
  warningsAsErrors := policy.warningsAsErrors.contains kind
  hintsAsErrors := policy.hintsAsErrors.contains kind
  cmdlineModified := policy.cmdlineModified.contains kind
  explicit := policy.explicit.contains kind
  inMain := policy.inMain

/-- What a change means for one kind. -/
def Change.on (change : Change) (kind : NoteKind) : Standing.Change :=
  match change with
  | .assign axis other shown => if other = kind then .assign axis shown else .elsewhere
  | .assignFromCommandLine axis other shown =>
      if other = kind then .assignFromCommandLine axis shown else .elsewhere
  | .assignDefault other shown => if other = kind then .assignDefault shown else .elsewhere
  | .adoptPreset preset => .adoptPreset (preset.contains kind)
  | .replaceForeign foreign => .replaceForeign (foreign.contains kind)
  | .enter inMain => .enter inMain

/-! ## One operation -/

section

variable (policy : NotePolicy) (kind other : NoteKind) (axis : Axis) (shown : Bool)

theorem standing_write :
    (policy.write axis other shown).standing kind =
      if other = kind then (policy.standing kind).write axis shown else policy.standing kind := by
  by_cases same : other = kind <;> cases axis <;>
    simp [standing, write, Standing.write, Selection.contains_set, same]

theorem isOwned_eq_standing :
    policy.isOwned axis kind = (policy.standing kind).isOwned axis :=
  rfl

/-- Recording a kind as explicit touches no other standing. -/
theorem standing_insert_explicit :
    ({ policy with explicit := policy.explicit.insert other } : NotePolicy).standing kind =
      if other = kind then { policy.standing kind with explicit := true }
      else policy.standing kind := by
  have membership := Selection.contains_set policy.explicit other kind true
  simp only [Selection.set, if_true] at membership
  by_cases same : other = kind <;> simp [standing, membership, same]

theorem standing_assign :
    (policy.assign axis other shown).2.standing kind =
      if other = kind then (policy.standing kind).assign axis shown
      else policy.standing kind := by
  have written := standing_write policy kind other axis shown
  have explicit := standing_insert_explicit (policy.write axis other shown) kind other
  unfold assign
  by_cases owned : policy.isOwned axis other
  · rw [if_pos owned]
    split
    · rename_i same
      subst other
      rw [Standing.assign, ← isOwned_eq_standing, if_pos owned]
    · rfl
  · rw [if_neg owned]
    by_cases same : other = kind
    · subst other
      rw [if_pos rfl] at written explicit ⊢
      rw [Standing.assign, ← isOwned_eq_standing, if_neg owned]
      by_cases special : axis = .cmdlineModified
      · simp only [if_pos special, written]
      · simp only [if_neg special, explicit, written]
    · rw [if_neg same] at written explicit ⊢
      split
      · exact written
      · exact explicit.trans written

theorem standing_assignFromCommandLine :
    (policy.assignFromCommandLine axis other shown).standing kind =
      if other = kind then (policy.standing kind).assignFromCommandLine axis shown
      else policy.standing kind := by
  have membership := Selection.contains_set policy.cmdlineModified other kind true
  simp only [Selection.set, if_true] at membership
  by_cases same : other = kind <;> cases axis <;> cases shown <;>
    simp [standing, assignFromCommandLine, Standing.assignFromCommandLine, write, Standing.write,
      Selection.contains_set, membership, same]

theorem standing_writeUnlessOwned :
    (policy.writeUnlessOwned axis other shown).standing kind =
      if other = kind then
        if (policy.standing kind).isOwned axis then policy.standing kind
        else (policy.standing kind).write axis shown
      else policy.standing kind := by
  unfold writeUnlessOwned
  by_cases same : other = kind
  · subst other
    rw [if_pos rfl, isOwned_eq_standing]
    split
    · rfl
    · rw [standing_write, if_pos rfl]
  · rw [if_neg same]
    split
    · rfl
    · rw [standing_write, if_neg same]

theorem standing_assignDefault :
    (policy.assignDefault other shown).standing kind =
      if other = kind then (policy.standing kind).assignDefault shown
      else policy.standing kind := by
  unfold assignDefault
  simp only [standing_write, standing_writeUnlessOwned]
  by_cases same : other = kind
  · simp only [if_pos same]
    cases owned : (policy.standing kind).cmdlineModified <;>
      simp [Standing.assignDefault, Standing.isOwned, Standing.write, owned]
  · simp only [if_neg same]

theorem standing_enter (inMain : Bool) :
    (policy.enter inMain).standing kind = (policy.standing kind).enter inMain := by
  cases inMain <;> rfl

/-- A preset decides a kind that was not modified, and only that. -/
theorem standing_adoptPreset (preset : KindSet) :
    (policy.adoptPreset preset).standing kind =
      (policy.standing kind).adoptPreset (preset.contains kind) := by
  unfold adoptPreset Standing.adoptPreset
  rw [standing_enter]
  congr 1
  cases inMain : policy.inMain <;>
    cases owned : policy.cmdlineModified.contains kind <;>
    cases explicit : policy.explicit.contains kind <;>
    simp [standing, modified, inMain, owned, explicit]

end

/-! ## Runs of operations -/

/-- The standing of a kind after a change is determined by the standing before, and by what the
change means for that kind. -/
theorem standing_apply (policy : NotePolicy) (change : Change) (kind : NoteKind) :
    (policy.apply change).standing kind = (policy.standing kind).apply (change.on kind) := by
  cases change with
  | assign axis other shown =>
      rw [apply, standing_assign, Change.on]
      split <;> rfl
  | assignFromCommandLine axis other shown =>
      rw [apply, standing_assignFromCommandLine, Change.on]
      split <;> rfl
  | assignDefault other shown =>
      rw [apply, standing_assignDefault, Change.on]
      split <;> rfl
  | adoptPreset preset => exact standing_adoptPreset policy kind preset
  | replaceForeign foreign => rfl
  | enter inMain => exact standing_enter policy kind inMain

@[simp]
theorem applyAll_nil (policy : NotePolicy) : policy.applyAll [] = policy :=
  rfl

@[simp]
theorem applyAll_cons (policy : NotePolicy) (change : Change) (changes : List Change) :
    policy.applyAll (change :: changes) = (policy.apply change).applyAll changes :=
  rfl

/-- A property of standings that every change of a run keeps holds after the run. -/
theorem standing_applyAll_induction {kind : NoteKind} {Allowed : Standing.Change → Prop}
    {Kept : Standing → Prop}
    (keeps : ∀ {standing change}, Allowed change → Kept standing → Kept (standing.apply change))
    {policy : NotePolicy} {changes : List Change}
    (allowed : ∀ change ∈ changes, Allowed (change.on kind)) (kept : Kept (policy.standing kind)) :
    Kept ((policy.applyAll changes).standing kind) := by
  induction changes generalizing policy with
  | nil => exact kept
  | cons change changes ih =>
      rw [applyAll_cons]
      apply ih
      · intro later member
        exact allowed later (List.mem_cons_of_mem change member)
      · rw [standing_apply]
        exact keeps (allowed change List.mem_cons_self) kept

/-- Two runs of matching changes keep the standings of a kind related, if each pair of matching
changes does. -/
theorem standing_applyAll_related {kind : NoteKind}
    (Matching : Standing.Change → Standing.Change → Prop) (Related : Standing → Standing → Prop)
    (keeps : ∀ {left right first second}, Matching first second → Related left right →
      Related (left.apply first) (right.apply second))
    {policy other : NotePolicy} {changes others : List Change}
    (matching : List.Forall₂ (fun first second => Matching (first.on kind) (second.on kind))
      changes others)
    (related : Related (policy.standing kind) (other.standing kind)) :
    Related ((policy.applyAll changes).standing kind) ((other.applyAll others).standing kind) := by
  induction matching generalizing policy other with
  | nil => exact related
  | cons first _ ih =>
      rw [applyAll_cons, applyAll_cons]
      apply ih
      rw [standing_apply, standing_apply]
      exact keeps first related

end NotePolicy

end Frontend
