import Frontend.Proofs.Note.Switching

/-!
# The active set mirrors the main-package set

While the main package is processed two sets say what it shows, and each operation but one treats
them alike. Writes from the command line reach both; defaults are refused on both or on neither, since
the same mark protects a kind on either; entering a module and adopting a preset copy the one set
into the other; and the remaining operations touch neither. Only an explicit write on one of the two
can make them differ.

The invariant is carried through a *view* of the sets. Seen through one kind the two agree as long as
this kind was never written on one of them alone, and seen as wholes they are equal as long as no kind
was. The second is not the first for every kind: the words of a set have positions that belong to no
kind, and those have to be equal too.

A change of preset keeps the modified kinds of the set in force, while entering a module forgets that
set. So the two can be exchanged exactly where the set in force holds the same modified kinds as the
main-package set.
-/

namespace Frontend.NotePolicy

universe u

/-- The change is no explicit write of the kind on the active or the main-package axis. -/
def Change.WritesNeitherAlone (change : Change) (kind : NoteKind) : Prop :=
  match change with
  | .assign axis other _ => other = kind → axis ≠ .active ∧ axis ≠ .mainPackage
  | .assignFromCommandLine _ _ _ | .assignDefault _ _ | .adoptPreset _ | .replaceForeign _
  | .enter _ => True

/-! ## Views of a set -/

section

variable {α : Type u}

/-- Two sets that look the same still do after the same write on both. -/
def RespectsWrites (view : KindSet → α) : Prop :=
  ∀ (left right : KindSet) (kind : NoteKind) (shown : Bool), view left = view right →
    view (left.set kind shown) = view (right.set kind shown)

/-- A write of the kind cannot be seen. -/
def Overlooks (view : KindSet → α) (kind : NoteKind) : Prop :=
  ∀ (whole : KindSet) (shown : Bool), view (whole.set kind shown) = view whole

/-- In the main package the active set looks the same as the main-package set. -/
def Mirrored (view : KindSet → α) (policy : NotePolicy) : Prop :=
  policy.inMain = true → view policy.active = view policy.mainPackage

/-- An explicit write of the change on one of the two sets cannot be seen. -/
def Change.LooksAlike (view : KindSet → α) : Change → Prop
  | .assign axis kind _ => axis = .active ∨ axis = .mainPackage → Overlooks view kind
  | .assignFromCommandLine _ _ _ | .assignDefault _ _ | .adoptPreset _ | .replaceForeign _
  | .enter _ => True

end

theorem respectsWrites_id : RespectsWrites (id : KindSet → KindSet) := by
  intro left right kind shown same
  exact congrArg (fun whole : KindSet => whole.set kind shown) same

variable {kind : NoteKind}

theorem respectsWrites_contains : RespectsWrites (·.contains kind) := by
  intro left right written shown same
  have seen : left.contains kind = right.contains kind := same
  change (left.set written shown).contains kind = (right.set written shown).contains kind
  rw [Selection.contains_set, Selection.contains_set, seen]

theorem overlooks_of_ne {other : NoteKind} (different : other ≠ kind) :
    Overlooks (·.contains kind) other := by
  intro whole shown
  change (whole.set other shown).contains kind = whole.contains kind
  rw [Selection.contains_set, if_neg different]

/-- Seen through one kind, explicit writes of other kinds do not count. -/
theorem Change.WritesNeitherAlone.looksAlike {change : Change}
    (both : change.WritesNeitherAlone kind) : change.LooksAlike (·.contains kind) := by
  cases change with
  | assign axis other shown =>
      intro alone
      apply overlooks_of_ne
      intro same
      obtain ⟨notActive, notMain⟩ := both same
      exact alone.elim notActive notMain
  | assignFromCommandLine | assignDefault | adoptPreset | replaceForeign | enter => trivial

/-- As wholes, two sets stay alike if no kind is written on one of them alone. -/
theorem Change.looksAlike_of_writesNeitherAlone {change : Change} {α : Type u}
    {view : KindSet → α} (both : ∀ kind, change.WritesNeitherAlone kind) :
    change.LooksAlike view := by
  cases change with
  | assign axis kind shown =>
      intro alone
      obtain ⟨notActive, notMain⟩ := both kind rfl
      exact (alone.elim notActive notMain).elim
  | assignFromCommandLine | assignDefault | adoptPreset | replaceForeign | enter => trivial

/-! ## What keeps the sets alike -/

section

variable {α : Type u} {view : KindSet → α} {policy : NotePolicy} {axis : Axis} {shown : Bool}

theorem mirrored_initial (shown foreign : KindSet) : (initial shown foreign).Mirrored view :=
  fun _ => rfl

theorem mirrored_enter (policy : NotePolicy) (inMain : Bool) :
    (policy.enter inMain).Mirrored view := by
  rintro rfl
  rfl

theorem Mirrored.write (mirrored : policy.Mirrored view)
    (unseen : axis = .active ∨ axis = .mainPackage → Overlooks view kind) :
    (policy.write axis kind shown).Mirrored view := by
  intro inMain
  have alike : view policy.active = view policy.mainPackage := by
    cases axis <;> exact mirrored inMain
  cases axis with
  | active => exact (unseen (.inl rfl) policy.active shown).trans alike
  | mainPackage => exact alike.trans (unseen (.inr rfl) policy.mainPackage shown).symm
  | foreignPackage | warningsAsErrors | hintsAsErrors | cmdlineModified => exact alike

theorem Mirrored.assign (mirrored : policy.Mirrored view)
    (unseen : axis = .active ∨ axis = .mainPackage → Overlooks view kind) :
    (policy.assign axis kind shown).2.Mirrored view := by
  have written : (policy.write axis kind shown).Mirrored view := mirrored.write unseen
  unfold NotePolicy.assign
  split
  · exact mirrored
  · dsimp only
    split
    · exact written
    · exact written

/-- The same write reaches both sets. -/
theorem Mirrored.writeBoth (respects : RespectsWrites view) (mirrored : policy.Mirrored view)
    (kind : NoteKind) (shown : Bool) :
    ((policy.write .active kind shown).write .mainPackage kind shown).Mirrored view :=
  fun inMain => respects policy.active policy.mainPackage kind shown (mirrored inMain)

theorem Mirrored.assignFromCommandLine (respects : RespectsWrites view)
    (mirrored : policy.Mirrored view) (axis : Axis) (kind : NoteKind) (shown : Bool) :
    (policy.assignFromCommandLine axis kind shown).Mirrored view := by
  have marked : ({ policy with
      cmdlineModified := policy.cmdlineModified.insert kind } : NotePolicy).Mirrored view := mirrored
  cases axis with
  | active | mainPackage =>
      cases shown with
      | true => exact marked.writeBoth respects kind true
      | false => exact marked.writeBoth respects kind false
  | cmdlineModified => exact marked
  | foreignPackage | warningsAsErrors | hintsAsErrors => exact marked

/-- The mark that protects a kind protects it on both sets. -/
theorem Mirrored.assignDefault (respects : RespectsWrites view) (mirrored : policy.Mirrored view)
    (kind : NoteKind) (shown : Bool) : (policy.assignDefault kind shown).Mirrored view := by
  have both : ((policy.writeUnlessOwned .active kind shown).writeUnlessOwned .mainPackage kind
      shown).Mirrored view := by
    by_cases owned : policy.cmdlineModified.contains kind = true
    · have active : policy.writeUnlessOwned .active kind shown = policy := if_pos owned
      have main : policy.writeUnlessOwned .mainPackage kind shown = policy := if_pos owned
      rw [active, main]
      exact mirrored
    · have active : policy.writeUnlessOwned .active kind shown =
          policy.write .active kind shown := if_neg owned
      have main : (policy.write .active kind shown).writeUnlessOwned .mainPackage kind shown =
          (policy.write .active kind shown).write .mainPackage kind shown := if_neg owned
      rw [active, main]
      exact mirrored.writeBoth respects kind shown
  exact both

/-- One operation keeps the two sets alike, unless it is an explicit write on one of them that is
seen. -/
theorem Mirrored.apply (respects : RespectsWrites view) (mirrored : policy.Mirrored view)
    {change : Change} (alike : change.LooksAlike view) : (policy.apply change).Mirrored view := by
  cases change with
  | assign axis kind shown => exact mirrored.assign alike
  | assignFromCommandLine axis kind shown =>
      exact mirrored.assignFromCommandLine respects axis kind shown
  | assignDefault kind shown => exact mirrored.assignDefault respects kind shown
  | adoptPreset preset => exact mirrored_enter _ policy.inMain
  | replaceForeign foreign => exact mirrored
  | enter inMain => exact mirrored_enter policy inMain

theorem Mirrored.applyAll (respects : RespectsWrites view) (mirrored : policy.Mirrored view)
    {changes : List Change} (alike : ∀ change ∈ changes, change.LooksAlike view) :
    (policy.applyAll changes).Mirrored view := by
  induction changes generalizing policy with
  | nil => exact mirrored
  | cons change changes ih =>
      rw [applyAll_cons]
      apply ih
      · exact mirrored.apply respects (alike change List.mem_cons_self)
      · exact fun later member => alike later (List.mem_cons_of_mem change member)

end

/-- The two sets agree on a kind in the main package as long as it was written on both. -/
theorem mirrored_contains (shown foreign : KindSet) {changes : List Change}
    (both : ∀ change ∈ changes, change.WritesNeitherAlone kind) :
    ((initial shown foreign).applyAll changes).Mirrored (·.contains kind) :=
  (mirrored_initial shown foreign).applyAll respectsWrites_contains
    fun change member => (both change member).looksAlike

/-! ## A change of preset and the entry of a module -/

variable (policy : NotePolicy)

/-- A module that is entered first makes a change of preset keep what the main package showed. -/
theorem kept_enter (inMain : Bool) :
    (policy.enter inMain).kept = policy.modified ∩ policy.mainPackage := by
  cases inMain with
  | true => rfl
  | false => rfl

/-- A change of preset and the entry of a module can be exchanged exactly if the set in force and the
main-package set hold the same modified kinds. -/
theorem enter_adoptPreset_comm_iff (preset : KindSet) (inMain : Bool) :
    (policy.adoptPreset preset).enter inMain = (policy.enter inMain).adoptPreset preset ↔
      policy.kept = policy.modified ∩ policy.mainPackage := by
  rw [adoptPreset_eq, adoptPreset_eq, kept_enter, enter_enter]
  constructor
  · intro same
    have main : policy.kept ∪ (preset \ policy.modified) =
        (policy.modified ∩ policy.mainPackage) ∪ (preset \ policy.modified) :=
      congrArg mainPackage same
    calc
      policy.kept = policy.modified ∩ (policy.kept ∪ (preset \ policy.modified)) :=
        (Selection.inter_union_sdiff policy.modified _ preset).symm
      _ = policy.modified ∩ ((policy.modified ∩ policy.mainPackage) ∪ (preset \ policy.modified)) :=
        congrArg (policy.modified ∩ ·) main
      _ = policy.modified ∩ policy.mainPackage :=
        Selection.inter_union_sdiff policy.modified _ preset
  · intro same
    rw [same]
    rfl

variable {policy}

theorem kept_of_mirrored (mirrored : policy.inMain = true → policy.active = policy.mainPackage) :
    policy.kept = policy.modified ∩ policy.mainPackage := by
  rw [kept]
  split
  · next inMain => rw [mirrored inMain]
  · rfl

/-- As long as neither of the two sets is written explicitly, the active set is the main-package set
whenever the current module belongs to the main package, whatever was written otherwise, on the
command line, by default or on other axes, whichever presets were adopted and whichever modules were
entered. And then, in foreign modules too, it does not matter whether a preset is adopted before or
after a module is entered. -/
theorem active_mirrors_main_package (shown foreign : KindSet) {changes : List Change}
    (both : ∀ change ∈ changes, ∀ kind, change.WritesNeitherAlone kind) :
    let policy := (initial shown foreign).applyAll changes
    (policy.inMain = true → policy.active = policy.mainPackage) ∧
      ∀ (preset : KindSet) (inMain : Bool),
        (policy.adoptPreset preset).enter inMain = (policy.enter inMain).adoptPreset preset := by
  intro policy
  have mirrored : policy.Mirrored id :=
    (mirrored_initial shown foreign).applyAll respectsWrites_id
      fun change member => Change.looksAlike_of_writesNeitherAlone (both change member)
  constructor
  · exact mirrored
  · intro preset inMain
    exact (policy.enter_adoptPreset_comm_iff preset inMain).mpr (kept_of_mirrored mirrored)

/-- Kinds are set on the command line, by default and on other axes, and a preset is adopted in a
foreign module; in the main package both sets are equal in the end. -/
theorem active_mirrors_main_package_mixed :
    let changes : List Change :=
      [ .assignFromCommandLine .active .deprecated false, .enter false,
        .assignDefault .gcStats true, .assign .foreignPackage .conf false,
        .adoptPreset Verbosity.preset3, .replaceForeign Verbosity.preset0,
        .assign .hintsAsErrors .gcStats true, .enter true ]
    let policy := (initial Verbosity.preset1 Verbosity.foreignPackage).applyAll changes
    (∀ change ∈ changes, ∀ kind, change.WritesNeitherAlone kind) ∧ policy.inMain = true ∧
      policy.active = policy.mainPackage ∧
      (policy.adoptPreset Verbosity.preset2).enter false =
        (policy.enter false).adoptPreset Verbosity.preset2 := by
  intro changes policy
  have both : ∀ change ∈ changes, ∀ kind, change.WritesNeitherAlone kind := by
    simp [changes, Change.WritesNeitherAlone]
  have inMain : policy.inMain = true := rfl
  obtain ⟨mirrored, commutes⟩ :=
    active_mirrors_main_package Verbosity.preset1 Verbosity.foreignPackage both
  exact ⟨both, inMain, mirrored inMain, commutes Verbosity.preset2 false⟩

/-- After an explicit write on the active set alone it matters which comes first. -/
example :
    let policy := (initial ∅ ∅).applyAll [.assign .active .gcStats true]
    policy.active ≠ policy.mainPackage ∧
      (policy.adoptPreset ∅).enter false ≠ (policy.enter false).adoptPreset ∅ := by
  decide

end Frontend.NotePolicy
