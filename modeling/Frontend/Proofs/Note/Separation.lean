import Frontend.Note.Verbosity
import Frontend.Proofs.Note.Preset

/-!
# Kinds that do not influence each other

A run decides about one kind by what its changes say of that kind, and by the standing that the kind
had at the start. Whatever else the changes say, and whatever the sets hold otherwise, is without
effect on it. This is stated of two runs, step by step of the same operations, that agree on the kind
and differ arbitrarily in everything that concerns others only.
-/

namespace Frontend.NotePolicy

variable {kind : NoteKind}

/-- Two policies say the same of a kind if they agree on all sets and on the current module. -/
theorem standing_eq_iff {policy other : NotePolicy} :
    policy.standing kind = other.standing kind ↔
      (∀ axis, (policy.get axis).contains kind = (other.get axis).contains kind) ∧
        policy.explicit.contains kind = other.explicit.contains kind ∧
        policy.inMain = other.inMain := by
  rw [Standing.ext_iff]
  constructor
  · rintro ⟨active, main, foreign, warnings, hints, cmdline, explicit, inMain⟩
    refine ⟨?_, explicit, inMain⟩
    intro axis
    cases axis with
    | active => exact active
    | mainPackage => exact main
    | foreignPackage => exact foreign
    | warningsAsErrors => exact warnings
    | hintsAsErrors => exact hints
    | cmdlineModified => exact cmdline
  · rintro ⟨axes, explicit, inMain⟩
    exact ⟨axes .active, axes .mainPackage, axes .foreignPackage, axes .warningsAsErrors,
      axes .hintsAsErrors, axes .cmdlineModified, explicit, inMain⟩

/-- The two changes are the same operation. If it is for one kind, then either both are for `kind`
and say the same of it, or both are for some other kind. If it brings a whole set or a module, then
they agree on the membership of `kind`, or on the module. -/
def Change.AgreesOn (kind : NoteKind) : Change → Change → Prop
  | .assign axis first shown, .assign otherAxis second otherShown
  | .assignFromCommandLine axis first shown, .assignFromCommandLine otherAxis second otherShown =>
      first = kind ∨ second = kind → first = second ∧ axis = otherAxis ∧ shown = otherShown
  | .assignDefault first shown, .assignDefault second otherShown =>
      first = kind ∨ second = kind → first = second ∧ shown = otherShown
  | .adoptPreset preset, .adoptPreset other | .replaceForeign preset, .replaceForeign other =>
      preset.contains kind = other.contains kind
  | .enter inMain, .enter other => inMain = other
  | _, _ => False

/-- What two changes, each for one kind, say of `kind`, when they say the same of it. -/
theorem onKind_eq_of_agree {first second : NoteKind} {meaning otherMeaning : Standing.Change}
    (agree : first = kind ∨ second = kind → first = second ∧ meaning = otherMeaning) :
    (if first = kind then meaning else .elsewhere) =
      if second = kind then otherMeaning else .elsewhere := by
  by_cases same : first = kind
  · rcases agree (Or.inl same) with ⟨rfl, rfl⟩
    rfl
  · have apart : second ≠ kind := by
      intro otherSame
      exact same ((agree (Or.inr otherSame)).1.trans otherSame)
    rw [if_neg same, if_neg apart]

/-- Changes that agree on a kind mean the same for it. -/
theorem Change.AgreesOn.on_eq {first second : Change} (agrees : first.AgreesOn kind second) :
    first.on kind = second.on kind := by
  cases first with
  | assign axis first shown =>
      cases second with
      | assign =>
          apply onKind_eq_of_agree
          intro concerned
          rcases agrees concerned with ⟨sameKind, rfl, rfl⟩
          exact ⟨sameKind, rfl⟩
      | _ => exact agrees.elim
  | assignFromCommandLine axis first shown =>
      cases second with
      | assignFromCommandLine =>
          apply onKind_eq_of_agree
          intro concerned
          rcases agrees concerned with ⟨sameKind, rfl, rfl⟩
          exact ⟨sameKind, rfl⟩
      | _ => exact agrees.elim
  | assignDefault first shown =>
      cases second with
      | assignDefault =>
          apply onKind_eq_of_agree
          intro concerned
          rcases agrees concerned with ⟨sameKind, rfl⟩
          exact ⟨sameKind, rfl⟩
      | _ => exact agrees.elim
  | adoptPreset preset =>
      cases second with
      | adoptPreset other => exact congrArg Standing.Change.adoptPreset agrees
      | _ => exact agrees.elim
  | replaceForeign foreign =>
      cases second with
      | replaceForeign other => exact congrArg Standing.Change.replaceForeign agrees
      | _ => exact agrees.elim
  | enter inMain =>
      cases second with
      | enter other => exact congrArg Standing.Change.enter agrees
      | _ => exact agrees.elim

/-- An explicit write is accepted unless the command line owns the kind. -/
theorem assign_fst (policy : NotePolicy) (axis : Axis) (kind : NoteKind) (shown : Bool) :
    (policy.assign axis kind shown).1 = !policy.isOwned axis kind := by
  unfold assign
  cases owned : policy.isOwned axis kind with
  | true => rfl
  | false =>
      by_cases special : axis = .cmdlineModified
      · simp [special]
      · simp [special]

/-- The policy of one kind depends on nothing but what concerns that kind. Two runs, step by step of
the same operations, that agree on a kind at the start and in each operation agree on it after every
step: on all axes, on whether it was set explicitly, on whether it counts as modified, and on which
explicit writes of it are accepted. The axes, the explicit kinds and the module are everything that a
policy holds. -/
theorem kind_decided_by_itself {policy other : NotePolicy}
    (axes : ∀ axis, (policy.get axis).contains kind = (other.get axis).contains kind)
    (explicit : policy.explicit.contains kind = other.explicit.contains kind)
    (inMain : policy.inMain = other.inMain) {changes others : List Change}
    (agree : List.Forall₂ (Change.AgreesOn kind) changes others) (count : Nat) :
    let later := policy.applyAll (changes.take count)
    let otherLater := other.applyAll (others.take count)
    (∀ axis, (later.get axis).contains kind = (otherLater.get axis).contains kind) ∧
      later.explicit.contains kind = otherLater.explicit.contains kind ∧
      later.modified.contains kind = otherLater.modified.contains kind ∧
      ∀ axis shown, (later.assign axis kind shown).1 = (otherLater.assign axis kind shown).1 := by
  intro later otherLater
  have same : later.standing kind = otherLater.standing kind := by
    apply standing_applyAll_related Eq Eq
    · rintro _ _ _ _ rfl rfl
      rfl
    · exact (List.forall₂_take count agree).imp fun _ _ agrees => agrees.on_eq
    · exact standing_eq_iff.mpr ⟨axes, explicit, inMain⟩
  rcases standing_eq_iff.mp same with ⟨sameAxes, sameExplicit, _⟩
  refine ⟨sameAxes, sameExplicit, ?_, ?_⟩
  · rw [contains_modified, contains_modified, same]
  · intro axis shown
    rw [assign_fst, assign_fst, isOwned_eq_standing, isOwned_eq_standing, same]

/-- A hint is shown after a preset and hidden after another, in two runs that differ in all that they
say of a warning. -/
theorem kind_decided_by_itself_gcStats :
    let start := NotePolicy.initial Verbosity.preset1 Verbosity.foreignPackage
    let other := start.assignFromCommandLine .hintsAsErrors .deprecated true
    let changes : List Change :=
      [ .assign .active .deprecated true, .adoptPreset Verbosity.preset3,
        .assignDefault .gcStats false, .enter false ]
    let others : List Change :=
      [ .assign .foreignPackage .userHint false,
        .adoptPreset (Verbosity.preset3.erase .deprecated), .assignDefault .gcStats false,
        .enter false ]
    (∀ axis, (start.get axis).contains .gcStats = (other.get axis).contains .gcStats) ∧
      start.explicit.contains .gcStats = other.explicit.contains .gcStats ∧
      start.inMain = other.inMain ∧
      List.Forall₂ (Change.AgreesOn .gcStats) changes others ∧
      (start.applyAll (changes.take 2)).active.contains .gcStats = true ∧
      (other.applyAll (others.take 2)).active.contains .gcStats = true := by
  intro start other changes others
  have axes : ∀ axis, (start.get axis).contains .gcStats = (other.get axis).contains .gcStats := by
    intro axis
    cases axis <;> decide
  have agree : List.Forall₂ (Change.AgreesOn .gcStats) changes others := by
    simp [changes, others, Change.AgreesOn, Enumerated.index_inj]
  have shown : (start.applyAll (changes.take 2)).active.contains .gcStats = true := by decide
  have same := kind_decided_by_itself axes rfl rfl agree 2
  exact ⟨axes, rfl, rfl, agree, shown, (same.1 .active).symm.trans shown⟩

end Frontend.NotePolicy
