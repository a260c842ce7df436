import Frontend.Proofs.Note.Preset

/-!
# Two standings compared

What is shown of a kind in two policies can be compared by equality, or by which of them shows more.
Either comparison survives every change that is made on both sides: a change writes the same on both,
or copies one set into another, and asks for nothing but the *marks* of the kind, as owned by the
command line or as modified. So it is enough that the change finds the marks that it consults the
same on both sides. Changes also keep equal marks equal, whatever is shown.
-/

namespace Frontend.Standing

/-- In this module and in every other, what the first standing shows is related to what the second
one shows. -/
structure Compare (Related : Bool → Bool → Prop) (left right : Standing) : Prop where
  active : Related left.active right.active
  mainPackage : Related left.mainPackage right.mainPackage
  foreignPackage : Related left.foreignPackage right.foreignPackage
  inMain : left.inMain = right.inMain

/-- The change finds the marks that it consults, of the kind as owned by the command line or as
modified, the same in both standings. -/
def Change.ConsultsAlike (left right : Standing) : Change → Prop
  | .assign axis _ => left.isOwned axis = right.isOwned axis
  | .assignDefault _ => left.cmdlineModified = right.cmdlineModified
  | .adoptPreset _ => left.isModified = right.isModified
  | .assignFromCommandLine _ _ | .replaceForeign _ | .enter _ | .elsewhere => True

instance (left right : Standing) (change : Change) :
    Decidable (change.ConsultsAlike left right) :=
  match change with
  | .assign axis _ => inferInstanceAs (Decidable (left.isOwned axis = right.isOwned axis))
  | .assignDefault _ => inferInstanceAs (Decidable (left.cmdlineModified = right.cmdlineModified))
  | .adoptPreset _ => inferInstanceAs (Decidable (left.isModified = right.isModified))
  | .assignFromCommandLine _ _ | .replaceForeign _ | .enter _ | .elsewhere => .isTrue trivial

/-! ## What is shown -/

section

variable {Related : Bool → Bool → Prop} {left right : Standing}

theorem Compare.enter (compared : Compare Related left right) (inMain : Bool) :
    Compare Related (left.enter inMain) (right.enter inMain) := by
  obtain ⟨_, main, foreign, _⟩ := compared
  cases inMain with
  | true => exact ⟨main, main, foreign, rfl⟩
  | false => exact ⟨foreign, main, foreign, rfl⟩

/-- Related presets are adopted on both sides. -/
theorem Compare.adoptPreset (compared : Compare Related left right) {member other : Bool}
    (related : Related member other) (modified : left.isModified = right.isModified) :
    Compare Related (left.adoptPreset member) (right.adoptPreset other) := by
  have main : Related (left.adoptPreset member).mainPackage
      (right.adoptPreset other).mainPackage := by
    simp only [mainPackage_adoptPreset, modified, compared.inMain]
    split
    · split
      · exact compared.active
      · exact compared.mainPackage
    · exact related
  refine ⟨?_, main, compared.foreignPackage, compared.inMain⟩
  simp only [active_adoptPreset, compared.inMain]
  split
  · exact main
  · exact compared.foreignPackage

variable (reflexive : ∀ shown, Related shown shown)

include reflexive

theorem Compare.refl (standing : Standing) : Compare Related standing standing :=
  ⟨reflexive _, reflexive _, reflexive _, rfl⟩

theorem Compare.write (compared : Compare Related left right) (axis : Axis) (shown : Bool) :
    Compare Related (left.write axis shown) (right.write axis shown) := by
  obtain ⟨active, main, foreign, inMain⟩ := compared
  cases axis with
  | active => exact ⟨reflexive shown, main, foreign, inMain⟩
  | mainPackage => exact ⟨active, reflexive shown, foreign, inMain⟩
  | foreignPackage => exact ⟨active, main, reflexive shown, inMain⟩
  | warningsAsErrors | hintsAsErrors | cmdlineModified => exact ⟨active, main, foreign, inMain⟩

theorem Compare.assign (compared : Compare Related left right) {axis : Axis} (shown : Bool)
    (owned : left.isOwned axis = right.isOwned axis) :
    Compare Related (left.assign axis shown) (right.assign axis shown) := by
  have written := compared.write reflexive axis shown
  simp only [Standing.assign, owned]
  split
  · exact compared
  · split
    · exact written
    · exact ⟨written.active, written.mainPackage, written.foreignPackage, written.inMain⟩

/-- The command line shows the kind in foreign packages where it was shown, or nowhere. -/
theorem Compare.assignFromCommandLine (compared : Compare Related left right) (axis : Axis)
    (shown : Bool) :
    Compare Related (left.assignFromCommandLine axis shown)
      (right.assignFromCommandLine axis shown) := by
  obtain ⟨active, main, foreign, inMain⟩ := compared
  cases axis with
  | active | mainPackage =>
      refine ⟨reflexive shown, reflexive shown, ?_, inMain⟩
      cases shown with
      | true => exact foreign
      | false => exact reflexive false
  | foreignPackage => exact ⟨active, main, reflexive shown, inMain⟩
  | warningsAsErrors | hintsAsErrors | cmdlineModified => exact ⟨active, main, foreign, inMain⟩

theorem Compare.assignDefault (compared : Compare Related left right) (shown : Bool)
    (owned : left.cmdlineModified = right.cmdlineModified) :
    Compare Related (left.assignDefault shown) (right.assignDefault shown) := by
  obtain ⟨active, main, _, inMain⟩ := compared
  simp only [Standing.assignDefault, owned]
  cases right.cmdlineModified with
  | true => exact ⟨active, main, reflexive shown, inMain⟩
  | false => exact ⟨reflexive shown, reflexive shown, reflexive shown, inMain⟩

/-- A change that finds the marks that it consults alike keeps the comparison. -/
theorem Compare.apply (compared : Compare Related left right) {change : Change}
    (consults : change.ConsultsAlike left right) :
    Compare Related (left.apply change) (right.apply change) := by
  cases change with
  | assign axis shown => exact compared.assign reflexive shown consults
  | assignFromCommandLine axis shown => exact compared.assignFromCommandLine reflexive axis shown
  | assignDefault shown => exact compared.assignDefault reflexive shown consults
  | adoptPreset member => exact compared.adoptPreset (reflexive member) consults
  | replaceForeign member =>
      exact ⟨compared.active, compared.mainPackage, reflexive member, compared.inMain⟩
  | enter inMain => exact compared.enter inMain
  | elsewhere => exact compared

end

/-! ## Marks -/

/-- The kind has the same marks in both standings. -/
structure SameMarks (left right : Standing) : Prop where
  cmdlineModified : left.cmdlineModified = right.cmdlineModified
  explicit : left.explicit = right.explicit

variable {left right : Standing}

theorem SameMarks.isOwned_eq (same : left.SameMarks right) (axis : Axis) :
    left.isOwned axis = right.isOwned axis := by
  rw [isOwned, isOwned, same.cmdlineModified]

theorem SameMarks.consultsAlike (same : left.SameMarks right) (change : Change) :
    change.ConsultsAlike left right := by
  cases change with
  | assign axis shown => exact same.isOwned_eq axis
  | assignDefault shown => exact same.cmdlineModified
  | adoptPreset member =>
      rw [Change.ConsultsAlike, isModified, isModified, same.cmdlineModified, same.explicit]
  | assignFromCommandLine | replaceForeign | enter | elsewhere => trivial

theorem SameMarks.write (same : left.SameMarks right) (axis : Axis) (shown : Bool) :
    (left.write axis shown).SameMarks (right.write axis shown) := by
  cases axis with
  | cmdlineModified => exact ⟨rfl, same.explicit⟩
  | active | mainPackage | foreignPackage | warningsAsErrors | hintsAsErrors =>
      exact ⟨same.cmdlineModified, same.explicit⟩

theorem SameMarks.assign (same : left.SameMarks right) (axis : Axis) (shown : Bool) :
    (left.assign axis shown).SameMarks (right.assign axis shown) := by
  have written := same.write axis shown
  simp only [Standing.assign, same.isOwned_eq axis]
  split
  · exact same
  · split
    · exact written
    · exact ⟨written.cmdlineModified, rfl⟩

/-- No change asks what is shown before it leaves a mark. -/
theorem SameMarks.apply (same : left.SameMarks right) (change : Change) :
    (left.apply change).SameMarks (right.apply change) := by
  cases change with
  | assign axis shown => exact same.assign axis shown
  | assignFromCommandLine axis shown =>
      cases axis with
      | _ => exact ⟨rfl, same.explicit⟩
  | assignDefault | adoptPreset | replaceForeign | enter | elsewhere =>
      exact ⟨same.cmdlineModified, same.explicit⟩

end Frontend.Standing
