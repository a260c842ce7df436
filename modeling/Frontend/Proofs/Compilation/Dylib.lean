import Mathlib.Data.List.TakeWhile
import Frontend.Compilation.Basic
import Frontend.Proofs.Path.Extension

/-!
# Overridden dynamic libraries

A dynamic library is looked up by its base name, whatever directory, mark and version stand around
it in a file name. The mark is taken away once, and from a bare name too. So a decorated file name
and the bare name meet in one base name exactly when the bare name does not itself begin with the
mark; one that does is taken for the file name of another library.
-/

namespace Frontend.Compilation

/-! ## Bare names and decorations -/

/-- A library name without decoration: not empty, and without slashes, dots and parentheses. -/
structure IsBareDylib (name : String) : Prop where
  nonempty : name ≠ ""
  whole : '/' ∉ name.toList
  dotless : '.' ∉ name.toList
  unbracketed : '(' ∉ name.toList ∧ ')' ∉ name.toList

/-- What may stand around a marked name: a directory or nothing before it, and after it nothing or
what begins with a dot or a parenthesis. -/
structure IsDylibDecoration (directory suffix : String) : Prop where
  closed : directory = "" ∨ directory.toList.getLast? = some '/'
  whole : '/' ∉ suffix.toList
  marked : suffix = "" ∨ suffix.toList.head? = some '.' ∨ suffix.toList.head? = some '('

instance (name : String) : Decidable (IsBareDylib name) :=
  decidable_of_iff (name ≠ "" ∧ '/' ∉ name.toList ∧ '.' ∉ name.toList ∧
      '(' ∉ name.toList ∧ ')' ∉ name.toList)
    ⟨fun parts => ⟨parts.1, parts.2.1, parts.2.2.1, parts.2.2.2⟩,
      fun bare => ⟨bare.nonempty, bare.whole, bare.dotless, bare.unbracketed⟩⟩

instance (directory suffix : String) : Decidable (IsDylibDecoration directory suffix) :=
  decidable_of_iff ((directory = "" ∨ directory.toList.getLast? = some '/') ∧
      '/' ∉ suffix.toList ∧
        (suffix = "" ∨ suffix.toList.head? = some '.' ∨ suffix.toList.head? = some '('))
    ⟨fun parts => ⟨parts.1, parts.2.1, parts.2.2⟩,
      fun decoration => ⟨decoration.closed, decoration.whole, decoration.marked⟩⟩

/-- The name begins with the mark of file names. -/
def BeginsMarked (name : String) : Prop :=
  ['l', 'i', 'b'] <+: name.toList

instance (name : String) : Decidable (BeginsMarked name) :=
  inferInstanceAs (Decidable (_ <+: _))

variable {directory name suffix : String}

theorem IsBareDylib.isName (bare : IsBareDylib name) : Path.IsName name := by
  obtain ⟨c, rest, chars⟩ := List.exists_cons_of_ne_nil
    (show name.toList ≠ [] by simpa using bare.nonempty)
  have first : c ∈ name.toList := by simp [chars]
  apply Path.isName_of_head? (c := c)
  · rw [chars, List.head?_cons]
  · rintro rfl
    exact bare.dotless first
  · exact bare.whole

theorem toList_marked (name suffix : String) :
    ("lib" ++ name ++ suffix).toList = 'l' :: 'i' :: 'b' :: (name.toList ++ suffix.toList) := by
  simp

theorem IsDylibDecoration.isName (decoration : IsDylibDecoration directory suffix)
    (bare : IsBareDylib name) : Path.IsName ("lib" ++ name ++ suffix) := by
  apply Path.isName_of_head? (c := 'l')
  · rw [toList_marked, List.head?_cons]
  · decide
  · simp [bare.whole, decoration.whole]

/-! ## Base names -/

theorem dylibName_of_fileName? {library file : String}
    (isFile : (Path.mk library).fileName? = some file) :
    dylibName library = String.ofList
      ((if ['l', 'i', 'b'].isPrefixOf file.toList then file.toList.drop 3
        else file.toList).takeWhile fun c => c ≠ '(' && c ≠ ')' && c ≠ '.') := by
  rw [dylibName, isFile, Option.getD_some]

theorem IsBareDylib.takeWhile_eq (bare : IsBareDylib name) :
    ∀ c ∈ name.toList, (c ≠ '(' && c ≠ ')' && c ≠ '.') = true := by
  intro c member
  have dot : c ≠ '.' := by
    rintro rfl
    exact bare.dotless member
  have opening : c ≠ '(' := by
    rintro rfl
    exact bare.unbracketed.1 member
  have closing : c ≠ ')' := by
    rintro rfl
    exact bare.unbracketed.2 member
  simp [dot, opening, closing]

/-- The base name of a decorated file name is the name that was decorated. -/
theorem dylibName_decorated (bare : IsBareDylib name)
    (decoration : IsDylibDecoration directory suffix) :
    dylibName (directory ++ "lib" ++ name ++ suffix) = name := by
  have isFile : (Path.mk (directory ++ "lib" ++ name ++ suffix)).fileName? =
      some ("lib" ++ name ++ suffix) := by
    have named := Path.fileName?_append (decoration.isName bare) decoration.closed
    rwa [← String.append_assoc, ← String.append_assoc] at named
  have cut : suffix.toList.takeWhile (fun c => c ≠ '(' && c ≠ ')' && c ≠ '.') = [] := by
    rcases decoration.marked with rfl | dot | opening
    · rfl
    · obtain ⟨rest, written⟩ := List.head?_eq_some_iff.mp dot
      rw [written]
      rfl
    · obtain ⟨rest, written⟩ := List.head?_eq_some_iff.mp opening
      rw [written]
      rfl
  rw [dylibName_of_fileName? isFile, toList_marked]
  simp only [List.isPrefixOf_cons_cons, List.isPrefixOf_nil_left, beq_self_eq_true, Bool.and_self,
    if_true, List.drop_succ_cons, List.drop_zero]
  rw [List.takeWhile_append_of_pos bare.takeWhile_eq, cut, List.append_nil, String.ofList_toList]

/-- A bare name is its own base name, unless it begins with the mark, which is then lost. -/
theorem dylibName_eq_self_iff (bare : IsBareDylib name) :
    dylibName name = name ↔ ¬BeginsMarked name := by
  have isFile : (Path.mk name).fileName? = some name := by
    simpa using Path.fileName?_append bare.isName (.inl rfl)
  rw [dylibName_of_fileName? isFile]
  by_cases marked : BeginsMarked name
  · rw [if_pos (List.isPrefixOf_iff_prefix.mpr marked)]
    simp only [marked, not_true_eq_false, iff_false]
    intro same
    obtain ⟨rest, written⟩ := marked
    have chars := congrArg String.toList same
    rw [← written] at chars
    have shorter := congrArg List.length chars
    have most := (List.takeWhile_sublist (l := rest) fun c =>
      c ≠ '(' && c ≠ ')' && c ≠ '.').length_le
    simp at shorter most
    omega
  · rw [if_neg (by rwa [List.isPrefixOf_iff_prefix])]
    simp only [marked, not_false_eq_true, iff_true]
    rw [← String.toList_inj, String.toList_ofList]
    exact List.takeWhile_eq_self_iff.mpr bare.takeWhile_eq

/-! ## Overrides -/

theorem overridesDylib_overrideDylib (compilation : Compilation) (library other : String) :
    (compilation.overrideDylib library).overridesDylib other = true ↔
      dylibName other = dylibName library ∨ compilation.overridesDylib other = true := by
  simp [overridesDylib, overrideDylib]

/-- A library that is overridden by its bare name is recognised under each decorated file name, and
one that is overridden by a decorated file name under its bare name, unless the bare name begins
with the mark: then neither override says anything about the other spelling. -/
theorem decorated_dylib_is_recognised_unless_marked (compilation : Compilation)
    (bare : IsBareDylib name) (decoration : IsDylibDecoration directory suffix) :
    let file := directory ++ "lib" ++ name ++ suffix
    ((compilation.overrideDylib name).overridesDylib file = true ↔
        ¬BeginsMarked name ∨ compilation.overridesDylib file = true) ∧
      ((compilation.overrideDylib file).overridesDylib name = true ↔
        ¬BeginsMarked name ∨ compilation.overridesDylib name = true) := by
  intro file
  have base : dylibName file = name := dylibName_decorated bare decoration
  rw [overridesDylib_overrideDylib, overridesDylib_overrideDylib, base, eq_comm,
    dylibName_eq_self_iff bare]
  exact ⟨Iff.rfl, Iff.rfl⟩

/-- A library of the system with a pattern of versions behind its name. -/
theorem decorated_dylib_is_recognised_unless_marked_ssl :
    let start := initial defaultManualUrl
    IsBareDylib "ssl" ∧ IsDylibDecoration "/usr/lib/" ".so(.1.1|)" ∧
      (start.overrideDylib "ssl").overridesDylib "/usr/lib/libssl.so(.1.1|)" = true ∧
      (start.overrideDylib "/usr/lib/libssl.so(.1.1|)").overridesDylib "ssl" = true := by
  intro start
  have bare : IsBareDylib "ssl" := by decide +kernel
  have decoration : IsDylibDecoration "/usr/lib/" ".so(.1.1|)" := by decide +kernel
  have unmarked : ¬BeginsMarked "ssl" := by decide +kernel
  obtain ⟨byName, byFile⟩ :=
    decorated_dylib_is_recognised_unless_marked start bare decoration
  exact ⟨bare, decoration, byName.mpr (.inl unmarked), byFile.mpr (.inl unmarked)⟩

/-- The library whose bare name is `libre` is not recognised under its file name, nor the other way
round: its bare name is taken for a file name of the library `re`. -/
theorem marked_dylib_is_not_recognised :
    let start := initial defaultManualUrl
    IsBareDylib "libre" ∧ IsDylibDecoration "/usr/lib/" ".so" ∧
      (start.overrideDylib "libre").overridesDylib "/usr/lib/liblibre.so" = false ∧
      (start.overrideDylib "/usr/lib/liblibre.so").overridesDylib "libre" = false ∧
      (start.overrideDylib "libre").overridesDylib "re" = true := by
  decide +kernel

end Frontend.Compilation
