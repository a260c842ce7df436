import Frontend.Compilation.Basic
import Frontend.Proofs.Path.Relative
import Frontend.Source.Use

/-!
# Spellings of a registered path

A source file is found again under every spelling of its path, since the table looks at normal forms.
The path under which it is shown is however made relative to the project as it is written when the
file is registered first. So two spellings of one path lead to the same index and to tables that
differ at most in one shown path, and whether that one leads on from the project is decided by the
spelling: it does if the spelling takes no step to a parent.
-/

namespace Frontend

/-! ## Tables up to shown paths -/

/-- The file without the path under which it is shown. -/
def SourceFile.unnamed (file : SourceFile) : SourceFile :=
  { file with shownPath := ⟨""⟩ }

namespace SourceTable

/-- The table without the paths under which its files are shown. -/
def unnamed (table : SourceTable) : SourceTable :=
  { table with files := table.files.map SourceFile.unnamed }

variable {table other : SourceTable}

theorem get?_unnamed (table : SourceTable) (index : FileIndex) :
    table.unnamed.get? index = (table.get? index).map SourceFile.unnamed := by
  unfold get? unnamed
  cases index.position? with
  | none => rfl
  | some position => exact List.getElem?_map

/-- Full paths are shown whatever the shown paths are. -/
theorem nameOf_unnamed (table : SourceTable) (index : FileIndex) :
    table.unnamed.nameOf index true = table.nameOf index true := by
  rw [nameOf, nameOf, get?_unnamed]
  cases table.get? index with
  | none => rfl
  | some file => rfl

theorem locationText_eq_of_unnamed (same : table.unnamed = other.unnamed) (location : Location) :
    table.locationText location true = other.locationText location true := by
  rw [locationText, locationText, ← table.nameOf_unnamed, ← other.nameOf_unnamed, same]

/-- Spellings with one normal form have the same index. -/
theorem indexOf?_eq_of_normal {first second : Path} (same : first.normal = second.normal)
    (table : SourceTable) : table.indexOf? first = table.indexOf? second := by
  rw [indexOf?, indexOf?, same]

/-- Spellings with one normal form get the same index, in tables that differ at most in what is
shown. -/
theorem register_eq_of_normal {first second : Path} (same : first.normal = second.normal)
    (table : SourceTable) (shown shown' : Path) :
    (table.register first shown).1 = (table.register second shown').1 ∧
      (table.register first shown).2.unnamed = (table.register second shown').2.unnamed := by
  have alike := table.indexOf?_eq_of_normal same
  cases known : table.indexOf? second with
  | some index =>
      rw [known] at alike
      rw [register_of_known alike, register_of_known known]
      exact ⟨rfl, rfl⟩
  | none =>
      rw [known] at alike
      rw [register_of_unknown alike, register_of_unknown known, same, unnamed, unnamed,
        List.map_append, List.map_append]
      exact ⟨rfl, rfl⟩

/-- The new file stands at its index, and the others where they stood. -/
theorem get?_register_of_unknown {path : Path} (unknown : table.indexOf? path = none)
    (room : table.size ≤ FileIndex.greatest) (shown : Path) (index : FileIndex) :
    (table.register path shown).2.get? index =
      if index = .ofPosition table.size then some (.fresh path.normal shown)
      else table.get? index := by
  rw [register_of_unknown unknown]
  split
  · next new =>
      rw [get?, new, FileIndex.position?_ofPosition room]
      exact List.getElem?_concat_length
  · next old =>
      unfold get?
      cases found : index.position? with
      | none => rfl
      | some position =>
          have elsewhere : position ≠ table.files.length := by
            rintro rfl
            exact old (FileIndex.position?_eq_some_iff.mp found).2
          rcases Nat.lt_or_gt_of_ne elsewhere with inside | beyond
          · exact List.getElem?_append_left inside
          · have absent : table.files[position]? = none :=
              List.getElem?_eq_none (Nat.le_of_lt beyond)
            have stillAbsent :
                (table.files ++ [SourceFile.fresh path.normal shown])[position]? = none := by
              rw [List.getElem?_eq_none_iff, List.length_append]
              exact beyond
            exact stillAbsent.trans absent.symm

/-- Only the name of the new file is new. -/
theorem nameOf_register_of_unknown {path : Path} (unknown : table.indexOf? path = none)
    (room : table.size ≤ FileIndex.greatest) (shown : Path) (index : FileIndex) (full : Bool) :
    (table.register path shown).2.nameOf index full =
      if index = .ofPosition table.size then
        if full then path.normal.forwardSlashes else shown.forwardSlashes
      else table.nameOf index full := by
  have found := get?_register_of_unknown unknown room shown index
  split at found
  · next new =>
      -- A reserved index would lead to no position.
      have position := FileIndex.position?_ofPosition room
      rw [← new] at position
      have notReserved : ∀ reserved : FileIndex, reserved.position? = none → index ≠ reserved := by
        rintro reserved none rfl
        rw [none] at position
        cases position
      have registered : ¬(index = .invalid ∨ index = .suppressed) := by
        rintro (invalid | suppressed)
        · exact notReserved .invalid rfl invalid
        · exact notReserved .suppressed rfl suppressed
      rw [nameOf, if_neg (notReserved .commandLine rfl), if_neg registered, found, if_pos new]
      rfl
  · next old => rw [nameOf, nameOf, found, if_neg old]

end SourceTable

/-- Different names show in every location. -/
theorem Location.textIn_inj (location : Location) {name other : String} :
    location.textIn name = location.textIn other ↔ name = other := by
  constructor
  · intro same
    rw [textIn, textIn] at same
    split at same
    · simpa [String.append_left_inj] using same
    · simpa [String.append_left_inj] using same
  · exact congrArg location.textIn

namespace Compilation

variable {first second : Path}

/-- Of two spellings of a new file, both give the same texts for all locations exactly if absolute
paths are asked for or the same text is left of both. -/
theorem locationText_registerSource_iff (compilation : Compilation)
    (same : first.normal = second.normal)
    (unknown : compilation.sources.indexOf? first = none)
    (room : compilation.sources.size ≤ FileIndex.greatest) :
    (∀ location, (compilation.registerSource first).2.locationText location =
        (compilation.registerSource second).2.locationText location) ↔
      compilation.options.fullPaths = true ∨
        (first.relativeTo compilation.resolver.project).forwardSlashes =
          (second.relativeTo compilation.resolver.project).forwardSlashes := by
  have unknown' : compilation.sources.indexOf? second = none :=
    (compilation.sources.indexOf?_eq_of_normal same).symm.trans unknown
  have texts (path : Path) (location : Location) :
      (compilation.registerSource path).2.locationText location =
        location.textIn ((compilation.sources.register path
          (path.relativeTo compilation.resolver.project)).2.nameOf location.file
            compilation.options.fullPaths) := rfl
  simp only [texts, Location.textIn_inj, SourceTable.nameOf_register_of_unknown unknown room,
    SourceTable.nameOf_register_of_unknown unknown' room, same]
  constructor
  · intro alike
    have new := alike ⟨0, 0, .ofPosition compilation.sources.size⟩
    rw [if_pos rfl, if_pos rfl] at new
    cases full : compilation.options.fullPaths with
    | true => exact Or.inl rfl
    | false =>
        rw [full] at new
        exact Or.inr new
  · rintro alike location
    rcases alike with full | shown
    · simp only [full, if_true]
    · rw [shown]

/-- The spelling under which a file is registered decides nothing but the path under which it is shown.
Two spellings with one normal form get the same index, and lead to tables that agree on the full path
and the name of every file and show the same absolute paths. A file that was registered before keeps
what it has. For a new one both give the same texts exactly if absolute paths are asked for or the
same text is left of both, relative to the project as they are written. Inside the project this leads
on from the project exactly if the spelling takes no step to a parent, and spellings without such
steps leave the same steps everywhere. -/
theorem spelling_decides_only_the_shown_path (compilation : Compilation)
    (same : first.normal = second.normal) (absolute : first.isAbsolute = true)
    (projectAbsolute : compilation.resolver.project.isAbsolute = true) :
    let project := compilation.resolver.project
    let one := compilation.registerSource first
    let other := compilation.registerSource second
    one.1 = other.1 ∧ one.2.sources.unnamed = other.2.sources.unnamed ∧
    (∀ location, one.2.sources.locationText location true =
      other.2.sources.locationText location true) ∧
    (∀ index, compilation.sources.indexOf? first = some index →
      one = (index, compilation) ∧ other = (index, compilation)) ∧
    (compilation.sources.indexOf? first = none →
      compilation.sources.size ≤ FileIndex.greatest →
      one.2.sources.get? one.1 = some (.fresh first.normal (first.relativeTo project)) ∧
      ((∀ location, one.2.locationText location = other.2.locationText location) ↔
        compilation.options.fullPaths = true ∨
          (first.relativeTo project).forwardSlashes = (second.relativeTo project).forwardSlashes)) ∧
    (project.components <+: first.normal.components →
      (project.components ++ (first.relativeTo project).components = first.normal.components ↔
        .parent ∉ first.components)) ∧
    (.parent ∉ first.components → .parent ∉ second.components →
      (first.relativeTo project).components = (second.relativeTo project).components) := by
  intro project one other
  obtain ⟨index, tables⟩ := SourceTable.register_eq_of_normal same compilation.sources
    (first.relativeTo project) (second.relativeTo project)
  refine ⟨index, tables, SourceTable.locationText_eq_of_unnamed tables, ?_, ?_, ?_, ?_⟩
  · intro known isKnown
    have isKnown' : compilation.sources.indexOf? second = some known :=
      (compilation.sources.indexOf?_eq_of_normal same).symm.trans isKnown
    have kept : one = (known, compilation) := by
      simp only [one, registerSource, SourceTable.register_of_known isKnown]
    have kept' : other = (known, compilation) := by
      simp only [other, registerSource, SourceTable.register_of_known isKnown']
    exact ⟨kept, kept'⟩
  · intro unknown room
    constructor
    · have new : one.1 = .ofPosition compilation.sources.size :=
        congrArg Prod.fst (SourceTable.register_of_unknown unknown _)
      have found := SourceTable.get?_register_of_unknown unknown room
        (first.relativeTo project) one.1
      rw [if_pos new] at found
      exact found
    · exact compilation.locationText_registerSource_iff same unknown room
  · exact Path.components_relativeTo_normal_iff absolute projectAbsolute
  · intro direct direct'
    have absolute' : second.isAbsolute = true := by
      rw [← second.isAbsolute_normal, ← same, first.isAbsolute_normal, absolute]
    apply Path.components_relativeTo_congr
    rw [(Path.components_eq_normal_iff absolute).mpr direct,
      (Path.components_eq_normal_iff absolute').mpr direct', same]

/-- A compilation of the project in one directory. -/
def compilationOf (project : Path) : Compilation :=
  let start := initial defaultManualUrl
  { start with resolver := { start.resolver with project := project } }

/-- A module of the project that is spelled with a detour inside of it has its index under either
spelling, but is not shown by its way from the project. -/
theorem spelling_decides_only_the_shown_path_detour :
    let compilation := compilationOf ⟨"/proj"⟩
    let first : Path := ⟨"/proj/src/../a.nim"⟩
    let second : Path := ⟨"/proj//a.nim"⟩
    first.normal = second.normal ∧ first.isAbsolute = true ∧ second.isAbsolute = true ∧
      compilation.resolver.project.isAbsolute = true ∧
      (compilation.registerSource first).1 = (compilation.registerSource second).1 ∧
      ¬ (∀ location, (compilation.registerSource first).2.locationText location =
        (compilation.registerSource second).2.locationText location) ∧
      compilation.resolver.project.components ++
          (second.relativeTo compilation.resolver.project).components =
        second.normal.components := by
  intro compilation first second
  have same : first.normal = second.normal := by decide +kernel
  have absolute : first.isAbsolute = true := by decide +kernel
  have absolute' : second.isAbsolute = true := by decide +kernel
  have projectAbsolute : compilation.resolver.project.isAbsolute = true := by decide +kernel
  obtain ⟨index, -, -, -, new, -, -⟩ :=
    compilation.spelling_decides_only_the_shown_path same absolute projectAbsolute
  obtain ⟨-, -, -, -, -, inside, -⟩ :=
    compilation.spelling_decides_only_the_shown_path same.symm absolute' projectAbsolute
  refine ⟨same, absolute, absolute', projectAbsolute, index, ?_, ?_⟩
  · rw [(new (by decide +kernel) (by decide)).2]
    decide +kernel
  · exact (inside (by decide +kernel)).mpr (by decide +kernel)

/-- The same file is shown by its way from the project, or by its absolute path with a detour, as it
was spelled when it was registered, and it stays so when it is registered again. -/
theorem spelling_changes_the_shown_path :
    let compilation := compilationOf ⟨"/proj"⟩
    let plain : Path := ⟨"/proj/a.nim"⟩
    let detour : Path := ⟨"/other/../proj/a.nim"⟩
    let one := compilation.registerSource plain
    let other := compilation.registerSource detour
    compilation.resolver.project.normal = compilation.resolver.project ∧
      compilation.resolver.project.isAbsolute = true ∧ plain.isAbsolute = true ∧
      detour.isAbsolute = true ∧ plain.normal = detour.normal ∧ one.1 = other.1 ∧
      one.2.locationText ⟨3, 7, one.1⟩ = "a.nim(3, 7)" ∧
      other.2.locationText ⟨3, 7, other.1⟩ = "/other/../proj/a.nim(3, 7)" ∧
      (other.2.registerSource plain).2.locationText ⟨3, 7, other.1⟩ =
        "/other/../proj/a.nim(3, 7)" := by
  decide +kernel

end Compilation

end Frontend
