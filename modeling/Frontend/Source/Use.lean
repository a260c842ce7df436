import Frontend.Source.Table

/-!
# Using the table of source files

What is done with a table over time, as data, so that a run is a list. Files are registered, changed
and asked, and asking changes what is kept of a file. Each use meets the file tree of its moment.
-/

namespace Frontend.SourceTable

/-- The table after a file was changed or asked; an index without a file changes nothing. -/
def after {α : Type} (table : SourceTable) (index : FileIndex)
    (ask : SourceFile → α × SourceFile) : SourceTable :=
  match table.modifyGet? index ask with
  | some (_, changed) => changed
  | none => table

/-- One use of a table. -/
inductive Use where
  | register (path shownPath : Path)
  | setBuffer (index : FileIndex) (content : Option String)
  | setDirty (index : FileIndex) (path : Option Path)
  /-- Asks for the lines of a file, or for their number. -/
  | lines (index : FileIndex)
  | line (index : FileIndex) (number : Nat)
  | digest (index : FileIndex)
  | lineAt (location : Location)
  | digestAll
deriving DecidableEq

/-- The table after one use. -/
def perform (table : SourceTable) (tree : FileTree) : Use → SourceTable
  | .register path shownPath => (table.register path shownPath).2
  | .setBuffer index content => table.after index fun file => ((), file.setBuffer content)
  | .setDirty index path => table.after index fun file => ((), file.setDirty path)
  | .lines index => table.after index (·.lines tree)
  | .line index number => table.after index (·.line tree number)
  | .digest index => table.after index (·.digest tree)
  | .lineAt location => (table.lineAt tree location).2
  | .digestAll => table.digestAll tree

/-- The table after a list of uses, first to last, each with the tree that it meets. -/
def performAll (table : SourceTable) (uses : List (FileTree × Use)) : SourceTable :=
  uses.foldl (fun table use => table.perform use.1 use.2) table

@[simp]
theorem performAll_nil (table : SourceTable) : table.performAll [] = table :=
  rfl

@[simp]
theorem performAll_cons (table : SourceTable) (tree : FileTree) (use : Use)
    (uses : List (FileTree × Use)) :
    table.performAll ((tree, use) :: uses) = (table.perform tree use).performAll uses :=
  rfl

/-! ## What one use does -/

namespace Use

/-- The use changes or asks the file at a position. -/
def concerns (use : Use) (position : Nat) : Bool :=
  match use with
  | .register _ _ => false
  | .setBuffer index _ | .setDirty index _ | .lines index | .line index _ | .digest index =>
      index.position? = some position
  | .lineAt location => location.file.position? = some position
  | .digestAll => true

/-- What a use makes of a file that it concerns. -/
def change (use : Use) (tree : FileTree) (file : SourceFile) : SourceFile :=
  match use with
  | .register _ _ => file
  | .setBuffer _ content => file.setBuffer content
  | .setDirty _ path => file.setDirty path
  | .lines _ => (file.lines tree).2
  | .line _ number => (file.line tree number).2
  | .lineAt location => (file.line tree location.line.toNat).2
  | .digest _ | .digestAll => (file.digest tree).2

/-- What a use makes of the file at a position. -/
def effect (use : Use) (tree : FileTree) (position : Nat) (file : SourceFile) : SourceFile :=
  if use.concerns position then use.change tree file else file

/-- The file that a use adds at the end, if any. -/
def addition? (use : Use) (table : SourceTable) : Option SourceFile :=
  match use with
  | .register path shownPath =>
      if table.indexOf? path = none then some (.fresh path.normal shownPath) else none
  | .setBuffer _ _ | .setDirty _ _ | .lines _ | .line _ _ | .digest _ | .lineAt _ | .digestAll =>
      none

theorem addition?_eq_some_iff {use : Use} {table : SourceTable} {file : SourceFile} :
    use.addition? table = some file ↔
      ∃ path shownPath, use = .register path shownPath ∧ table.indexOf? path = none ∧
        file = .fresh path.normal shownPath := by
  constructor
  · intro added
    cases use with
    | register path shownPath =>
        rw [addition?] at added
        split at added
        · rename_i unknown
          cases added
          exact ⟨path, shownPath, rfl, unknown, rfl⟩
        · cases added
    | setBuffer | setDirty | lines | line | digest | lineAt | digestAll => cases added
  · rintro ⟨path, shownPath, rfl, unknown, rfl⟩
    rw [addition?, if_pos unknown]

end Use

theorem register_of_known {table : SourceTable} {path : Path} {index : FileIndex}
    (known : table.indexOf? path = some index) (shownPath : Path) :
    table.register path shownPath = (index, table) := by
  rw [register, known]

theorem register_of_unknown {table : SourceTable} {path : Path}
    (unknown : table.indexOf? path = none) (shownPath : Path) :
    table.register path shownPath =
      (.ofPosition table.size,
        { files := table.files ++ [.fresh path.normal shownPath]
          indices := table.indices.insert path.normal.components (.ofPosition table.size) }) := by
  rw [register, unknown]

section

variable {α : Type} (table : SourceTable) (index : FileIndex) (ask : SourceFile → α × SourceFile)

theorem indices_after : (table.after index ask).indices = table.indices := by
  unfold after modifyGet?
  cases index.position? with
  | none => rfl
  | some position =>
      cases there : table.files[position]? with
      | none => simp [there]
      | some file => simp [there]

/-- Only the file with the index is replaced. -/
theorem files_after :
    (table.after index ask).files =
      table.files.mapIdx fun position file =>
        if index.position? = some position then (ask file).2 else file := by
  apply List.ext_getElem?
  intro other
  rw [List.getElem?_mapIdx]
  unfold after modifyGet?
  cases index.position? with
  | none => simp
  | some position =>
      by_cases here : position = other
      · subst here
        cases there : table.files[position]? with
        | none => simp [there]
        | some file =>
            obtain ⟨inside, -⟩ := List.getElem?_eq_some_iff.mp there
            simp [there, List.getElem?_set_self inside]
      · cases there : table.files[position]? with
        | none => simp [there, here]
        | some file => simp [there, here]

end

section

variable (table : SourceTable) (tree : FileTree)

theorem lineAt_snd (location : Location) :
    (table.lineAt tree location).2 =
      table.after location.file fun file => file.line tree location.line.toNat := by
  unfold lineAt after
  cases table.modifyGet? location.file fun file => file.line tree location.line.toNat <;> rfl

theorem modify_append_cons (front back : List SourceFile) (file : SourceFile)
    (change : SourceFile → SourceFile) :
    (front ++ file :: back).modify front.length change = front ++ change file :: back := by
  induction front with
  | nil => rfl
  | cons first front ih => simp [ih]

/-- The files after `front` get the digests that are pending for them. -/
theorem keepDigests_pending (front files : List SourceFile) :
    keepDigests (front ++ files)
        (((files.zipIdx front.length).filterMap readingFor?).map fun reading =>
          (reading.position, reading.digest tree)) =
      front ++ files.map fun file => (file.digest tree).2 := by
  induction files generalizing front with
  | nil => simp [keepDigests]
  | cons file rest ih =>
      have later := ih (front ++ [(file.digest tree).2])
      simp only [List.append_assoc, List.cons_append, List.nil_append, List.length_append,
        List.length_cons, List.length_nil, Nat.zero_add] at later
      rw [List.map_cons, ← later, List.zipIdx_cons]
      cases kept : file.keptDigest with
      | some digest => simp [readingFor?, SourceFile.digest, kept]
      | none =>
          have reads : readingFor? (file, front.length) =
              some ⟨front.length, file.content, file.readPath⟩ := by
            simp [readingFor?, kept]
          have stored : (front ++ file :: rest).modify front.length
              (·.keepDigest (SourceFile.digestOf (file.bytes? tree))) =
                front ++ (file.digest tree).2 :: rest := by
            rw [modify_append_cons, SourceFile.digest, kept]
          rw [← stored, List.filterMap_cons_some reads]
          rfl

/-- Reading all files before any digest is kept comes to the same as asking one file after the other
for its digest. -/
theorem digestAll_eq :
    table.digestAll tree =
      { table with files := table.files.map fun file => (file.digest tree).2 } := by
  have all := keepDigests_pending tree [] table.files
  rw [digestAll, pending]
  exact congrArg (fun files => { table with files := files }) all

/-- An added file is numbered under its path, and else the indices stay. -/
theorem indices_perform (use : Use) :
    (table.perform tree use).indices =
      match use.addition? table with
      | some file => table.indices.insert file.normalPath.components (.ofPosition table.size)
      | none => table.indices := by
  cases use with
  | register path shownPath =>
      rw [Use.addition?]
      cases known : table.indexOf? path with
      | none =>
          rw [perform, register_of_unknown known]
          rfl
      | some index =>
          rw [perform, register_of_known known]
          rfl
  | lineAt location =>
      rw [perform, lineAt_snd]
      exact table.indices_after location.file _
  | digestAll => rfl
  | setBuffer index | setDirty index | lines index | line index | digest index =>
      exact table.indices_after index _

/-- Each file becomes what the use makes of it, and at most one file is added at the end. -/
theorem files_perform (use : Use) :
    (table.perform tree use).files =
      table.files.mapIdx (use.effect tree) ++ (use.addition? table).toList := by
  cases use with
  | register path shownPath =>
      have kept : table.files.mapIdx (Use.effect (.register path shownPath) tree) =
          table.files := by
        apply List.ext_getElem?
        intro position
        rw [List.getElem?_mapIdx]
        cases table.files[position]? <;> rfl
      rw [kept, Use.addition?]
      cases known : table.indexOf? path with
      | none => simp [perform, register_of_unknown known]
      | some index => simp [perform, register_of_known known]
  | digestAll =>
      have asked : table.files.mapIdx (Use.effect .digestAll tree) =
          table.files.map fun file => (file.digest tree).2 := by
        apply List.ext_getElem?
        intro position
        rw [List.getElem?_mapIdx, List.getElem?_map]
        rfl
      rw [perform, digestAll_eq, asked]
      exact (List.append_nil _).symm
  | lineAt location =>
      rw [perform, lineAt_snd, files_after, Use.addition?, Option.toList_none, List.append_nil]
      congr 1
      funext position file
      simp [Use.effect, Use.concerns, Use.change]
  | setBuffer index | setDirty index | lines index | line index | digest index =>
      rw [perform, files_after, Use.addition?, Option.toList_none, List.append_nil]
      congr 1
      funext position file
      simp [Use.effect, Use.concerns, Use.change]

/-- A file stays under its index. -/
theorem get?_perform {index : FileIndex} {file : SourceFile}
    (found : table.get? index = some file) (use : Use) :
    ∃ position, index.position? = some position ∧
      (table.perform tree use).get? index = some (use.effect tree position file) := by
  obtain ⟨position, isPosition, there⟩ := get?_eq_some_iff.mp found
  have kept : (table.files.mapIdx (use.effect tree))[position]? =
      some (use.effect tree position file) := by
    rw [List.getElem?_mapIdx, there]
    rfl
  refine ⟨position, isPosition, get?_eq_some_iff.mpr ⟨position, isPosition, ?_⟩⟩
  rw [files_perform, List.getElem?_append_left (List.getElem?_eq_some_iff.mp kept).1, kept]

end

end Frontend.SourceTable
