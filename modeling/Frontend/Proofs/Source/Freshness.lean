import Frontend.Source.Use

/-!
# Kept lines and digests

What a file keeps was computed from the bytes that are still selected for it: whatever changes the
selection forgets both. While the file tree stays the same, every answer is therefore what reading
the file anew would give, and it does not matter whether digests are computed one by one, in any
order, or all together.
-/

namespace Frontend

namespace SourceFile

variable (tree : FileTree) (file : SourceFile)

/-- The bytes that are selected: buffered content, else the file that stands in, else the file under
the full path. -/
def selected? : Option (List UInt8) :=
  match file.content, file.dirty with
  | some content, _ => some (Text.Utf8.encode content)
  | none, some path => tree.read? path
  | none, none => tree.read? file.normalPath

theorem bytes?_eq_selected? : file.bytes? tree = file.selected? tree := by
  unfold bytes? bytesOf? selected? readPath
  cases file.content <;> cases file.dirty <;> rfl

/-- The lines that are selected; there are none when nothing can be read. -/
def selectedLines : List String :=
  ((file.selected? tree).map fun bytes => Text.lines (Text.Utf8.decode bytes)).getD []

theorem linesOf_bytes? : linesOf (file.bytes? tree) = file.selectedLines tree := by
  rw [bytes?_eq_selected?, selectedLines]
  cases file.selected? tree <;> rfl

/-- All that can be learnt of a file. -/
structure Answers where
  normalPath : Path
  shownPath : Path
  baseName : String
  shownName : Bool → String
  dirty : Option Path
  content : Option String
  readPath : Path
  lines : List String
  line : Nat → Option String
  digest : Option (List UInt8)

/-- What a file answers. -/
def answers : Answers where
  normalPath := file.normalPath
  shownPath := file.shownPath
  baseName := file.baseName
  shownName := file.shownName
  dirty := file.dirty
  content := file.content
  readPath := file.readPath
  lines := (file.lines tree).1
  line number := (file.line tree number).1
  digest := (file.digest tree).1

/-- What the file keeps comes from the selected bytes. -/
structure UpToDate : Prop where
  lines : ∀ kept, file.keptLines = some kept → kept = linesOf (file.bytes? tree)
  digest : ∀ kept, file.keptDigest = some kept → kept = digestOf (file.bytes? tree)

theorem upToDate_forget : file.forget.UpToDate tree := by
  constructor <;> rintro kept ⟨⟩

theorem upToDate_fresh (path shownPath : Path) : (fresh path shownPath).UpToDate tree := by
  constructor <;> rintro kept ⟨⟩

variable {tree file}

namespace UpToDate

theorem lines_fst (upToDate : file.UpToDate tree) :
    (file.lines tree).1 = file.selectedLines tree := by
  rw [← linesOf_bytes?, SourceFile.lines]
  cases kept : file.keptLines with
  | none => rfl
  | some lines => exact upToDate.lines lines kept

theorem lines_snd (upToDate : file.UpToDate tree) : (file.lines tree).2.UpToDate tree := by
  rw [SourceFile.lines]
  cases kept : file.keptLines with
  | none =>
      constructor
      · rintro lines ⟨⟩
        rfl
      · exact upToDate.digest
  | some lines => exact upToDate

theorem line_fst (upToDate : file.UpToDate tree) (number : Nat) :
    (file.line tree number).1 =
      if number = 0 then none else (file.selectedLines tree)[number - 1]? := by
  cases number with
  | zero => rfl
  | succ number =>
      rw [← upToDate.lines_fst]
      rfl

theorem line_snd (upToDate : file.UpToDate tree) (number : Nat) :
    (file.line tree number).2.UpToDate tree := by
  cases number with
  | zero => exact upToDate
  | succ number => exact upToDate.lines_snd

theorem digest_fst (upToDate : file.UpToDate tree) :
    (file.digest tree).1 = (file.selected? tree).map Digest.sha256 := by
  rw [← bytes?_eq_selected?, SourceFile.digest]
  cases kept : file.keptDigest with
  | none => rfl
  | some digest => exact upToDate.digest digest kept

theorem digest_snd (upToDate : file.UpToDate tree) : (file.digest tree).2.UpToDate tree := by
  rw [SourceFile.digest]
  cases kept : file.keptDigest with
  | none =>
      constructor
      · exact upToDate.lines
      · rintro digest ⟨⟩
        rfl
  | some digest => exact upToDate

/-- What is kept makes no difference to the answers. -/
theorem answers_forget (upToDate : file.UpToDate tree) :
    file.forget.answers tree = file.answers tree := by
  have forgotten := upToDate_forget tree file
  unfold answers
  simp only [upToDate.lines_fst, forgotten.lines_fst, upToDate.line_fst, forgotten.line_fst,
    upToDate.digest_fst, forgotten.digest_fst]
  rfl

end UpToDate

end SourceFile

namespace SourceTable

/-! ## Every list of uses -/

namespace Use

/-- The buffered content of the file with an index after a use, from what it was before. -/
def contentAfter (use : Use) (index : FileIndex) (before : Option String) : Option String :=
  match use with
  | .setBuffer changed content => if changed = index then content else before
  | _ => before

/-- The file that stands in for the file with an index after a use, from what it was before. -/
def dirtyAfter (use : Use) (index : FileIndex) (before : Option Path) : Option Path :=
  match use with
  | .setDirty changed path => if changed = index then path else before
  | _ => before

end Use

/-- One use keeps a file up to date, if it meets the same tree. -/
theorem Use.upToDate_change (use : Use) {tree : FileTree} {file : SourceFile}
    (upToDate : file.UpToDate tree) : (use.change tree file).UpToDate tree := by
  cases use with
  | register => exact upToDate
  | setBuffer | setDirty => exact SourceFile.upToDate_forget tree _
  | lines => exact upToDate.lines_snd
  | line | lineAt => exact upToDate.line_snd _
  | digest | digestAll => exact upToDate.digest_snd

/-- All files are up to date. -/
def UpToDate (table : SourceTable) (tree : FileTree) : Prop :=
  ∀ file ∈ table.files, file.UpToDate tree

theorem UpToDate.perform {table : SourceTable} {tree : FileTree} (upToDate : table.UpToDate tree)
    (use : Use) : (table.perform tree use).UpToDate tree := by
  intro file member
  rw [files_perform] at member
  rcases List.mem_append.mp member with old | new
  · obtain ⟨position, inside, rfl⟩ := List.mem_mapIdx.mp old
    have before := upToDate _ (List.getElem_mem inside)
    unfold Use.effect
    split
    · exact use.upToDate_change before
    · exact before
  · obtain ⟨path, shownPath, -, -, rfl⟩ := Use.addition?_eq_some_iff.mp (Option.mem_toList.mp new)
    exact SourceFile.upToDate_fresh tree path.normal shownPath

/-- The table after a list of uses that all meet one tree. -/
def performUnder (table : SourceTable) (tree : FileTree) (uses : List Use) : SourceTable :=
  table.performAll (uses.map fun use => (tree, use))

theorem UpToDate.performUnder {table : SourceTable} {tree : FileTree}
    (upToDate : table.UpToDate tree) (uses : List Use) :
    (table.performUnder tree uses).UpToDate tree := by
  induction uses generalizing table with
  | nil => exact upToDate
  | cons use uses ih => exact ih (upToDate.perform use)

theorem upToDate_empty (tree : FileTree) : empty.UpToDate tree :=
  fun _ member => nomatch member

/-- The file with an index after one use: only a change of its buffer or of the file that stands in
reaches what is selected for it. -/
theorem selection_perform {table : SourceTable} {index : FileIndex} {file : SourceFile}
    (found : table.get? index = some file) (tree : FileTree) (use : Use) :
    ∃ later, (table.perform tree use).get? index = some later ∧
      later.normalPath = file.normalPath ∧
      later.content = use.contentAfter index file.content ∧
      later.dirty = use.dirtyAfter index file.dirty := by
  obtain ⟨position, isPosition, next⟩ := table.get?_perform tree found use
  have isFile (other : FileIndex) : other.position? = some position ↔ other = index := by
    rw [FileIndex.position?_eq_some_iff, (FileIndex.position?_eq_some_iff.mp isPosition).2,
      and_iff_right (FileIndex.position?_eq_some_iff.mp isPosition).1]
  refine ⟨_, next, ?_⟩
  have asked (later : SourceFile) (same : later.forget = file.forget) :
      later.normalPath = file.normalPath ∧ later.content = file.content ∧
        later.dirty = file.dirty := by
    have path := congrArg SourceFile.normalPath same
    have content := congrArg SourceFile.content same
    have dirty := congrArg SourceFile.dirty same
    exact ⟨path, content, dirty⟩
  cases use with
  | register => exact asked _ rfl
  | setBuffer changed content =>
      simp only [Use.effect, Use.concerns, Use.change, Use.contentAfter, Use.dirtyAfter,
        decide_eq_true_eq, isFile]
      split <;> exact ⟨rfl, rfl, rfl⟩
  | setDirty changed path =>
      simp only [Use.effect, Use.concerns, Use.change, Use.contentAfter, Use.dirtyAfter,
        decide_eq_true_eq, isFile]
      split <;> exact ⟨rfl, rfl, rfl⟩
  | lines | line | digest | lineAt | digestAll =>
      apply asked
      unfold Use.effect Use.change
      split <;> simp

/-! ## Forgetting everything -/

theorem Use.forget_change (use : Use) (tree : FileTree) (file : SourceFile) :
    (use.change tree file.forget).forget = (use.change tree file).forget := by
  cases use with
  | register | setBuffer | setDirty => rfl
  | lines | line | digest | lineAt | digestAll => simp [change]; rfl

/-- The table with nothing kept. -/
def forgetAll (table : SourceTable) : SourceTable :=
  { table with files := table.files.map SourceFile.forget }

theorem Use.forget_effect (use : Use) (tree : FileTree) (position : Nat) (file : SourceFile) :
    (use.effect tree position file.forget).forget = (use.effect tree position file).forget := by
  unfold effect
  split
  · exact use.forget_change tree file
  · rfl

theorem Use.addition?_forgetAll (use : Use) (table : SourceTable) :
    use.addition? table.forgetAll = use.addition? table := by
  cases use <;> rfl

/-- What is kept has no influence on what comes after it. -/
theorem forgetAll_perform (table : SourceTable) (tree : FileTree) (use : Use) :
    (table.forgetAll.perform tree use).forgetAll = (table.perform tree use).forgetAll := by
  have indices : (table.forgetAll.perform tree use).indices = (table.perform tree use).indices := by
    have size : table.forgetAll.size = table.size := List.length_map _
    rw [indices_perform, indices_perform, use.addition?_forgetAll, size]
    rfl
  have effects : ((table.files.map SourceFile.forget).mapIdx (use.effect tree)).map
      SourceFile.forget = (table.files.mapIdx (use.effect tree)).map SourceFile.forget := by
    apply List.ext_getElem?
    intro position
    simp only [List.getElem?_map, List.getElem?_mapIdx, Option.map_map]
    congr 1
    funext file
    exact use.forget_effect tree position file
  have files : (table.forgetAll.perform tree use).files.map SourceFile.forget =
      (table.perform tree use).files.map SourceFile.forget := by
    rw [files_perform, files_perform, List.map_append, List.map_append, use.addition?_forgetAll]
    exact congrArg (· ++ _) effects
  unfold forgetAll at *
  rw [indices, files]

theorem forgetAll_performUnder {table other : SourceTable}
    (same : table.forgetAll = other.forgetAll) (tree : FileTree) (uses : List Use) :
    (table.performUnder tree uses).forgetAll = (other.performUnder tree uses).forgetAll := by
  induction uses generalizing table other with
  | nil => exact same
  | cons use uses ih =>
      apply ih
      rw [← forgetAll_perform table, ← forgetAll_perform other, same]

section

variable (table : SourceTable)

theorem get?_forgetAll (index : FileIndex) :
    table.forgetAll.get? index = (table.get? index).map SourceFile.forget := by
  unfold get? forgetAll
  cases index.position? <;> simp

theorem locationText_forgetAll (location : Location) (full : Bool) :
    table.forgetAll.locationText location full = table.locationText location full := by
  rw [locationText, locationText, nameOf, nameOf, get?_forgetAll]
  cases table.get? location.file <;> rfl

theorem listing_forgetAll : table.forgetAll.listing = table.listing := by
  apply List.ext_getElem?
  intro position
  simp only [listing, forgetAll, List.getElem?_map, List.getElem?_zipIdx, Option.map_map]
  rfl

theorem lineAt_fst (tree : FileTree) (location : Location) :
    (table.lineAt tree location).1 =
      (table.get? location.file).bind fun file => (file.line tree location.line.toNat).1 := by
  unfold lineAt modifyGet? get?
  cases location.file.position? with
  | none => rfl
  | some position =>
      cases there : table.files[position]? with
      | none => simp [there]
      | some file => simp [there]

end

/-- All that can be learnt of a table and its files. -/
structure Answers where
  listing : List (FileIndex × Path)
  indexOf? : Path → Option FileIndex
  get? : FileIndex → Option SourceFile.Answers
  locationText : Location → Bool → String
  lineAt : Location → Option String

/-- What a table answers. -/
def answers (table : SourceTable) (tree : FileTree) : Answers where
  listing := table.listing
  indexOf? := table.indexOf?
  get? index := (table.get? index).map (·.answers tree)
  locationText := table.locationText
  lineAt location := (table.lineAt tree location).1

theorem UpToDate.of_get? {table : SourceTable} {tree : FileTree} (upToDate : table.UpToDate tree)
    {index : FileIndex} {file : SourceFile} (found : table.get? index = some file) :
    file.UpToDate tree := by
  obtain ⟨position, -, there⟩ := get?_eq_some_iff.mp found
  exact upToDate file (List.mem_of_getElem? there)

/-- What is kept makes no difference to the answers. -/
theorem UpToDate.answers_forgetAll {table : SourceTable} {tree : FileTree}
    (upToDate : table.UpToDate tree) : table.forgetAll.answers tree = table.answers tree := by
  have same {index : FileIndex} {file : SourceFile} (found : table.get? index = some file) :
      file.forget.answers tree = file.answers tree := (upToDate.of_get? found).answers_forget
  have files (index : FileIndex) : (table.forgetAll.get? index).map (·.answers tree) =
      (table.get? index).map (·.answers tree) := by
    rw [get?_forgetAll]
    cases found : table.get? index with
    | none => rfl
    | some file => exact congrArg some (same found)
  have lines (location : Location) :
      (table.forgetAll.lineAt tree location).1 = (table.lineAt tree location).1 := by
    rw [lineAt_fst, lineAt_fst, get?_forgetAll]
    cases found : table.get? location.file with
    | none => rfl
    | some file => exact congrFun (congrArg SourceFile.Answers.line (same found)) _
  unfold answers
  simp only [listing_forgetAll, files, lines]
  congr 1
  funext location full
  exact table.locationText_forgetAll location full

/-! ## Computing all digests -/

theorem forgetAll_digestAll (table : SourceTable) (tree : FileTree) :
    (table.digestAll tree).forgetAll = table.forgetAll := by
  rw [digestAll_eq]
  simp [forgetAll]

theorem digest_digest (tree : FileTree) (file : SourceFile) :
    ((file.digest tree).2.digest tree).2 = (file.digest tree).2 := by
  unfold SourceFile.digest
  cases kept : file.keptDigest with
  | none => rfl
  | some digest => simp [kept]

/-- Asking for digests one after the other keeps those of the files that were asked. -/
theorem performUnder_digest (table : SourceTable) (tree : FileTree) (order : List FileIndex) :
    table.performUnder tree (order.map .digest) =
      { table with files := table.files.mapIdx fun position file =>
          if ∃ index ∈ order, index.position? = some position then (file.digest tree).2
          else file } := by
  induction order generalizing table with
  | nil =>
      have unchanged : (table.files.mapIdx fun _ file => file) = table.files := by
        apply List.ext_getElem?
        simp
      simp [performUnder, unchanged]
  | cons index order ih =>
      have first : table.perform tree (.digest index) =
          { table with files := table.files.mapIdx (Use.effect (.digest index) tree) } := by
        have files := table.files_perform tree (.digest index)
        have indices : (table.perform tree (.digest index)).indices = table.indices :=
          table.indices_perform tree (.digest index)
        rw [Use.addition?, Option.toList_none, List.append_nil] at files
        rw [← files, ← indices]
      have rest := ih (table.perform tree (.digest index))
      rw [List.map_cons]
      change (table.perform tree (.digest index)).performUnder tree (order.map .digest) = _
      rw [rest, first]
      congr 1
      apply List.ext_getElem?
      intro position
      simp only [List.getElem?_mapIdx, Option.map_map]
      congr 1
      funext file
      simp only [Function.comp, Use.effect, Use.concerns, Use.change, decide_eq_true_eq,
        List.mem_cons, exists_eq_or_imp]
      by_cases asked : index.position? = some position
      · simp [asked, digest_digest]
      · simp [asked]

/-- While the file tree stays the same, what a table answers after any uses of it is what reading the
selected bytes anew would give. -/
theorem answers_stay_current (tree : FileTree) (uses : List Use) :
    let table := empty.performUnder tree uses
    -- Lines and digest are those of the bytes that are selected now.
    (∀ file ∈ table.files, (file.lines tree).1 = file.selectedLines tree ∧
        (file.digest tree).1 = (file.selected? tree).map Digest.sha256 ∧
        ∀ number, (file.line tree number).1 =
          if number = 0 then none else (file.selectedLines tree)[number - 1]?) ∧
      (∀ location, (table.lineAt tree location).1 =
        (table.get? location.file).bind fun file =>
          if location.line.toNat = 0 then none
          else (file.selectedLines tree)[location.line.toNat - 1]?) ∧
      -- What is selected changes with the buffer and the file that stands in, and with nothing else.
      (∀ index file use, table.get? index = some file →
        ∃ later, (table.perform tree use).get? index = some later ∧
          later.normalPath = file.normalPath ∧
          later.content = use.contentAfter index file.content ∧
          later.dirty = use.dirtyAfter index file.dirty) ∧
      -- Computing all digests at once changes no answer, then or later,
      (∀ more, ((table.digestAll tree).performUnder tree more).answers tree =
        (table.performUnder tree more).answers tree) ∧
      -- and comes to the same as asking each file, in any order.
      ∀ order : List FileIndex,
        (∀ position < table.size, ∃ index ∈ order, index.position? = some position) →
          table.performUnder tree (order.map .digest) = table.digestAll tree := by
  intro table
  have upToDate : table.UpToDate tree := (upToDate_empty tree).performUnder uses
  refine ⟨?_, ?_, ?_, ?_, ?_⟩
  · intro file member
    have current := upToDate file member
    exact ⟨current.lines_fst, current.digest_fst, current.line_fst⟩
  · intro location
    rw [lineAt_fst]
    cases found : table.get? location.file with
    | none => rfl
    | some file => exact (upToDate.of_get? found).line_fst location.line.toNat
  · intro index file use found
    exact selection_perform found tree use
  · intro more
    have digested : (table.digestAll tree).UpToDate tree := upToDate.perform .digestAll
    rw [← (digested.performUnder more).answers_forgetAll,
      ← (upToDate.performUnder more).answers_forgetAll,
      forgetAll_performUnder (table.forgetAll_digestAll tree)]
  · intro order covers
    rw [performUnder_digest, digestAll_eq]
    congr 1
    apply List.ext_getElem?
    intro position
    rw [List.getElem?_mapIdx, List.getElem?_map]
    rcases Nat.lt_or_ge position table.files.length with inside | outside
    · simp only [if_pos (covers position inside)]
    · rw [List.getElem?_eq_none outside]
      rfl

end SourceTable

end Frontend
