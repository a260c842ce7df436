import Mathlib.Algebra.Group.Nat.Defs
import Mathlib.Data.List.Nodup
import Frontend.Proofs.Path.NormalForm
import Frontend.Source.Use

/-!
# The numbering of source files

The table keeps its files twice: in the order of their indices, and by their paths. The two agree
because a file is registered under the normal form of its path, which has no other normal form and is
registered once. Nothing that is done with a table later changes what registration has fixed, so that
an index and the names shown for it mean the same for ever.
-/

namespace Frontend

/-! ## What registration fixes -/

namespace SourceFile

/-- What is fixed when a file is registered: its full path, the path under which it is shown, and its
name. -/
def identity (file : SourceFile) : Path × Path × String :=
  (file.normalPath, file.shownPath, file.baseName)

theorem identity_of_forget {file later : SourceFile} (same : later.forget = file.forget) :
    later.identity = file.identity := by
  have fixed := congrArg identity same
  exact fixed

theorem shownName_of_identity {file later : SourceFile} (same : later.identity = file.identity)
    (full : Bool) : later.shownName full = file.shownName full := by
  simp only [identity, Prod.mk.injEq] at same
  rw [shownName, shownName, same.1, same.2.1]

end SourceFile

namespace SourceTable

/-- No use changes what is fixed of a file. -/
theorem Use.identity_change (use : Use) (tree : FileTree) (file : SourceFile) :
    (use.change tree file).identity = file.identity := by
  cases use with
  | register | setBuffer | setDirty => rfl
  | lines => exact SourceFile.identity_of_forget (file.forget_lines tree)
  | line | lineAt => exact SourceFile.identity_of_forget (file.forget_line tree _)
  | digest | digestAll => exact SourceFile.identity_of_forget (file.forget_digest tree)

theorem Use.identity_effect (use : Use) (tree : FileTree) (position : Nat) (file : SourceFile) :
    (use.effect tree position file).identity = file.identity := by
  unfold effect
  split
  · exact use.identity_change tree file
  · rfl

/-- A file is found under its index at every later time, with all that registration has fixed. -/
theorem get?_performAll {table : SourceTable} {index : FileIndex} {file : SourceFile}
    (found : table.get? index = some file) (uses : List (FileTree × Use)) :
    ∃ later, (table.performAll uses).get? index = some later ∧
      later.identity = file.identity := by
  induction uses generalizing table file with
  | nil => exact ⟨file, found, rfl⟩
  | cons step uses ih =>
      obtain ⟨tree, use⟩ := step
      obtain ⟨position, -, next⟩ := table.get?_perform tree found use
      obtain ⟨later, stillFound, same⟩ := ih next
      exact ⟨later, stillFound, same.trans (use.identity_effect tree position file)⟩

/-! ## The two ways in which files are kept -/

/-- The full paths of all files, in the order of their indices. -/
def fullPaths (table : SourceTable) : List Path :=
  table.files.map SourceFile.normalPath

theorem fullPaths_perform (table : SourceTable) (tree : FileTree) (use : Use) :
    (table.perform tree use).fullPaths =
      table.fullPaths ++ ((use.addition? table).map SourceFile.normalPath).toList := by
  have kept : (table.files.mapIdx (use.effect tree)).map SourceFile.normalPath =
      table.files.map SourceFile.normalPath := by
    apply List.ext_getElem?
    intro position
    rw [List.getElem?_map, List.getElem?_mapIdx, List.getElem?_map, Option.map_map]
    congr 1
    funext file
    exact congrArg Prod.fst (use.identity_effect tree position file)
  rw [fullPaths, files_perform, List.map_append, kept]
  cases use.addition? table <;> rfl

theorem length_fullPaths (table : SourceTable) : table.fullPaths.length = table.size :=
  List.length_map _

/-- The full paths are in normal form and differ from one another, and the indices by path say where
a path stands among them. -/
structure Numbered (table : SourceTable) : Prop where
  normal : ∀ path ∈ table.fullPaths, path.normal = path
  distinct : (table.fullPaths.map Path.components).Nodup
  indices : ∀ key, table.indices.find? key =
    ((table.fullPaths.map Path.components).idxOf? key).map .ofPosition

theorem numbered_empty : empty.Numbered where
  normal := by simp [empty, fullPaths]
  distinct := List.nodup_nil
  indices := fun _ => rfl

/-- A full path with the steps of a normal form is that normal form. -/
theorem Numbered.eq_normal {table : SourceTable} (numbered : table.Numbered) {full path : Path}
    (member : full ∈ table.fullPaths) (same : full.components = path.normal.components) :
    full = path.normal := by
  have isNormal := numbered.normal full member
  rw [← isNormal]
  apply Path.normal_eq_iff.mpr
  rw [isNormal, same]

theorem Numbered.mem_components_iff {table : SourceTable} (numbered : table.Numbered)
    {path : Path} :
    path.normal.components ∈ table.fullPaths.map Path.components ↔
      path.normal ∈ table.fullPaths := by
  constructor
  · intro member
    obtain ⟨full, isFull, same⟩ := List.mem_map.mp member
    exact numbered.eq_normal isFull same ▸ isFull
  · exact List.mem_map_of_mem

/-- A path without an index is none of the full paths. -/
theorem Numbered.indexOf?_eq_none_iff {table : SourceTable} (numbered : table.Numbered)
    {path : Path} : table.indexOf? path = none ↔ path.normal ∉ table.fullPaths := by
  rw [indexOf?, numbered.indices, Option.map_eq_none_iff, List.idxOf?_eq_none_iff,
    numbered.mem_components_iff]

/-- An element that is new at the end of a list stands there, and the others stay where they are. -/
theorem idxOf?_concat {α : Type} [BEq α] [LawfulBEq α] [DecidableEq α] {list : List α} {new : α}
    (isNew : new ∉ list) (sought : α) :
    (list ++ [new]).idxOf? sought =
      if new = sought then some list.length else list.idxOf? sought := by
  rw [List.idxOf?, List.findIdx?_append]
  split
  · rename_i same
    have absent : list.findIdx? (· == sought) = none := List.idxOf?_eq_none_iff.mpr (same ▸ isNew)
    simp [absent, same]
  · rename_i other
    simp [other]

theorem Numbered.perform {table : SourceTable} (numbered : table.Numbered) (tree : FileTree)
    (use : Use) : (table.perform tree use).Numbered := by
  have paths := table.fullPaths_perform tree use
  have indices := table.indices_perform tree use
  cases added : use.addition? table with
  | none =>
      rw [added, Option.map_none, Option.toList_none, List.append_nil] at paths
      rw [added] at indices
      constructor
      · rw [paths]
        exact numbered.normal
      · rw [paths]
        exact numbered.distinct
      · rw [paths, indices]
        exact numbered.indices
  | some file =>
      obtain ⟨path, shownPath, rfl, unknown, rfl⟩ := Use.addition?_eq_some_iff.mp added
      have new : path.normal.components ∉ table.fullPaths.map Path.components := by
        rw [numbered.mem_components_iff]
        exact numbered.indexOf?_eq_none_iff.mp unknown
      rw [added] at paths indices
      change _ = table.fullPaths ++ [path.normal] at paths
      constructor
      · rw [paths]
        intro other member
        rcases List.mem_append.mp member with old | added
        · exact numbered.normal other old
        · rw [List.mem_singleton.mp added, Path.normal_normal]
      · rw [paths, List.map_append, List.nodup_append]
        refine ⟨numbered.distinct, by simp, ?_⟩
        rintro old isOld _ isNew rfl
        rw [List.map_singleton, List.mem_singleton] at isNew
        exact new (isNew ▸ isOld)
      · intro key
        rw [indices, paths, List.map_append, List.map_singleton, idxOf?_concat new,
          List.length_map, length_fullPaths]
        change (table.indices.insert path.normal.components _).find? key = _
        rw [Dictionary.find?_insert, numbered.indices]
        split <;> rfl

/-- The two ways agree after every list of uses. -/
theorem numbered_performAll (uses : List (FileTree × Use)) : (empty.performAll uses).Numbered := by
  suffices kept : ∀ table : SourceTable, table.Numbered → (table.performAll uses).Numbered from
    kept empty numbered_empty
  induction uses with
  | nil => exact fun _ numbered => numbered
  | cons step uses ih =>
      intro table numbered
      exact ih (table.perform step.1 step.2) (numbered.perform step.1 step.2)

theorem Numbered.nodup_fullPaths {table : SourceTable} (numbered : table.Numbered) :
    table.fullPaths.Nodup :=
  List.Nodup.of_map Path.components numbered.distinct

/-! ## Finding files -/

theorem getElem?_fullPaths {table : SourceTable} {position : Nat} {path : Path} :
    table.fullPaths[position]? = some path ↔
      ∃ file, table.files[position]? = some file ∧ file.normalPath = path := by
  rw [fullPaths, List.getElem?_map, Option.map_eq_some_iff]

theorem isSome_get?_iff {table : SourceTable} {index : FileIndex} :
    (table.get? index).isSome ↔ 0 ≤ index.value.toInt ∧ index.value.toInt < table.size := by
  constructor
  · intro found
    obtain ⟨file, found⟩ := Option.isSome_iff_exists.mp found
    obtain ⟨position, isPosition, there⟩ := get?_eq_some_iff.mp found
    have inside : position < table.size := (List.getElem?_eq_some_iff.mp there).1
    have value := FileIndex.position?_eq_some_iff_value.mp isPosition
    omega
  · rintro ⟨registered, inside⟩
    have small : index.value.toInt.toNat < table.files.length := by
      change index.value.toInt.toNat < table.size
      omega
    apply Option.isSome_iff_exists.mpr
    refine ⟨_, get?_eq_some_iff.mpr ⟨_, FileIndex.position?_eq_some_iff_value.mpr ?_,
      List.getElem?_eq_getElem small⟩⟩
    omega

/-- In a list without duplicates an element stands where it is found. -/
theorem idxOf?_eq_some_iff_of_nodup {α : Type} [BEq α] [LawfulBEq α] {list : List α}
    (nodup : list.Nodup) {sought : α} {position : Nat} :
    list.idxOf? sought = some position ↔ list[position]? = some sought := by
  rw [List.idxOf?_eq_some_iff, List.getElem?_eq_some_iff]
  constructor
  · rintro ⟨inside, here, -⟩
    exact ⟨inside, here⟩
  · rintro ⟨inside, here⟩
    refine ⟨inside, here, ?_⟩
    intro before less there
    have same : before = position := nodup.getElem_inj_iff.mp (there.trans here.symm)
    omega

/-- Up to the greatest index, a path has the index of the file whose full path is its normal form. -/
theorem Numbered.indexOf?_eq_some_iff {table : SourceTable} (numbered : table.Numbered)
    (small : table.size ≤ FileIndex.greatest + 1) {path : Path} {index : FileIndex} :
    table.indexOf? path = some index ↔
      ∃ file, table.get? index = some file ∧ file.normalPath = path.normal := by
  have key {position : Nat} :
      (table.fullPaths.map Path.components).idxOf? path.normal.components = some position ↔
        table.fullPaths[position]? = some path.normal := by
    rw [idxOf?_eq_some_iff_of_nodup numbered.distinct, List.getElem?_map, Option.map_eq_some_iff]
    constructor
    · rintro ⟨full, there, same⟩
      rw [there, numbered.eq_normal (List.mem_of_getElem? there) same]
    · intro there
      exact ⟨path.normal, there, rfl⟩
  rw [indexOf?, numbered.indices, Option.map_eq_some_iff]
  constructor
  · rintro ⟨position, found, rfl⟩
    obtain ⟨file, there, full⟩ := getElem?_fullPaths.mp (key.mp found)
    have inside : position < table.size := (List.getElem?_eq_some_iff.mp there).1
    have isPosition : (FileIndex.ofPosition position).position? = some position :=
      FileIndex.position?_ofPosition (by omega)
    exact ⟨file, get?_eq_some_iff.mpr ⟨position, isPosition, there⟩, full⟩
  · rintro ⟨file, found, full⟩
    obtain ⟨position, isPosition, there⟩ := get?_eq_some_iff.mp found
    obtain ⟨-, rfl⟩ := FileIndex.position?_eq_some_iff.mp isPosition
    exact ⟨position, key.mpr (getElem?_fullPaths.mpr ⟨file, there, full⟩), rfl⟩

/-- Two paths have an index in common exactly if they have the same normal form and it is the full path
of a file. -/
theorem Numbered.shared_index_iff {table : SourceTable} (numbered : table.Numbered)
    (small : table.size ≤ FileIndex.greatest + 1) {first second : Path} :
    (∃ index, table.indexOf? first = some index ∧ table.indexOf? second = some index) ↔
      first.normal = second.normal ∧ first.normal ∈ table.fullPaths := by
  simp only [numbered.indexOf?_eq_some_iff small]
  constructor
  · rintro ⟨index, ⟨file, found, isFirst⟩, ⟨other, again, isSecond⟩⟩
    obtain rfl : file = other := Option.some.inj (found.symm.trans again)
    obtain ⟨position, -, there⟩ := get?_eq_some_iff.mp found
    refine ⟨isFirst.symm.trans isSecond, ?_⟩
    exact List.mem_of_getElem? (getElem?_fullPaths.mpr ⟨file, there, isFirst⟩)
  · rintro ⟨same, member⟩
    obtain ⟨position, there⟩ := List.mem_iff_getElem?.mp member
    obtain ⟨file, there, full⟩ := getElem?_fullPaths.mp there
    have inside : position < table.size := (List.getElem?_eq_some_iff.mp there).1
    have found : table.get? (.ofPosition position) = some file :=
      get?_eq_some_iff.mpr ⟨position, FileIndex.position?_ofPosition (by omega), there⟩
    exact ⟨.ofPosition position, ⟨file, found, full⟩, ⟨file, found, full.trans same⟩⟩

/-- The indices in the listing are the numbers from 0 on. -/
theorem values_listing {table : SourceTable} (small : table.size ≤ FileIndex.greatest + 1) :
    (table.listing.map fun entry => entry.1.value.toInt) =
      (List.range table.size).map Int.ofNat := by
  apply List.ext_getElem?
  intro position
  rw [listing, List.map_map, List.getElem?_map, List.getElem?_zipIdx, List.getElem?_map]
  rcases Nat.lt_or_ge position table.size with inside | outside
  · have value := FileIndex.value_ofPosition (show position ≤ FileIndex.greatest by omega)
    rw [List.getElem?_range inside, List.getElem?_eq_getElem inside]
    simp [value]
  · have noFile : table.files[position]? = none := List.getElem?_eq_none outside
    have noNumber : (List.range table.size)[position]? = none :=
      List.getElem?_eq_none (by rwa [List.length_range])
    rw [noFile, noNumber]
    rfl

/-! ## Registrations -/

/-- The path that a use registers, if any. -/
def Use.registered? : Use → Option Path
  | .register path _ => some path
  | _ => none

/-- The paths that are registered in a list of uses. -/
def registered (uses : List (FileTree × Use)) : List Path :=
  uses.filterMap fun step => step.2.registered?

/-- A file is found by a path right after it is registered, and only a path that was not known adds
a file. -/
theorem indexOf?_register (table : SourceTable) (path shownPath : Path) :
    (table.register path shownPath).2.indexOf? path = some (table.register path shownPath).1 ∧
      (table.register path shownPath).2.size =
        if (table.indexOf? path).isSome then table.size else table.size + 1 := by
  cases known : table.indexOf? path with
  | none =>
      rw [register_of_unknown known, indexOf?, Dictionary.find?_insert, if_pos rfl]
      exact ⟨rfl, List.length_append⟩
  | some index =>
      rw [register_of_known known]
      exact ⟨known, rfl⟩

/-- One use adds the path that it registers, if it was not there. -/
theorem Numbered.mem_fullPaths_perform {table : SourceTable} (numbered : table.Numbered)
    (tree : FileTree) (use : Use) (full : Path) :
    full ∈ (table.perform tree use).fullPaths ↔
      full ∈ table.fullPaths ∨ use.registered?.map Path.normal = some full := by
  rw [fullPaths_perform]
  cases use with
  | register path shownPath =>
      by_cases known : path.normal ∈ table.fullPaths
      · have found : table.indexOf? path ≠ none := by
          rw [Ne, numbered.indexOf?_eq_none_iff]
          exact not_not_intro known
        simp only [Use.addition?, if_neg found, Use.registered?, Option.map_none, Option.toList_none,
          List.append_nil, Option.map_some, Option.some.injEq]
        constructor
        · exact Or.inl
        · rintro (member | rfl)
          · exact member
          · exact known
      · have new : table.indexOf? path = none := numbered.indexOf?_eq_none_iff.mpr known
        simp [Use.addition?, Use.registered?, new, SourceFile.fresh, eq_comm]
  | setBuffer | setDirty | lines | line | digest | lineAt | digestAll =>
      simp [Use.addition?, Use.registered?]

theorem Numbered.mem_fullPaths_performAll {table : SourceTable} (numbered : table.Numbered)
    (uses : List (FileTree × Use)) (full : Path) :
    full ∈ (table.performAll uses).fullPaths ↔
      full ∈ table.fullPaths ∨ full ∈ (registered uses).map Path.normal := by
  induction uses generalizing table with
  | nil => simp [registered]
  | cons step uses ih =>
      obtain ⟨tree, use⟩ := step
      rw [performAll_cons, ih (numbered.perform tree use), numbered.mem_fullPaths_perform, or_assoc]
      apply or_congr_right
      cases registers : use.registered? with
      | none => simp [registered, registers]
      | some path => simp [registered, registers, eq_comm]

/-- The same registrations in another order give the same full paths. -/
theorem fullPaths_perm {uses others : List (FileTree × Use)}
    (same : (registered uses).Perm (registered others)) :
    (empty.performAll uses).fullPaths.Perm (empty.performAll others).fullPaths := by
  have distinct := (numbered_performAll uses).nodup_fullPaths
  have othersDistinct := (numbered_performAll others).nodup_fullPaths
  rw [List.perm_ext_iff_of_nodup distinct othersDistinct]
  intro full
  rw [numbered_empty.mem_fullPaths_performAll, numbered_empty.mem_fullPaths_performAll,
    (same.map Path.normal).mem_iff]

/-! ## What stays -/

/-- A path keeps its index. -/
theorem indexOf?_perform {table : SourceTable} {path : Path} {index : FileIndex}
    (known : table.indexOf? path = some index) (tree : FileTree) (use : Use) :
    (table.perform tree use).indexOf? path = some index := by
  have indices := table.indices_perform tree use
  rw [indexOf?, indices]
  cases added : use.addition? table with
  | none => exact known
  | some file =>
      obtain ⟨new, shownPath, rfl, unknown, rfl⟩ := Use.addition?_eq_some_iff.mp added
      change (table.indices.insert new.normal.components _).find? path.normal.components = _
      have other : new.normal.components ≠ path.normal.components := by
        intro same
        rw [indexOf?, same] at unknown
        rw [indexOf?, unknown] at known
        cases known
      rw [Dictionary.find?_insert, if_neg other]
      exact known

theorem indexOf?_performAll {table : SourceTable} {path : Path} {index : FileIndex}
    (known : table.indexOf? path = some index) (uses : List (FileTree × Use)) :
    (table.performAll uses).indexOf? path = some index := by
  induction uses generalizing table with
  | nil => exact known
  | cons step uses ih => exact ih (indexOf?_perform known step.1 step.2)

/-- Locations in a file are shown in the same way at every later time. -/
theorem locationText_performAll {table : SourceTable} {location : Location} {file : SourceFile}
    (found : table.get? location.file = some file) (uses : List (FileTree × Use)) (full : Bool) :
    (table.performAll uses).locationText location full = table.locationText location full := by
  obtain ⟨later, stillFound, same⟩ := get?_performAll found uses
  rw [locationText, locationText, nameOf, nameOf, found, stillFound]
  simp only [SourceFile.shownName_of_identity same]

/-- However a table is used from the empty one on, each of its files has a number and a full path in
normal form of its own, a path is known exactly if its normal form is one of them, and what holds of
a file holds of it ever after. In which order the files are registered decides their numbers only. -/
theorem numbering_only_grows (uses : List (FileTree × Use))
    (small : (empty.performAll uses).size < 2 ^ 31) :
    let table := empty.performAll uses
    -- The numbers of the files are those below the size, and lead to them.
    (table.listing.map fun entry => entry.1.value.toInt) = (List.range table.size).map Int.ofNat ∧
      (∀ index, (table.get? index).isSome ↔
        0 ≤ index.value.toInt ∧ index.value.toInt < table.size) ∧
      -- The full paths are in normal form and differ, and a path is found by its normal form.
      (∀ file ∈ table.files, Path.IsNormal file.normalPath.components ∧
        file.normalPath.normal = file.normalPath) ∧
      (table.files.map fun file => file.normalPath.components).Nodup ∧
      (∀ path index, table.indexOf? path = some index ↔
        ∃ file, table.get? index = some file ∧ file.normalPath = path.normal) ∧
      -- Registering a path makes it known, and adds a file only if it was not.
      (∀ path shownPath,
        (table.register path shownPath).2.indexOf? path = some (table.register path shownPath).1 ∧
          (table.register path shownPath).2.size =
            if (table.indexOf? path).isSome then table.size else table.size + 1) ∧
      -- Known paths, files and the texts of locations stay as they are.
      (∀ more, (∀ path index, table.indexOf? path = some index →
          (table.performAll more).indexOf? path = some index) ∧
        ∀ index file, table.get? index = some file →
          (∃ later, (table.performAll more).get? index = some later ∧
            later.normalPath = file.normalPath ∧ later.shownPath = file.shownPath ∧
            later.baseName = file.baseName ∧
            ∀ full, later.shownName full = file.shownName full) ∧
          ∀ location full, location.file = index →
            (table.performAll more).locationText location full =
              table.locationText location full) ∧
      -- Another order gives the same full paths, and the same paths in common.
      ∀ others, (registered uses).Perm (registered others) →
        (∀ full, full ∈ table.files.map SourceFile.normalPath ↔
          full ∈ (empty.performAll others).files.map SourceFile.normalPath) ∧
        ∀ first second,
          (∃ index, table.indexOf? first = some index ∧ table.indexOf? second = some index) ↔
            ∃ index, (empty.performAll others).indexOf? first = some index ∧
              (empty.performAll others).indexOf? second = some index := by
  intro table
  have numbered : table.Numbered := numbered_performAll uses
  have inRange : table.size ≤ FileIndex.greatest + 1 := Nat.le_of_lt_succ (Nat.lt_succ_of_lt small)
  refine ⟨values_listing inRange, fun _ => isSome_get?_iff, ?_, ?_,
    fun _ _ => numbered.indexOf?_eq_some_iff inRange, table.indexOf?_register, ?_, ?_⟩
  · intro file member
    have isNormal := numbered.normal file.normalPath (List.mem_map_of_mem member)
    constructor
    · rw [← isNormal]
      exact Path.isNormal_components_normal file.normalPath
    · exact isNormal
  · have distinct := numbered.distinct
    rwa [fullPaths, List.map_map] at distinct
  · intro more
    constructor
    · intro path index known
      exact indexOf?_performAll known more
    · intro index file found
      constructor
      · obtain ⟨later, stillFound, same⟩ := get?_performAll found more
        have shown := SourceFile.shownName_of_identity same
        simp only [SourceFile.identity, Prod.mk.injEq] at same
        exact ⟨later, stillFound, same.1, same.2.1, same.2.2, shown⟩
      · rintro location full rfl
        exact locationText_performAll found more full
  · intro others same
    have paths := fullPaths_perm same
    have othersInRange : (empty.performAll others).size ≤ FileIndex.greatest + 1 := by
      rw [← length_fullPaths, ← paths.length_eq, length_fullPaths]
      exact inRange
    constructor
    · exact fun _ => paths.mem_iff
    · intro first second
      rw [numbered.shared_index_iff inRange,
        (numbered_performAll others).shared_index_iff othersInRange, paths.mem_iff]

/-- Two of three registrations are of one file, under two spellings, and so it is when they come the
other way round. -/
theorem numbering_only_grows_spellings :
    let tree := FileTree.ofWorkdir []
    let uses : List (FileTree × Use) :=
      [(tree, .register ⟨"/a/./b"⟩ ⟨"b"⟩), (tree, .register ⟨"/c"⟩ ⟨"c"⟩),
        (tree, .register ⟨"/a/x/../b"⟩ ⟨"x/../b"⟩)]
    (empty.performAll uses).size < 2 ^ 31 ∧
      ((empty.performAll uses).listing.map fun entry => entry.1.value.toInt) = [0, 1] ∧
      ∃ index, (empty.performAll uses.reverse).indexOf? ⟨"/a/./b"⟩ = some index ∧
        (empty.performAll uses.reverse).indexOf? ⟨"/a/x/../b"⟩ = some index := by
  intro tree uses
  have small : (empty.performAll uses).size < 2 ^ 31 := by decide +kernel
  have grows := numbering_only_grows uses small
  have orders := (grows.2.2.2.2.2.2.2 uses.reverse ?_).2 ⟨"/a/./b"⟩ ⟨"/a/x/../b"⟩
  · refine ⟨small, grows.1, orders.mp ⟨.ofPosition 0, ?_, ?_⟩⟩ <;> decide +kernel
  · exact (List.reverse_perm _).symm.trans (by decide +kernel)

end SourceTable

end Frontend
