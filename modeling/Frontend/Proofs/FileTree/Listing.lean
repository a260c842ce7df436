import Frontend.Proofs.FileTree.Name
import Frontend.Proofs.FileTree.Walk

/-!
# What a directory lists

A directory lists its entries in some order, which is that of the tree and has no meaning. What stands
at a place can be told from any listing of its directory, because no name is listed twice. So a tree
that lists each directory in an order of its own leads every walk to the same place.
-/

namespace Frontend

open Frontend.Path

/-! ## Listed entries -/

namespace Slot

theorem nameIn?_eq_text_iff {slot : Slot} {directory : Place} {name : String} :
    slot.nameIn? directory = some (.text name) ↔ slot = .place (directory ++ [name]) := by
  cases slot with
  | stray other stray => simp [nameIn?]
  | place here =>
      obtain rfl | ⟨front, last, rfl⟩ := here.eq_nil_or_concat
      · simp [nameIn?]
      · simp [nameIn?]

/-- The names on the way to an entry are proper. -/
def IsProper : Slot → Prop
  | .place here => FileTree.IsNamed here
  | .stray directory _ => FileTree.IsNamed directory

instance : (slot : Slot) → Decidable slot.IsProper
  | .place here => inferInstanceAs (Decidable (FileTree.IsNamed here))
  | .stray directory _ => inferInstanceAs (Decidable (FileTree.IsNamed directory))

end Slot

namespace FileTree

theorem mem_children_iff {tree : FileTree} {place : Place} {name : FileName} {entry : Entry} :
    (name, entry) ∈ tree.children place ↔
      ∃ slot, (slot, entry) ∈ tree.entries ∧ slot.nameIn? place = some name := by
  rw [children, List.mem_filterMap]
  constructor
  · rintro ⟨⟨slot, found⟩, member, listed⟩
    obtain ⟨listedName, isName, same⟩ := Option.map_eq_some_iff.mp listed
    cases same
    exact ⟨slot, member, isName⟩
  · rintro ⟨slot, member, isName⟩
    exact ⟨_, member, by simp [isName]⟩

/-- What stands at a place is what its directory lists under its name. -/
theorem lookup?_concat_eq_some_iff {tree : FileTree} {place : Place} {name : String}
    {entry : Entry} :
    tree.lookup? (place ++ [name]) = some entry ↔ (.text name, entry) ∈ tree.children place := by
  have below : (place ++ [name]).isEmpty = false := by simp
  rw [mem_children_iff, lookup?, below, if_neg Bool.false_ne_true, List.lookup_eq_some_iff]
  simp only [Slot.nameIn?_eq_text_iff]
  constructor
  · rintro ⟨front, back, split, -⟩
    exact ⟨_, by simp [split], rfl⟩
  · rintro ⟨slot, member, rfl⟩
    obtain ⟨front, back, split⟩ := List.append_of_mem member
    refine ⟨front, back, split, ?_⟩
    have distinct := tree.distinct
    rw [split, List.map_append, List.map_cons, List.nodup_append] at distinct
    intro earlier isEarlier
    simp only [bne_iff_ne]
    intro same
    exact distinct.2.2 _ (List.mem_map_of_mem isEarlier) _ List.mem_cons_self same.symm

/-- All entries have proper names. -/
def HasProperNames (tree : FileTree) : Prop :=
  ∀ entry ∈ tree.entries, entry.1.IsProper

instance (tree : FileTree) : Decidable tree.HasProperNames :=
  inferInstanceAs (Decidable (∀ entry ∈ tree.entries, entry.1.IsProper))

/-- The names of the regular files in a directory, as texts. -/
def shownFiles (tree : FileTree) (directory : Path) : List String :=
  (tree.regularFiles directory).map FileName.shown

/-- A name in a directory is one step, and so is its text. -/
theorem HasProperNames.slash_notMem {tree : FileTree} (proper : tree.HasProperNames)
    {directory : Path} {shown : String} (member : shown ∈ tree.shownFiles directory) :
    '/' ∉ shown.toList := by
  obtain ⟨name, listed, rfl⟩ := List.mem_map.mp member
  unfold regularFiles at listed
  split at listed
  · rename_i place _
    obtain ⟨⟨other, entry⟩, isChild, isFile⟩ := List.mem_filterMap.mp listed
    cases entry with
    | directory | link => cases isFile
    | file content =>
        obtain rfl := Option.some.inj isFile
        cases other with
        | stray stray => exact stray.slash_notMem_decode
        | text text =>
            obtain ⟨slot, isEntry, isName⟩ := mem_children_iff.mp isChild
            obtain rfl := Slot.nameIn?_eq_text_iff.mp isName
            exact (proper _ isEntry text (by simp)).2.2
  · cases listed

/-! ## Other orders -/

/-- The trees are the same, except that each directory may list its entries in another order. -/
structure Relisted (tree other : FileTree) : Prop where
  workdir : tree.workdir = other.workdir
  children : ∀ place, (tree.children place).Perm (other.children place)

namespace Relisted

variable {tree other : FileTree}

/-- The order of all entries decides the order in which each directory lists its own. -/
theorem of_perm (workdir : tree.workdir = other.workdir)
    (entries : tree.entries.Perm other.entries) : Relisted tree other :=
  ⟨workdir, fun _ => entries.filterMap _⟩

theorem lookup?_eq (relisted : Relisted tree other) : tree.lookup? = other.lookup? := by
  funext place
  obtain rfl | ⟨directory, name, rfl⟩ := place.eq_nil_or_concat
  · rfl
  · apply Option.ext
    intro entry
    rw [List.concat_eq_append, lookup?_concat_eq_some_iff, lookup?_concat_eq_some_iff]
    exact (relisted.children directory).mem_iff

variable (fits : Place → Bool) (followLast : Bool)

theorem walkPieces_eq (relisted : Relisted tree other)
    (follow : Place → Path → List String → Except FileError Place) (here : Place)
    (pieces : List String) :
    walkPieces tree fits followLast follow here pieces =
      walkPieces other fits followLast follow here pieces := by
  induction pieces generalizing here with
  | nil => rfl
  | cons piece rest ih => simp only [walkPieces, ih, relisted.lookup?_eq]

theorem walkWithin_eq (relisted : Relisted tree other) (links : Nat) :
    walkWithin tree fits followLast links = walkWithin other fits followLast links := by
  induction links with
  | zero =>
      funext here pieces
      exact relisted.walkPieces_eq fits followLast _ here pieces
  | succ links ih =>
      funext here pieces
      rw [walkWithin, walkWithin, ih]
      exact relisted.walkPieces_eq fits followLast _ here pieces

theorem locate_eq (relisted : Relisted tree other) :
    tree.locate followLast = other.locate followLast := by
  funext path
  rw [locate, locate, walk, walk, relisted.walkWithin_eq, relisted.workdir]

theorem isFile_eq (relisted : Relisted tree other) : tree.isFile = other.isFile := by
  funext path
  rw [isFile, isFile, find?, find?, relisted.locate_eq, relisted.lookup?_eq]

/-- A directory lists the same regular files. -/
theorem perm_regularFiles (relisted : Relisted tree other) (directory : Path) :
    (tree.regularFiles directory).Perm (other.regularFiles directory) := by
  rw [regularFiles, regularFiles, relisted.locate_eq]
  cases other.locate true directory with
  | ok place => exact (relisted.children place).filterMap _
  | error _ => exact .refl _

end Relisted

end FileTree

end Frontend
