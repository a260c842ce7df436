import Frontend.FileTree.Name
import Frontend.Path.Join

/-!
# A file tree

All that the front end asks of the file system is asked of a value: a finite list of entries, each
at a place below the root, seen from a working directory. The root is always a directory. No place
occurs twice, and the order of the list is the order in which a directory lists its entries.

Paths, the targets of links and the working directory are texts. So entries whose names are no texts
are only ever listed, and what lies below one of them is left out.
-/

namespace Frontend

/-- What stands at a place. -/
inductive Entry where
  | directory
  | file (content : List UInt8)
  /-- A symbolic link, with the text it holds. -/
  | link (target : String)
deriving DecidableEq, Repr

/-- A place: the names that lead to it from the root. -/
abbrev Place :=
  List String

/-- Where an entry stands: at a place, or in a directory under a name that leads to no place. -/
inductive Slot where
  | place (place : Place)
  | stray (directory : Place) (name : StrayName)
deriving DecidableEq

namespace Slot

instance : Coe Place Slot where
  coe := .place

/-- The entry stands at a place or below it. -/
def isWithin (top : Place) : Slot → Bool
  | .place here => top.isPrefixOf here
  | .stray directory _ => top.isPrefixOf directory

/-- The name of the entry in a directory, if it stands there. -/
def nameIn? (top : Place) : Slot → Option FileName
  | .place here => if here.dropLast = top then here.getLast?.map .text else none
  | .stray directory name => if directory = top then some (.stray name) else none

end Slot

/-- Why an operation on the tree fails. -/
inductive FileError where
  | noEntry
  | exists
  | notDirectory
  | isDirectory
  | nameTooLong
  | tooManyLinks
  /-- A name holds the character that ends names. -/
  | invalidName
  /-- Nothing was left to create a directory in. -/
  | noParent
deriving DecidableEq, Repr

/-- The text of the system for a failure. -/
def FileError.message : FileError → String
  | .noEntry => "No such file or directory (os error 2)"
  | .exists => "File exists (os error 17)"
  | .notDirectory => "Not a directory (os error 20)"
  | .isDirectory => "Is a directory (os error 21)"
  | .nameTooLong => "File name too long (os error 36)"
  | .tooManyLinks => "Too many levels of symbolic links (os error 40)"
  | .invalidName => "file name contained an unexpected NUL byte"
  | .noParent => "failed to create whole tree"

/-- The entries below the root, no two of them at one place, and the working directory. -/
structure FileTree where
  entries : List (Slot × Entry)
  workdir : Place
  distinct : (entries.map Prod.fst).Nodup

namespace FileTree

/-- What stands at a place, if anything. -/
def lookup? (tree : FileTree) (place : Place) : Option Entry :=
  if place.isEmpty then some .directory else tree.entries.lookup (.place place)

/-- The entries with one replaced where it stands. -/
def replaceAt (entries : List (Slot × Entry)) (slot : Slot) (entry : Entry) :
    List (Slot × Entry) :=
  entries.map fun old => if old.1 = slot then (slot, entry) else old

theorem map_fst_replaceAt (entries : List (Slot × Entry)) (slot : Slot) (entry : Entry) :
    (replaceAt entries slot entry).map Prod.fst = entries.map Prod.fst := by
  simp only [replaceAt, List.map_map]
  apply List.map_congr_left
  intro old _
  by_cases equal : old.1 = slot <;> simp [equal]

/-- Puts an entry at a place, instead of what may stand there. -/
def put (tree : FileTree) (place : Place) (entry : Entry) : FileTree :=
  if taken : .place place ∈ tree.entries.map Prod.fst then
    { tree with
      entries := replaceAt tree.entries place entry
      distinct := by
        rw [map_fst_replaceAt]
        exact tree.distinct }
  else
    { tree with
      entries := tree.entries ++ [(.place place, entry)]
      distinct := by
        rw [List.map_append, List.nodup_append]
        refine ⟨tree.distinct, by simp, ?_⟩
        intro old oldMem new newMem equal
        simp only [List.map_cons, List.map_nil, List.mem_singleton] at newMem
        exact taken (newMem ▸ equal ▸ oldMem) }

/-- Takes away a place and everything below it. -/
def erase (tree : FileTree) (place : Place) : FileTree :=
  { tree with
    entries := tree.entries.filter fun entry => !entry.1.isWithin place
    distinct := tree.distinct.sublist (List.filter_sublist.map _) }

/-- The names in a directory with what they stand for, in the order of the tree. -/
def children (tree : FileTree) (place : Place) : List (FileName × Entry) :=
  tree.entries.filterMap fun entry => (entry.1.nameIn? place).map (·, entry.2)

/-- A tree without entries, seen from the root. -/
def empty : FileTree where
  entries := []
  workdir := []
  distinct := List.nodup_nil

/-- A tree that holds nothing but a working directory and what leads to it. -/
def ofWorkdir (workdir : Place) : FileTree :=
  let tree := (List.range workdir.length).foldl
    (fun tree depth => tree.put (workdir.take (depth + 1)) .directory) empty
  { tree with workdir := workdir }

end FileTree

end Frontend
