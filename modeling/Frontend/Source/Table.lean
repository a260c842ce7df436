import Frontend.Dictionary
import Frontend.Source.File
import Frontend.Source.Location

/-!
# The table of source files

Files are numbered in the order in which they are registered. A file is found again under every
spelling of its path that has the same normal form, so registering it twice changes nothing: the
first registration also fixes the path under which it is shown. The indices are kept a second time
by the paths, so that finding one does not go through all files.
-/

namespace Frontend

/-- The registered files; the position of a file is its index. -/
structure SourceTable where
  files : List SourceFile
  /-- The indices of the files, by the components of their paths in normal form. -/
  indices : Dictionary (List Path.Component) FileIndex
deriving DecidableEq

namespace SourceTable

/-- No file is registered. -/
def empty : SourceTable where
  files := []
  indices := .empty

/-- The number of registered files. -/
def size (table : SourceTable) : Nat :=
  table.files.length

/-- The index of the file with this path, under any spelling. -/
def indexOf? (table : SourceTable) (path : Path) : Option FileIndex :=
  table.indices.find? path.normal.components

/-- Registers a file, to be shown as `shownPath`, unless it is registered already. -/
def register (table : SourceTable) (path shownPath : Path) : FileIndex × SourceTable :=
  match table.indexOf? path with
  | some index => (index, table)
  | none =>
      let index := FileIndex.ofPosition table.size
      (index,
        { files := table.files ++ [SourceFile.fresh path.normal shownPath]
          indices := table.indices.insert path.normal.components index })

/-- The file with an index. -/
def get? (table : SourceTable) (index : FileIndex) : Option SourceFile :=
  index.position?.bind fun position => table.files[position]?

theorem get?_eq_some_iff {table : SourceTable} {index : FileIndex} {file : SourceFile} :
    table.get? index = some file ↔
      ∃ position, index.position? = some position ∧ table.files[position]? = some file :=
  Option.bind_eq_some_iff

/-- Replaces the file with an index by what `change` makes of it, and returns what else `change`
answers. -/
def modifyGet? {α : Type} (table : SourceTable) (index : FileIndex)
    (change : SourceFile → α × SourceFile) : Option (α × SourceTable) := do
  let position ← index.position?
  let file ← table.files[position]?
  let (answer, changed) := change file
  pure (answer, { table with files := table.files.set position changed })

/-- Why no file was found. -/
inductive LookupFailure where
  | notRegistered (index : FileIndex)
deriving DecidableEq, Repr

/-- The text of a failed look-up. -/
def LookupFailure.message : LookupFailure → String
  | .notRegistered index => "no file registered under index " ++ index.text

/-- The indices of all files with their full paths, in order. -/
def listing (table : SourceTable) : List (FileIndex × Path) :=
  table.files.zipIdx.map fun entry => (FileIndex.ofPosition entry.2, entry.1.normalPath)

/-- The name under which locations of a file index are shown. -/
def nameOf (table : SourceTable) (index : FileIndex) (full : Bool) : String :=
  if index = .commandLine then "command line"
  else if index = .invalid ∨ index = .suppressed then "???"
  else
    match table.get? index with
    | some file => file.shownName full
    | none => "???"

/-- The text of a location: a file name with line and column. -/
def locationText (table : SourceTable) (location : Location) (full : Bool) : String :=
  location.textIn (table.nameOf location.file full)

/-- The line of source that a location points into. -/
def lineAt (table : SourceTable) (tree : FileTree) (location : Location) :
    Option String × SourceTable :=
  match table.modifyGet? location.file fun file => file.line tree location.line.toNat with
  | some (line, changed) => (line, changed)
  | none => (none, table)

/-- What is read to compute the digest of a file: its buffered content, else the file at a path. -/
structure Reading where
  position : Nat
  content : Option String
  path : Path
deriving DecidableEq

/-- The reading for a file at a position, unless its digest is kept. -/
def readingFor? (entry : SourceFile × Nat) : Option Reading :=
  if entry.1.keptDigest.isNone then some ⟨entry.2, entry.1.content, entry.1.readPath⟩ else none

/-- The readings for all files of which no digest is kept. -/
def pending (table : SourceTable) : List Reading :=
  table.files.zipIdx.filterMap readingFor?

/-- The digest of what is read. -/
def Reading.digest (tree : FileTree) (reading : Reading) : Option (List UInt8) :=
  SourceFile.digestOf (SourceFile.bytesOf? tree reading.content reading.path)

/-- Keeps digests for the files at some positions. -/
def keepDigests (files : List SourceFile) (digests : List (Nat × Option (List UInt8))) :
    List SourceFile :=
  digests.foldl (fun files entry => files.modify entry.1 (·.keepDigest entry.2)) files

/-- Computes the digest of every file of which none is kept. All files are read before any digest is
kept. -/
def digestAll (table : SourceTable) (tree : FileTree) : SourceTable :=
  let digests := table.pending.map fun reading => (reading.position, reading.digest tree)
  { table with files := keepDigests table.files digests }

end SourceTable

end Frontend
