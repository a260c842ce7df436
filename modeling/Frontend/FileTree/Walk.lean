import Frontend.FileTree.Basic

/-!
# Finding a place in the tree

A path is walked piece by piece. Empty pieces and dots stay where they are, two dots go up, and
a link is replaced by its target. A file may only be the last piece: a slash after it asks for a
directory. A walk follows forty links at most.

A path is looked up as a whole, so its text may not be too long. It is made canonical by asking for
one place after the other: there the texts of the places on the way count, and its own does not.
-/

namespace Frontend.FileTree

/-- The longest name of an entry, in bytes. -/
def maxNameBytes : Nat := 255

/-- The bytes of a text from which on it is too long for a path. -/
def pathLimitBytes : Nat := 4096

/-- How many links one walk may follow. -/
def maxLinks : Nat := 40

/-- A place as an absolute path. -/
def pathTo (place : Place) : Path :=
  Path.ofComponents (.root :: place.map .name)

/-- The absolute path to a place is short enough to be looked up. -/
def isNameable (place : Place) : Bool :=
  (pathTo place).text.utf8ByteSize < pathLimitBytes

/-- Where a walk along `path` starts, when it is met in the directory `here`. -/
def origin (here : Place) (path : Path) : Place :=
  if path.isAbsolute then [] else here

/-- Walks along pieces from a directory, through places that `fits` admits, and leaves links to
`follow`, which is told the directory of the link, its target and the pieces that are left. A link
that ends the walk is followed only when `followLast` says so. -/
def walkPieces (tree : FileTree) (fits : Place → Bool) (followLast : Bool)
    (follow : Place → Path → List String → Except FileError Place) :
    Place → List String → Except FileError Place
  | here, [] => .ok here
  | here, piece :: rest =>
      if Path.silent piece then walkPieces tree fits followLast follow here rest
      else if piece = ".." then walkPieces tree fits followLast follow here.dropLast rest
      else if piece.utf8ByteSize > maxNameBytes then .error .nameTooLong
      else
        let place := here ++ [piece]
        if !fits place then .error .nameTooLong
        else
          match tree.lookup? place with
          | none => .error .noEntry
          | some .directory => walkPieces tree fits followLast follow place rest
          | some (.file _) => if rest.isEmpty then .ok place else .error .notDirectory
          | some (.link target) =>
              if rest.isEmpty && !followLast then .ok place else follow here ⟨target⟩ rest

/-- Walks along pieces from a directory, through places that `fits` admits, following at most
`links` links. -/
def walkWithin (tree : FileTree) (fits : Place → Bool) (followLast : Bool) :
    (links : Nat) → Place → List String → Except FileError Place
  | 0 => walkPieces tree fits followLast fun _ _ _ => .error .tooManyLinks
  | links + 1 => walkPieces tree fits followLast fun here target rest =>
      walkWithin tree fits followLast links (origin here target) (target.pieces ++ rest)

/-- Walks along pieces from a directory, through any places, following at most `links` links. -/
def walk (tree : FileTree) (followLast : Bool) (links : Nat) (start : Place)
    (pieces : List String) : Except FileError Place :=
  walkWithin tree (fun _ => true) followLast links start pieces

/-- Why a text is no path at all. -/
def spellingFault? (path : Path) : Option FileError :=
  if path.isEmpty then some .noEntry
  else if path.text.toList.contains '\x00' then some .invalidName
  else none

/-- What is wrong with the text of a path, before the tree is looked at. -/
def textFault? (path : Path) : Option FileError :=
  match spellingFault? path with
  | some fault => some fault
  | none => if path.text.utf8ByteSize ≥ pathLimitBytes then some .nameTooLong else none

/-- The place that a path leads to. -/
def locate (tree : FileTree) (followLast : Bool) (path : Path) : Except FileError Place :=
  match textFault? path with
  | some fault => .error fault
  | none => walk tree followLast maxLinks (origin tree.workdir path) path.pieces

/-- What a path leads to, through all links. -/
def find? (tree : FileTree) (path : Path) : Option Entry :=
  match tree.locate true path with
  | .ok place => tree.lookup? place
  | .error _ => none

/-- The path leads to a regular file. -/
def isFile (tree : FileTree) (path : Path) : Bool :=
  match tree.find? path with
  | some (.file _) => true
  | _ => false

/-- The path leads to a directory. -/
def isDirectory (tree : FileTree) (path : Path) : Bool :=
  tree.find? path == some .directory

/-- The bytes of the file that a path leads to. -/
def read? (tree : FileTree) (path : Path) : Option (List UInt8) :=
  match tree.find? path with
  | some (.file content) => some content
  | _ => none

/-- The absolute path without links or dots to what a path leads to. -/
def canonical? (tree : FileTree) (path : Path) : Option Path :=
  match spellingFault? path with
  | some _ => none
  | none =>
      match walkWithin tree isNameable true maxLinks (origin tree.workdir path) path.pieces with
      | .ok place => some (pathTo place)
      | .error _ => none

/-- The canonical path of what exists, and any other path as it is. -/
def canonicalOr (tree : FileTree) (path : Path) : Path :=
  (tree.canonical? path).getD path

/-- The names of the regular files in the directory that a path leads to; links are not regular
files, whatever they lead to. -/
def regularFiles (tree : FileTree) (directory : Path) : List FileName :=
  match tree.locate true directory with
  | .ok place =>
      (tree.children place).filterMap fun child =>
        match child.2 with
        | .file _ => some child.1
        | _ => none
  | .error _ => []

end Frontend.FileTree
