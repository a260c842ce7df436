import Frontend.FileTree.Walk
import Frontend.Path.Name

/-!
# Changing the tree

A directory is made in an existing one, or together with all that is missing above it. Making all
of them stops at the first failure and keeps what has been made by then.
-/

namespace Frontend.FileTree

/-- The pieces of a path before its last one, and the last one, trailing slashes aside. -/
def lastPiece? (path : Path) : Option (List String × String) :=
  match path.pieces.reverse.dropWhile (· == "") with
  | [] => none
  | last :: before => some (before.reverse, last)

/-- The place at which a path would create an entry: its last piece in the directory that the other
pieces lead to. A path that ends in the root or in dots can create nothing. -/
def creationPlace (tree : FileTree) (links : Nat) (start : Place) (path : Path) :
    Except FileError Place :=
  match lastPiece? path with
  | none => .error .exists
  | some (before, last) => do
      let directory ← walk tree true links (origin start path) (before ++ [""])
      if last == "." || last == ".." then .error .exists
      else if last.utf8ByteSize > maxNameBytes then .error .nameTooLong
      else .ok (directory ++ [last])

/-- Makes one directory. -/
def makeDirectory (tree : FileTree) (path : Path) : Except FileError FileTree :=
  match textFault? path with
  | some fault => .error fault
  | none => do
      let place ← creationPlace tree maxLinks tree.workdir path
      if (tree.lookup? place).isSome then .error .exists
      else .ok (tree.put place .directory)

/-- Makes the first of a path and its ancestors, and the missing ones among its ancestors first.
What cannot be made is tolerated when a directory is there; the empty path asks for nothing. -/
def makeDirectoriesAlong (tree : FileTree) : List Path → Option FileError × FileTree
  | [] => (some .noParent, tree)
  | path :: above =>
      if path.isEmpty then (none, tree)
      else
        match tree.makeDirectory path with
        | .ok made => (none, made)
        | .error .noEntry =>
            match makeDirectoriesAlong tree above with
            | (some error, made) => (some error, made)
            | (none, made) =>
                match made.makeDirectory path with
                | .ok done => (none, done)
                | .error error => (if made.isDirectory path then none else some error, made)
        | .error error => (if tree.isDirectory path then none else some error, tree)

/-- Makes a directory and all that is missing above it. -/
def makeDirectories (tree : FileTree) (path : Path) : Option FileError × FileTree :=
  tree.makeDirectoriesAlong path.ancestors

/-- Makes the parent directory of a path. -/
def makeParent (tree : FileTree) (path : Path) : FileTree :=
  match path.parent? with
  | none => tree
  | some parent => (tree.makeDirectories parent).2

/-- The place of the file that writing to a path would replace or create, through at most `links`
links. -/
def writePlace (tree : FileTree) : (links : Nat) → Place → Path → Except FileError Place
  | 0, _, _ => .error .tooManyLinks
  | links + 1, start, path => do
      let place ← creationPlace tree maxLinks start path
      match tree.lookup? place with
      | some .directory => .error .isDirectory
      | some (.link target) => writePlace tree links place.dropLast ⟨target⟩
      | _ => .ok place

/-- Writes a file, making its parent directories. Nothing is written where no file can be. -/
def write (tree : FileTree) (path : Path) (content : List UInt8) : FileTree :=
  let made := tree.makeParent path
  match made.writePlace maxLinks made.workdir path with
  | .ok place => made.put place (.file content)
  | .error _ => made

/-- Makes a link that holds a text, making its parent directories. -/
def link (tree : FileTree) (path : Path) (target : String) : FileTree :=
  let made := tree.makeParent path
  match made.creationPlace maxLinks made.workdir path with
  | .ok place => if (made.lookup? place).isSome then made else made.put place (.link target)
  | .error _ => made

/-- Takes away what a path leads to; a link is taken away itself. -/
def remove (tree : FileTree) (path : Path) : FileTree :=
  match tree.locate false path with
  | .ok place => tree.erase place
  | .error _ => tree

end Frontend.FileTree
