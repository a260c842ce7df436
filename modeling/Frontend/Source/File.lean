import Frontend.Digest
import Frontend.FileTree.Walk
import Frontend.Path.Name
import Frontend.Path.Normal
import Frontend.Text.Lines
import Frontend.Text.Utf8

/-!
# One source file

A source is read from buffered content if there is any, else from the file that stands in for it
while an editor has unsaved changes, else from its own path. Lines and digest are computed when they
are first asked for and kept, even when the source could not be read, until the content is replaced
or another file stands in.
-/

namespace Frontend

/-- What is remembered of a source file. -/
structure SourceFile where
  /-- The path in normal form. -/
  normalPath : Path
  /-- The path as it is shown unless absolute paths are asked for. -/
  shownPath : Path
  baseName : String
  /-- The file read in place of the full path. -/
  dirty : Option Path
  /-- Content that is read in place of any file. -/
  content : Option String
  /-- The lines, once they have been asked for. -/
  keptLines : Option (List String)
  /-- The digest, once it has been asked for; `some none` when the source could not be read. -/
  keptDigest : Option (Option (List UInt8))
deriving DecidableEq

namespace SourceFile

/-- A file that nothing has been asked of. -/
def fresh (normalPath shownPath : Path) : SourceFile where
  normalPath := normalPath
  shownPath := shownPath
  baseName := normalPath.fileName?.getD ""
  dirty := none
  content := none
  keptLines := none
  keptDigest := none

/-- The name under which locations in the file are shown. -/
def shownName (file : SourceFile) (full : Bool) : String :=
  if full then file.normalPath.forwardSlashes else file.shownPath.forwardSlashes

/-- The path that is read when there is no buffered content. -/
def readPath (file : SourceFile) : Path :=
  file.dirty.getD file.normalPath

/-- The bytes of buffered content if there is any, else those of a file, if it can be read. -/
def bytesOf? (tree : FileTree) (content : Option String) (path : Path) : Option (List UInt8) :=
  match content with
  | some content => some (Text.Utf8.encode content)
  | none => tree.read? path

/-- The bytes of the source, if it can be read. -/
def bytes? (tree : FileTree) (file : SourceFile) : Option (List UInt8) :=
  bytesOf? tree file.content file.readPath

/-- Forgets what was computed from the content. -/
def forget (file : SourceFile) : SourceFile :=
  { file with keptLines := none, keptDigest := none }

/-- Lets another file stand in, or none. -/
def setDirty (file : SourceFile) (dirty : Option Path) : SourceFile :=
  { file with dirty := dirty }.forget

/-- Replaces the buffered content. -/
def setBuffer (file : SourceFile) (content : Option String) : SourceFile :=
  { file with content := content }.forget

/-- The lines of some bytes; what cannot be read has none. -/
def linesOf (bytes : Option (List UInt8)) : List String :=
  match bytes with
  | some bytes => Text.lines (Text.Utf8.decode bytes)
  | none => []

/-- The lines of the source, and the file with the lines kept. -/
def lines (tree : FileTree) (file : SourceFile) : List String × SourceFile :=
  match file.keptLines with
  | some lines => (lines, file)
  | none =>
      let lines := linesOf (file.bytes? tree)
      (lines, { file with keptLines := some lines })

/-- A line by its number, counting from 1. There is no line 0, and asking for it reads nothing. -/
def line (tree : FileTree) (file : SourceFile) : Nat → Option String × SourceFile
  | 0 => (none, file)
  | number + 1 =>
      let (lines, file) := file.lines tree
      (lines[number]?, file)

/-- The digest of some bytes, if there are any. -/
def digestOf (bytes : Option (List UInt8)) : Option (List UInt8) :=
  bytes.map Digest.sha256

/-- Keeps a digest. -/
def keepDigest (file : SourceFile) (digest : Option (List UInt8)) : SourceFile :=
  { file with keptDigest := some digest }

/-- The digest of the source, and the file with the digest kept. -/
def digest (tree : FileTree) (file : SourceFile) : Option (List UInt8) × SourceFile :=
  match file.keptDigest with
  | some digest => (digest, file)
  | none =>
      let digest := digestOf (file.bytes? tree)
      (digest, file.keepDigest digest)

/-! Asking changes only what is kept. -/

section

variable (file : SourceFile) (tree : FileTree)

@[simp]
theorem forget_lines : (file.lines tree).2.forget = file.forget := by
  unfold lines
  split <;> rfl

@[simp]
theorem forget_line (number : Nat) : (file.line tree number).2.forget = file.forget := by
  cases number with
  | zero => rfl
  | succ number => exact file.forget_lines tree

@[simp]
theorem forget_digest : (file.digest tree).2.forget = file.forget := by
  unfold digest
  split <;> rfl

end

end SourceFile

end Frontend
