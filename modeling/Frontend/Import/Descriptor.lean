import Frontend.FileTree.Walk
import Frontend.Path.Name

/-!
# Descriptor files

A descriptor is a regular file whose extension says that it describes a project or a package; its
stem is the name of what it describes. The shared `config.nims` describes nothing. A file is known by
its name as a text, even when its name is none.
-/

namespace Frontend.Descriptor

/-- The extensions of project descriptors, the weightiest first. -/
def rankedExtensions : List String :=
  ["nims", "cfg", "nimcfg", "nimble"]

/-- The extension of package descriptors. -/
def packageExtension : String :=
  "nimble"

/-- The configuration that all projects in a directory share. -/
def sharedName : String :=
  "config.nims"

/-- A file with an extension. -/
structure Described where
  name : String
  stem : String
  extension : String
deriving DecidableEq, Repr

/-- A file name split at its extension, unless it has none or is the shared configuration. -/
def ofName? (name : FileName) : Option Described :=
  if name.shown = sharedName then none
  else
    match name.splitExtension with
    | (_, none) => none
    | (stem, some extension) => some ⟨name.shown, stem, extension⟩

/-- The regular files of a directory that have an extension, ordered by name. -/
def inDirectory (tree : FileTree) (directory : Path) : List Described :=
  ((tree.regularFiles directory).filterMap ofName?).mergeSort fun left right =>
    left.name ≤ right.name

/-- The package descriptors of a directory, ordered by name. -/
def packagesIn (tree : FileTree) (directory : Path) : List Described :=
  (inDirectory tree directory).filter (·.extension == packageExtension)

end Frontend.Descriptor
