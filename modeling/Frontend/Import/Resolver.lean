import Frontend.Dictionary
import Frontend.FileTree.Walk

/-!
# Where imports are looked for

A resolver knows the library, the project, the search paths and the lazily used paths, each in a
fixed order, and the modules that are overridden. Directories are brought to their canonical form
when they are added, and a directory that is there already is not added again. The nearest package
descriptor of every directory that was asked about is remembered.
-/

namespace Frontend

/-- The state of import resolution. -/
structure Resolver where
  library : Path
  project : Path
  searchPaths : List Path
  /-- The lazily used paths, most recently used first. -/
  lazyPaths : List Path
  /-- Replacements, by package name and module name. -/
  overrides : Dictionary (String × String) Path
  /-- The subdirectories of the library that hold standard modules, in order. -/
  standardDirs : List String
  sourceExtension : String
  /-- The nearest package descriptors of directories, by the components of their paths. -/
  knownDescriptors : List (List Path.Component × Option Path)

namespace Resolver

/-- A resolver to which no directory has been added. -/
def initial (standardDirs : List String) (sourceExtension : String) : Resolver where
  library := ⟨""⟩
  project := ⟨""⟩
  searchPaths := []
  lazyPaths := []
  overrides := .empty
  standardDirs := standardDirs
  sourceExtension := sourceExtension
  knownDescriptors := []

/-- Sets the directory of the library. -/
def withLibrary (resolver : Resolver) (tree : FileTree) (path : Path) : Resolver :=
  { resolver with library := tree.canonicalOr path }

/-- Sets the directory of the project. -/
def withProject (resolver : Resolver) (tree : FileTree) (path : Path) : Resolver :=
  { resolver with project := tree.canonicalOr path }

/-- Adds a path at the end of a list, unless it is there under some spelling. -/
def addNew (paths : List Path) (path : Path) : List Path :=
  if paths.any path.same then paths else paths ++ [path]

/-- Adds a search path. -/
def withSearchPath (resolver : Resolver) (tree : FileTree) (path : Path) : Resolver :=
  { resolver with searchPaths := addNew resolver.searchPaths (tree.canonicalOr path) }

/-- Adds a lazily used path. -/
def withLazyPath (resolver : Resolver) (tree : FileTree) (path : Path) : Resolver :=
  { resolver with lazyPaths := addNew resolver.lazyPaths (tree.canonicalOr path) }

/-- Redirects a module of a package. An empty replacement leaves resolution as it is. -/
def withOverride (resolver : Resolver) (package module : String) (replacement : Path) : Resolver :=
  { resolver with overrides := resolver.overrides.insert (package, module) replacement }

/-- The path lies in the library; nothing does while no library is set. -/
def inLibrary (resolver : Resolver) (path : Path) : Bool :=
  !resolver.library.isEmpty && path.startsWith resolver.library

end Resolver

end Frontend
