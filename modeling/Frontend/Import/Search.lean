import Frontend.Import.Package
import Frontend.Import.Recency
import Frontend.Text.Lowercase

/-!
# Resolving an import

`pkg/name` is searched for outside the library, `std/name` only in the standard directories of the
library, and any other name first next to the importing module. A search goes through the search
paths and then through the lazily used paths, with the name as written and then in lower case; the
lazily used path that holds the file moves to the front. What is found is made canonical, and may
then be replaced by an override.
-/

namespace Frontend.Resolver

/-- What marks a name that is searched for outside the library. -/
def packageMark : String :=
  "pkg/"

/-- What marks a name of the standard library. -/
def stdlibMark : String :=
  "std/"

/-- The file that a name asks for. -/
def fileFor (resolver : Resolver) (name : String) : Path :=
  Path.ofName name resolver.sourceExtension

/-- The file name in lower case, if that makes a difference. -/
def lowered? (file : Path) : Option Path :=
  let lowered := Text.lowercase file.text
  if lowered = file.text then none else some ⟨lowered⟩

/-- The first search path that holds a file, joined with it. Those in the library may be left
out. -/
def searchHit? (resolver : Resolver) (tree : FileTree) (outsideLibrary : Bool) (file : Path) :
    Option Path :=
  resolver.searchPaths.findSome? fun directory =>
    if outsideLibrary && resolver.inLibrary directory then none
    else if tree.isFile (directory.join file) then some (directory.join file)
    else none

/-- The first lazily used path that holds a file, joined with it; that path moves to the front. -/
def lazyHit? (resolver : Resolver) (tree : FileTree) (file : Path) : Option (Path × Resolver) := do
  let position ← resolver.lazyPaths.findIdx? fun directory => tree.isFile (directory.join file)
  let directory ← resolver.lazyPaths[position]?
  pure (directory.join file,
    { resolver with lazyPaths := Recency.promote position resolver.lazyPaths })

/-- The first hit of a relative name: in the search paths before the lazily used ones, and in each
as written before in lower case. -/
def firstHit? (resolver : Resolver) (tree : FileTree) (outsideLibrary : Bool) (file : Path) :
    Option (Path × Resolver) :=
  let search (name : Path) :=
    (resolver.searchHit? tree outsideLibrary name).map fun hit => (hit, resolver)
  search file
    <|> (lowered? file).bind search
    <|> resolver.lazyHit? tree file
    <|> (lowered? file).bind (resolver.lazyHit? tree)

/-- Finds a file by its name through the search paths and the lazily used ones. An absolute name is
looked at directly. -/
def search (resolver : Resolver) (tree : FileTree) (name : String) (outsideLibrary : Bool) :
    Option Path × Resolver :=
  let file := resolver.fileFor name
  if file.isAbsolute then
    (if tree.isFile file then some (tree.canonicalOr file) else none, resolver)
  else
    match resolver.firstHit? tree outsideLibrary file with
    | some (hit, resolver) => (some (tree.canonicalOr hit), resolver)
    | none => (none, resolver)

/-- Finds a file in the standard directories of the library. Nothing is found while no library is
set. -/
def searchLibrary? (resolver : Resolver) (tree : FileTree) (name : String) : Option Path :=
  if resolver.library.isEmpty then none
  else
    let file := resolver.fileFor name
    resolver.standardDirs.findSome? fun directory =>
      let candidate := (resolver.library.join ⟨directory⟩).join file
      if tree.isFile candidate then some (tree.canonicalOr candidate) else none

/-- Replaces a path that is overridden by package and module name. -/
def replaceOverridden (resolver : Resolver) (tree : FileTree) (path : Path) : Path × Resolver :=
  if resolver.overrides.isEmpty then (path, resolver)
  else
    match path.stem? with
    | none => (path, resolver)
    | some stem =>
        let (package, resolver) := resolver.packageOf tree path
        match resolver.overrides.find? (package, stem) with
        | some replacement => (if replacement.isEmpty then path else replacement, resolver)
        | none => (path, resolver)

/-- The rest of a text that begins with a mark. -/
def afterMark? (mark text : String) : Option String :=
  if mark.toList.isPrefixOf text.toList then some (String.ofList (text.toList.drop mark.length))
  else none

/-- Finds what an import names, before any override. -/
def locateImport (resolver : Resolver) (tree : FileTree) (specifier : String) (importer : Path)
    (outsideLibrary : Bool) : Option Path × Resolver :=
  match afterMark? packageMark specifier with
  | some name => resolver.search tree name true
  | none =>
      match afterMark? stdlibMark specifier with
      | some name => (resolver.searchLibrary? tree name, resolver)
      | none =>
          let neighbour := importer.join (resolver.fileFor specifier)
          if tree.isFile neighbour then (some (tree.canonicalOr neighbour), resolver)
          else resolver.search tree specifier outsideLibrary

/-- Finds what an import in a module of the directory `importer` names. -/
def resolve (resolver : Resolver) (tree : FileTree) (specifier : String) (importer : Path)
    (outsideLibrary : Bool) : Option Path × Resolver :=
  match resolver.locateImport tree specifier importer outsideLibrary with
  | (none, resolver) => (none, resolver)
  | (some path, resolver) =>
      let (path, resolver) := resolver.replaceOverridden tree path
      (some path, resolver)

end Frontend.Resolver
