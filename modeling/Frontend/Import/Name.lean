import Frontend.Import.Search
import Frontend.Path.Normal

/-!
# Naming a file as an import would

A file of the standard library is named after the library. Any other file is named by its path
relative to the search path or lazily used path that holds it, or relative to the root of its
package if that is shorter; where neither applies, relative to the project.
-/

namespace Frontend.Resolver

/-- The path lies directly in a standard directory of the library, under the given file name. -/
def isStdlibModule (resolver : Resolver) (file : Path) (name : String) : Bool :=
  resolver.standardDirs.any fun directory =>
    ((resolver.library.join ⟨directory⟩).join ⟨name⟩).same file

/-- The path of a file relative to where an import would find it. -/
def importPath? (resolver : Resolver) (file : Path) : Option Path :=
  match file.fileName? with
  | none => none
  | some name =>
      if resolver.isStdlibModule file name then some ((Path.mk stdlibMark).join ⟨name⟩)
      else
        ((resolver.searchPaths ++ resolver.lazyPaths).findSome? file.relativeTo?).filter
          (!·.isEmpty)

/-- The length of the text of a path, in bytes. -/
def byteLength (path : Path) : Nat :=
  path.text.utf8ByteSize

/-- The shorter of two relative paths, if there are any; at equal length the first. -/
def shorter? (first second : Option Path) : Option Path :=
  match first, second with
  | some first, some second =>
      if byteLength second < byteLength first then some second else some first
  | some first, none => some first
  | none, second => second

/-- The shortest name by which a file can be imported, without its extension. -/
def importName (resolver : Resolver) (tree : FileTree) (file : Path) :
    String × Resolver :=
  let bySearch := resolver.importPath? file
  let (root, resolver) := resolver.packageDirectoryOf tree file
  let byPackage := (root.bind file.relativeTo?).filter (!·.isEmpty)
  let name := (shorter? bySearch byPackage).getD (file.relativeTo resolver.project)
  (name.withoutExtension.forwardSlashes, resolver)

end Frontend.Resolver
