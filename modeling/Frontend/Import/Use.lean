import Frontend.Import.Name

/-!
# Using a resolver

What is asked of a resolver over time, as data, so that a run is a list. Each use meets the file tree
of its moment; the tree may change from one use to the next.
-/

namespace Frontend.Resolver

/-- One use of a resolver: a change of what it knows, or a question that may change it as well. -/
inductive Use where
  | setLibrary (path : Path)
  | setProject (path : Path)
  | addSearchPath (path : Path)
  | addLazyPath (path : Path)
  | overrideModule (package module : String) (replacement : Path)
  | search (name : String) (outsideLibrary : Bool)
  | resolve (specifier : String) (importer : Path) (outsideLibrary : Bool)
  | descriptorOf (path : Path)
  | packageOf (path : Path)
  | packageDirectoryOf (path : Path)
  | importName (file : Path)
deriving DecidableEq

/-- The resolver after one use. -/
def perform (resolver : Resolver) (tree : FileTree) : Use → Resolver
  | .setLibrary path => resolver.withLibrary tree path
  | .setProject path => resolver.withProject tree path
  | .addSearchPath path => resolver.withSearchPath tree path
  | .addLazyPath path => resolver.withLazyPath tree path
  | .overrideModule package module replacement =>
      resolver.withOverride package module replacement
  | .search name outsideLibrary => (resolver.search tree name outsideLibrary).2
  | .resolve specifier importer outsideLibrary =>
      (resolver.resolve tree specifier importer outsideLibrary).2
  | .descriptorOf path => (resolver.descriptorOf tree path).2
  | .packageOf path => (resolver.packageOf tree path).2
  | .packageDirectoryOf path => (resolver.packageDirectoryOf tree path).2
  | .importName file => (resolver.importName tree file).2

/-- The resolver after a list of uses, first to last, each with the tree that it meets. -/
def performAll (resolver : Resolver) (uses : List (FileTree × Use)) : Resolver :=
  uses.foldl (fun resolver use => resolver.perform use.1 use.2) resolver

@[simp]
theorem performAll_nil (resolver : Resolver) : resolver.performAll [] = resolver :=
  rfl

@[simp]
theorem performAll_cons (resolver : Resolver) (tree : FileTree) (use : Use)
    (uses : List (FileTree × Use)) :
    resolver.performAll ((tree, use) :: uses) = (resolver.perform tree use).performAll uses :=
  rfl

end Frontend.Resolver
