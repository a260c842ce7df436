import Frontend.Import.Descriptor
import Frontend.Import.Resolver

/-!
# The package of a file

A file belongs to the package whose descriptor is met first when walking up from its directory. A
directory with several package descriptors ends the walk with none. What the walk finds is
remembered for every directory it visits, and a remembered directory ends the walk.
-/

namespace Frontend.Resolver

/-- The package of library files that no descriptor claims. -/
def libraryPackage : String :=
  "stdlib"

/-- The package of all other files that no descriptor claims. -/
def strayPackage : String :=
  "unknown"

/-- Walks up directories, nearest first, to the first package descriptor. Returns it with the
directories about which nothing was known. -/
def walkUp (tree : FileTree) (known : List (List Path.Component × Option Path)) :
    List Path → Option Path × List Path
  | [] => (none, [])
  | directory :: above =>
      match known.lookup directory.components with
      | some found => (found, [])
      | none =>
          match Descriptor.packagesIn tree directory with
          | [] =>
              let (found, visited) := walkUp tree known above
              (found, directory :: visited)
          | [only] => (some (directory.join ⟨only.name⟩), [directory])
          | _ => (none, [directory])

/-- The descriptor of the package that a path belongs to, and the resolver that remembers it. -/
def descriptorOf (resolver : Resolver) (tree : FileTree) (path : Path) :
    Option Path × Resolver :=
  match path.above with
  | [] => (none, resolver)
  | directories =>
      let (found, visited) := walkUp tree resolver.knownDescriptors directories
      let learnt := visited.map fun directory => (directory.components, found)
      (found, { resolver with knownDescriptors := learnt ++ resolver.knownDescriptors })

/-- The answer comes from the walk alone. -/
theorem descriptorOf_fst (resolver : Resolver) (tree : FileTree) (path : Path) :
    (resolver.descriptorOf tree path).1 =
      (walkUp tree resolver.knownDescriptors path.above).1 := by
  rw [descriptorOf]
  split
  · rename_i top
    rw [top]
    rfl
  · rfl

/-- Asking for a descriptor changes nothing but what is remembered. -/
theorem descriptorOf_snd (resolver : Resolver) (tree : FileTree) (path : Path) :
    ∃ known, (resolver.descriptorOf tree path).2 = { resolver with knownDescriptors := known } := by
  rw [descriptorOf]
  split
  · exact ⟨resolver.knownDescriptors, rfl⟩
  · exact ⟨_, rfl⟩

/-- What a walk finds is remembered of every directory that it visits. -/
theorem knownDescriptors_descriptorOf (resolver : Resolver) (tree : FileTree) (path : Path) :
    (resolver.descriptorOf tree path).2.knownDescriptors =
      (walkUp tree resolver.knownDescriptors path.above).2.map (fun directory =>
          (directory.components, (walkUp tree resolver.knownDescriptors path.above).1)) ++
        resolver.knownDescriptors := by
  rw [descriptorOf]
  split
  · rename_i top
    rw [top]
    rfl
  · rfl

/-- The name of the package that a path belongs to: that of its descriptor, else the one that the
library or everything else belongs to. -/
def packageOf (resolver : Resolver) (tree : FileTree) (path : Path) : String × Resolver :=
  let (found, resolver) := resolver.descriptorOf tree path
  match found.bind Path.stem? with
  | some stem => (stem, resolver)
  | none => (if resolver.inLibrary path then libraryPackage else strayPackage, resolver)

theorem packageOf_fst (resolver : Resolver) (tree : FileTree) (path : Path) :
    (resolver.packageOf tree path).1 =
      ((walkUp tree resolver.knownDescriptors path.above).1.bind Path.stem?).getD
        (if resolver.inLibrary path then libraryPackage else strayPackage) := by
  rw [← descriptorOf_fst]
  obtain ⟨known, after⟩ := resolver.descriptorOf_snd tree path
  rcases asked : resolver.descriptorOf tree path with ⟨found, asker⟩
  rw [asked] at after
  subst after
  rw [packageOf, asked]
  cases named : found.bind Path.stem? with
  | none =>
      simp only [named]
      rfl
  | some stem => simp only [named, Option.getD_some]

/-- Asking for a package leaves behind what asking for its descriptor does. -/
theorem packageOf_snd_eq (resolver : Resolver) (tree : FileTree) (path : Path) :
    (resolver.packageOf tree path).2 = (resolver.descriptorOf tree path).2 := by
  rw [packageOf]
  rcases resolver.descriptorOf tree path with ⟨found, asker⟩
  cases named : found.bind Path.stem? with
  | none => simp only [named]
  | some stem => simp only [named]

/-- Asking for a package changes nothing but what is remembered. -/
theorem packageOf_snd (resolver : Resolver) (tree : FileTree) (path : Path) :
    ∃ known, (resolver.packageOf tree path).2 = { resolver with knownDescriptors := known } := by
  rw [packageOf_snd_eq]
  exact resolver.descriptorOf_snd tree path

/-- The directory of the descriptor of the package that a path belongs to. -/
def packageDirectoryOf (resolver : Resolver) (tree : FileTree) (path : Path) :
    Option Path × Resolver :=
  let (found, resolver) := resolver.descriptorOf tree path
  (found.bind Path.parent?, resolver)

end Frontend.Resolver
