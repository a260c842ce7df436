import Frontend.Import.Package
import Frontend.Import.Project
import Frontend.Proofs.Import.Descriptor

/-!
# Discovery and the order of listings

The main file of a project and the package of a file are found by listing directories. A listing comes
in no particular order, and the search stops at the second package descriptor that it meets. Still the
answers depend on what a directory holds alone, since its descriptors are ordered before they are
looked at.
-/

namespace Frontend

open Frontend.FileTree

variable {tree other : FileTree}

namespace Descriptor

theorem packagesIn_of_relisted (relisted : Relisted tree other) (directory : Path) :
    packagesIn tree directory = packagesIn other directory := by
  rw [packagesIn, packagesIn, inDirectory_of_relisted relisted]

end Descriptor

namespace Project

theorem addAll?_of_relisted (relisted : Relisted tree other) (directory : Path) (offer : Offer)
    (descriptors : List Descriptor.Described) :
    offer.addAll? tree directory descriptors = offer.addAll? other directory descriptors := by
  induction descriptors generalizing offer with
  | nil => rfl
  | cons descriptor rest ih => simp only [Offer.addAll?, Offer.add?, relisted.isFile_eq, ih]

theorem discoverAlong_of_relisted (relisted : Relisted tree other) (package : Option String)
    (directories : List Path) :
    discoverAlong tree package directories = discoverAlong other package directories := by
  induction directories generalizing package with
  | nil => rfl
  | cons directory above ih =>
      rw [discoverAlong, discoverAlong, Descriptor.inDirectory_of_relisted relisted,
        addAll?_of_relisted relisted]
      simp only [ih]

end Project

namespace Resolver

theorem walkUp_of_relisted (relisted : Relisted tree other)
    (known : List (List Path.Component × Option Path)) (directories : List Path) :
    walkUp tree known directories = walkUp other known directories := by
  induction directories with
  | nil => rfl
  | cons directory above ih =>
      rw [walkUp, walkUp, Descriptor.packagesIn_of_relisted relisted, ih]

theorem descriptorOf_of_relisted (relisted : Relisted tree other) (resolver : Resolver)
    (path : Path) : resolver.descriptorOf tree path = resolver.descriptorOf other path := by
  rw [descriptorOf, descriptorOf]
  simp only [walkUp_of_relisted relisted]

/-- Trees that differ only in the order in which their directories list their entries have the same
project file for each directory, and each path has the same package descriptor, package name and
package directory in them. A resolver also remembers the same afterwards, whatever it remembers
before. -/
theorem discovery_ignores_listing_order (relisted : Relisted tree other) :
    (∀ directory, Project.discover tree directory = Project.discover other directory) ∧
      ∀ (resolver : Resolver) (path : Path),
        resolver.descriptorOf tree path = resolver.descriptorOf other path ∧
          resolver.packageOf tree path = resolver.packageOf other path ∧
          resolver.packageDirectoryOf tree path = resolver.packageDirectoryOf other path := by
  constructor
  · intro directory
    exact Project.discoverAlong_of_relisted relisted none directory.ancestors
  · intro resolver path
    have descriptor := descriptorOf_of_relisted relisted resolver path
    refine ⟨descriptor, ?_, ?_⟩
    · rw [packageOf, packageOf, descriptor]
    · rw [packageDirectoryOf, packageDirectoryOf, descriptor]

/-- A project with two candidates, below a directory with a package descriptor. -/
def workshopTree : FileTree where
  entries :=
    [(["kit.nimble"], .file []), (["work"], .directory), (["work", "zeta.nims"], .file []),
      (["work", "zeta.nim"], .file []), (["work", "alpha.nims"], .file []),
      (["work", "alpha.nim"], .file [])]
  workdir := []
  distinct := by decide

/-- The same project, listed backwards. -/
def workshopTreeBackwards : FileTree where
  entries := workshopTree.entries.reverse
  workdir := []
  distinct := by decide

theorem discovery_ignores_listing_order_backwards :
    workshopTree.regularFiles ⟨"/work"⟩ ≠ workshopTreeBackwards.regularFiles ⟨"/work"⟩ ∧
      Project.discover workshopTree ⟨"/work"⟩ = some ⟨"/work/alpha.nim"⟩ ∧
      Project.discover workshopTreeBackwards ⟨"/work"⟩ = some ⟨"/work/alpha.nim"⟩ := by
  have relisted : Relisted workshopTree workshopTreeBackwards :=
    .of_perm rfl (List.reverse_perm workshopTree.entries).symm
  obtain ⟨project, -⟩ := discovery_ignores_listing_order relisted
  have directories : (Path.mk "/work").ancestors = [⟨"/work"⟩, ⟨"/"⟩] := by
    decide +kernel
  have files : [⟨"alpha.nim", "alpha", "nim"⟩, ⟨"alpha.nims", "alpha", "nims"⟩,
      ⟨"zeta.nim", "zeta", "nim"⟩, ⟨"zeta.nims", "zeta", "nims"⟩] =
        Descriptor.inDirectory workshopTree ⟨"/work"⟩ :=
    Descriptor.eq_inDirectory_of_perm (by decide +kernel) (by decide +kernel)
  have found : Project.discover workshopTree ⟨"/work"⟩ = some ⟨"/work/alpha.nim"⟩ := by
    rw [Project.discover, directories, Project.discoverAlong, ← files]
    have offers : Project.Offer.addAll? workshopTree ⟨"/work"⟩ ⟨[], none⟩
        [⟨"alpha.nim", "alpha", "nim"⟩, ⟨"alpha.nims", "alpha", "nims"⟩,
          ⟨"zeta.nim", "zeta", "nim"⟩, ⟨"zeta.nims", "zeta", "nims"⟩] =
        some ⟨[⟨0, ⟨"/work/alpha.nim"⟩⟩, ⟨0, ⟨"/work/zeta.nim"⟩⟩], none⟩ := by
      decide +kernel
    rw [offers]
    simp only
    rw [List.mergeSort_of_pairwise]
    · decide +kernel
    · decide
  exact ⟨by decide +kernel, found, project _ ▸ found⟩

end Resolver

end Frontend
