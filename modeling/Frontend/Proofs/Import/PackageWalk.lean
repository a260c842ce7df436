import Frontend.Import.Package
import Frontend.Proofs.FileTree.Name
import Frontend.Proofs.FileTree.Walk

/-!
# Walks to the nearest package descriptor

A walk up from a directory ends at the first directory that holds package descriptors, or at one that
is remembered. Which descriptor it finds does not depend on how the directories are spelled, as long
as none of them is written so long that it cannot be looked up. Two memories that agree on what a walk
would find lead every walk to the same descriptor, whichever of the two remembers more.
-/

namespace Frontend

open Frontend.Path

/-! ## Descriptors in a directory -/

namespace Descriptor

/-- The names of the regular files in a directory that have the extension of package descriptors. -/
def packageNames (tree : FileTree) (directory : Path) : List FileName :=
  (tree.regularFiles directory).filter fun name =>
    name.splitExtension.2 = some packageExtension

theorem splitExtension_sharedName : (splitExtension sharedName).2 = some "nims" := by
  decide +kernel

theorem map_name_filterMap_ofName? (names : List FileName) :
    ((names.filterMap ofName?).filter (·.extension == packageExtension)).map Described.name =
      (names.filter fun name => name.splitExtension.2 = some packageExtension).map
        FileName.shown := by
  induction names with
  | nil => rfl
  | cons name rest ih =>
      by_cases shared : name.shown = sharedName
      · have other : ¬ name.splitExtension.2 = some packageExtension := by
          rw [name.splitExtension_eq, shared, splitExtension_sharedName]
          decide
        rw [List.filterMap_cons_none (by simp [ofName?, shared]), ih,
          List.filter_cons_of_neg (by simpa using other)]
      · rcases split : name.splitExtension with ⟨stem, _ | extension⟩
        · rw [List.filterMap_cons_none (by simp [ofName?, shared, split]), ih,
            List.filter_cons_of_neg (by simp [split])]
        · have described : ofName? name = some ⟨name.shown, stem, extension⟩ := by
            simp [ofName?, shared, split]
          rw [List.filterMap_cons_some described]
          by_cases isPackage : extension = packageExtension
          · rw [List.filter_cons_of_pos (by simpa using isPackage), List.map_cons, ih,
              List.filter_cons_of_pos (by simp [split, isPackage]), List.map_cons]
          · rw [List.filter_cons_of_neg (by simpa using isPackage), ih,
              List.filter_cons_of_neg (by simp [split, isPackage])]

/-- The package descriptors are listed by name, all others left out. -/
theorem perm_packageNames (tree : FileTree) (directory : Path) :
    ((packagesIn tree directory).map Described.name).Perm
      ((packageNames tree directory).map FileName.shown) := by
  rw [packageNames, ← map_name_filterMap_ofName?]
  exact ((List.mergeSort_perm _ _).filter _).map _

end Descriptor

namespace Resolver

open Descriptor FileTree

/-! ## The nearest descriptor -/

variable (tree : FileTree)

/-- The package descriptor in the nearest directory that holds any, unless it holds several. -/
def nearestDescriptor? (directories : List Path) : Option Path :=
  match directories.find? fun directory => !(packageNames tree directory).isEmpty with
  | none => none
  | some directory =>
      match packageNames tree directory with
      | [only] => some (directory.join ⟨only.shown⟩)
      | _ => none

theorem nearestDescriptor?_cons_of_nil {directory : Path} (above : List Path)
    (nothing : packageNames tree directory = []) :
    nearestDescriptor? tree (directory :: above) = nearestDescriptor? tree above := by
  rw [nearestDescriptor?, List.find?_cons_of_neg (by simp [nothing])]
  rfl

theorem nearestDescriptor?_cons_of_singleton {directory : Path} {name : FileName}
    (above : List Path) (only : packageNames tree directory = [name]) :
    nearestDescriptor? tree (directory :: above) = some (directory.join ⟨name.shown⟩) := by
  rw [nearestDescriptor?, List.find?_cons_of_pos (by simp [only])]
  simp only [only]

theorem nearestDescriptor?_cons_of_several {directory : Path} {first second : FileName}
    {others : List FileName} (above : List Path)
    (several : packageNames tree directory = first :: second :: others) :
    nearestDescriptor? tree (directory :: above) = none := by
  rw [nearestDescriptor?, List.find?_cons_of_pos (by simp [several])]
  simp only [several]

/-- What a directory holds decides a walk in the way in which it decides the search for the nearest
descriptor. -/
theorem walkUp_cons_of_unknown {known : List (List Component × Option Path)} {directory : Path}
    (above : List Path) (unknown : known.lookup directory.components = none) :
    (packageNames tree directory = [] ∧
        walkUp tree known (directory :: above) =
          ((walkUp tree known above).1, directory :: (walkUp tree known above).2)) ∨
      (packageNames tree directory ≠ [] ∧
        walkUp tree known (directory :: above) =
          (nearestDescriptor? tree (directory :: above), [directory])) := by
  have listed := perm_packageNames tree directory
  rw [walkUp, unknown]
  cases held : packagesIn tree directory with
  | nil =>
      rw [held] at listed
      exact Or.inl ⟨List.map_eq_nil_iff.mp listed.symm.eq_nil, rfl⟩
  | cons first rest =>
      rw [held, List.map_cons] at listed
      refine Or.inr ⟨?_, ?_⟩
      · intro nothing
        rw [nothing] at listed
        exact List.cons_ne_nil _ _ listed.eq_nil
      cases rest with
      | nil =>
          have only : (packageNames tree directory).map FileName.shown = [first.name] :=
            List.perm_singleton.mp listed.symm
          obtain ⟨name, isOnly, isShown⟩ := List.map_eq_singleton_iff.mp only
          rw [nearestDescriptor?_cons_of_singleton tree above isOnly, isShown]
      | cons second others =>
          have length := listed.length_eq
          cases names : packageNames tree directory with
          | nil => simp [names] at length
          | cons name more =>
              cases more with
              | nil => simp [names] at length
              | cons next more => rw [nearestDescriptor?_cons_of_several tree above names]

/-- Where nothing is remembered, a walk finds the nearest descriptor. -/
theorem walkUp_nil (directories : List Path) :
    (walkUp tree [] directories).1 = nearestDescriptor? tree directories := by
  induction directories with
  | nil => rfl
  | cons directory above ih =>
      rcases @walkUp_cons_of_unknown tree [] directory above rfl with
        ⟨nothing, goesOn⟩ | ⟨_, ends⟩
      · rw [goesOn, nearestDescriptor?_cons_of_nil tree above nothing, ← ih]
      · rw [ends]

/-! ## Spellings -/

/-- Directories, each with those above it, that hold under their shortest spelling what they hold
under their own. -/
structure Passable (directories : List Path) : Prop where
  chain : IsChain directories
  unpadded : ∀ directory ∈ directories, Unpadded directory

namespace Passable

theorem tail {directory : Path} {above : List Path} (passable : Passable (directory :: above)) :
    Passable above :=
  ⟨passable.chain.2.2, fun other member => passable.unpadded other (List.mem_cons_of_mem _ member)⟩

theorem packagesIn_eq {directory : Path} {above : List Path}
    (passable : Passable (directory :: above)) :
    packagesIn tree directory = packagesIn tree directory.shortest := by
  rw [packagesIn, packagesIn, inDirectory, inDirectory,
    regularFiles_shortest tree passable.chain.1 (passable.unpadded directory List.mem_cons_self)]

theorem above {path : Path} (unpadded : UnpaddedAbove path) : Passable path.above :=
  ⟨path.isChain_above, unpadded⟩

/-- One may walk up from the shortest spelling of any directory. -/
theorem ancestors_shortest (directory : Path) : Passable directory.shortest.ancestors := by
  constructor
  · exact isChain_ancestors directory.tidy_shortest
  · intro other member
    rcases List.mem_cons.mp member with rfl | above
    · rw [Unpadded, shortest, components_shortest]
      exact id
    · rw [Unpadded, shortest_of_mem_above directory.writable_components above]
      exact id

end Passable

/-- The walks from two spellings of one directory find spellings of one descriptor, whatever is
remembered. -/
theorem walkUp_of_same {known : List (List Component × Option Path)} {first second : List Path}
    (passable : Passable first) (passable' : Passable second)
    (same : first.map components = second.map components) :
    (walkUp tree known first).1.map components = (walkUp tree known second).1.map components := by
  induction first generalizing second with
  | nil => rw [List.map_eq_nil_iff.mp same.symm]
  | cons directory above ih =>
      cases second with
      | nil => cases same
      | cons other above' =>
          obtain ⟨here, further⟩ := List.cons.inj same
          have held : packagesIn tree directory = packagesIn tree other := by
            rw [passable.packagesIn_eq, passable'.packagesIn_eq, shortest, here]
            rfl
          rw [walkUp, walkUp, here, held]
          cases known.lookup other.components with
          | some found => rfl
          | none =>
              cases packagesIn tree other with
              | nil => exact ih passable.tail passable'.tail further
              | cons first others =>
                  cases others with
                  | nil => exact congrArg some (components_join_of_same here ⟨first.name⟩)
                  | cons second others => rfl

theorem walkUp_ancestors_shortest (known : List (List Component × Option Path)) {directory : Path}
    {above : List Path} (passable : Passable (directory :: above)) :
    (walkUp tree known directory.shortest.ancestors).1.map components =
      (walkUp tree known (directory :: above)).1.map components := by
  apply walkUp_of_same tree (Passable.ancestors_shortest directory) passable
  rw [ancestors, List.map_cons, List.map_cons, components_shortest,
    map_components_above_of_same directory.components_shortest, passable.chain.2.1]

/-! ## Memories that say the same -/

/-- What `known` remembers of each directory is what a walk from it would find with the help of
`base`, and it remembers something of each directory of which `base` does. -/
structure Extends (base known : List (List Component × Option Path)) : Prop where
  recalled : ∀ {directory : Path} {found : Option Path},
    known.lookup directory.components = some found →
      found.map components = (walkUp tree base directory.shortest.ancestors).1.map components
  kept : ∀ {directory : Path}, known.lookup directory.components = none →
    base.lookup directory.components = none

theorem extends_refl (known : List (List Component × Option Path)) : Extends tree known known where
  recalled := by
    intro directory found remembered
    rw [ancestors, walkUp, components_shortest, remembered]
  kept := id

variable {base known : List (List Component × Option Path)}

/-- With either memory a walk finds one descriptor, and it is the one that is found from each of the
directories that the walk visits. -/
theorem walkUp_of_extends (extended : Extends tree base known) {directories : List Path}
    (passable : Passable directories) :
    (walkUp tree known directories).1.map components =
        (walkUp tree base directories).1.map components ∧
      ∀ directory ∈ (walkUp tree known directories).2,
        (walkUp tree known directories).1.map components =
          (walkUp tree base directory.shortest.ancestors).1.map components := by
  induction directories with
  | nil => exact ⟨rfl, fun _ member => absurd member List.not_mem_nil⟩
  | cons directory above ih =>
      have respelled := walkUp_ancestors_shortest tree base passable
      cases remembered : known.lookup directory.components with
      | some found =>
          have walked : walkUp tree known (directory :: above) = (found, []) := by
            rw [walkUp, remembered]
          rw [walked]
          exact ⟨(extended.recalled remembered).trans respelled,
            fun _ none => absurd none List.not_mem_nil⟩
      | none =>
          rcases walkUp_cons_of_unknown tree above remembered with
            ⟨nothing, goesOn⟩ | ⟨something, ends⟩
          · rcases walkUp_cons_of_unknown tree above (extended.kept remembered) with
              ⟨_, goesOn'⟩ | ⟨something, _⟩
            · obtain ⟨found, learnt⟩ := ih passable.tail
              rw [goesOn'] at respelled ⊢
              rw [goesOn]
              refine ⟨found, ?_⟩
              intro other visited
              rcases List.mem_cons.mp visited with rfl | later
              · rw [respelled]
                exact found
              · exact learnt other later
            · exact absurd nothing something
          · rcases walkUp_cons_of_unknown tree above (extended.kept remembered) with
              ⟨nothing, _⟩ | ⟨_, ends'⟩
            · exact absurd nothing something
            · rw [ends'] at respelled ⊢
              rw [ends]
              refine ⟨rfl, ?_⟩
              intro other visited
              rw [List.mem_singleton.mp visited]
              exact respelled.symm

/-- What a walk learns is what any walk would find from the directories that it visits. -/
theorem extends_descriptorOf {resolver : Resolver}
    (extended : Extends tree base resolver.knownDescriptors) {path : Path}
    (unpadded : UnpaddedAbove path) :
    Extends tree base (resolver.descriptorOf tree path).2.knownDescriptors := by
  obtain ⟨-, learnt⟩ := walkUp_of_extends tree extended (Passable.above unpadded)
  rw [knownDescriptors_descriptorOf]
  constructor
  · intro directory found remembered
    rw [List.lookup_append, Option.or_eq_some_iff] at remembered
    rcases remembered with new | ⟨-, old⟩
    · obtain ⟨before, after, split, -⟩ := List.lookup_eq_some_iff.mp new
      have member : (directory.components, found) ∈ before ++ (directory.components, found) :: after :=
        List.mem_append_right before List.mem_cons_self
      rw [← split] at member
      obtain ⟨other, visited, isEntry⟩ := List.mem_map.mp member
      obtain ⟨same, rfl⟩ := Prod.mk.inj isEntry
      rw [shortest, ← same]
      exact learnt other visited
    · exact extended.recalled old
  · intro directory forgotten
    rw [List.lookup_append, Option.or_eq_none_iff] at forgotten
    exact extended.kept forgotten.2

end Resolver

end Frontend
