import Frontend.Import.Use
import Frontend.Proofs.Import.Candidate
import Frontend.Proofs.Import.PackageWalk

/-!
# What is remembered of packages

A resolver remembers for every directory that a walk visited what the walk found, and ends the next
walk where it meets such a directory. While the tree stays as it is this shows in no answer: what is
remembered of a directory is what a walk from it would find.

What is remembered is found again under the steps of a directory, while the tree is asked for its
text. The two agree for every path that is short enough to be looked up. A directory whose text only
doubled slashes and dots make too long seems to hold no file, and its steps are remembered as those
of a directory that holds none.
-/

namespace Frontend

open Frontend.Path

namespace Resolver

open Descriptor FileTree

variable (tree : FileTree)

/-! ## Coherent memory -/

/-- What is remembered of each directory is what a walk from it would find. -/
def Coherent (known : List (List Component × Option Path)) : Prop :=
  ∀ steps found, (steps, found) ∈ known →
    found.map components =
      (nearestDescriptor? tree (ofComponents steps).ancestors).map components

/-- A coherent memory says what no memory at all would leave to be found. -/
theorem Coherent.extended {known : List (List Component × Option Path)}
    (coherent : Coherent tree known) : Extends tree [] known where
  recalled := by
    intro directory found remembered
    obtain ⟨newer, older, split, -⟩ := List.lookup_eq_some_iff.mp remembered
    have member : (directory.components, found) ∈ known := by
      rw [split]
      exact List.mem_append_right newer List.mem_cons_self
    rw [walkUp_nil]
    exact coherent _ _ member
  kept := fun _ => rfl

/-- With a coherent memory a walk finds the nearest descriptor, and it is the nearest one to all
directories that the walk visits. -/
theorem walkUp_of_coherent {known : List (List Component × Option Path)}
    (coherent : Coherent tree known) {directories : List Path} (passable : Passable directories) :
    (walkUp tree known directories).1.map components =
        (nearestDescriptor? tree directories).map components ∧
      ∀ directory ∈ (walkUp tree known directories).2,
        (walkUp tree known directories).1.map components =
          (nearestDescriptor? tree directory.shortest.ancestors).map components := by
  simp only [← walkUp_nil]
  exact walkUp_of_extends tree (coherent.extended tree) passable

namespace Coherent

variable {tree} {resolver : Resolver}

theorem descriptorOf_fst (coherent : Coherent tree resolver.knownDescriptors) {path : Path}
    (unpadded : UnpaddedAbove path) :
    (resolver.descriptorOf tree path).1.map components =
      (nearestDescriptor? tree path.above).map components := by
  rw [Resolver.descriptorOf_fst]
  exact (walkUp_of_coherent tree coherent (Passable.above unpadded)).1

theorem descriptorOf_snd (coherent : Coherent tree resolver.knownDescriptors) {path : Path}
    (unpadded : UnpaddedAbove path) :
    Coherent tree (resolver.descriptorOf tree path).2.knownDescriptors := by
  obtain ⟨-, learnt⟩ := walkUp_of_coherent tree coherent (Passable.above unpadded)
  rw [knownDescriptors_descriptorOf]
  intro steps found member
  rcases List.mem_append.mp member with new | old
  · obtain ⟨directory, visited, isEntry⟩ := List.mem_map.mp new
    cases isEntry
    exact learnt directory visited
  · exact coherent steps found old

end Coherent

/-! ## Uses -/

/-- The path about whose package a use asks. -/
def Use.asked? : Use → Option Path
  | .descriptorOf path | .packageOf path | .packageDirectoryOf path | .importName path => some path
  | _ => none

/-- What a search finds is spelled as short as can be, or else short enough. -/
theorem unpaddedAbove_canonicalOr (named : IsNamed tree.workdir) {file : Path}
    (isFile : tree.isFile file = true) :
    UnpaddedAbove (tree.canonicalOr file) := by
  rw [canonicalOr]
  cases made : tree.canonical? file with
  | none => exact unpaddedAbove_of_short (utf8ByteSize_lt_of_isFile tree isFile)
  | some canonical =>
      obtain ⟨place, properNames, rfl⟩ := exists_of_canonical?_eq_some tree named made
      have writable : Writable (.root :: place.map .name) := by
        refine ⟨.root, place.map .name, rfl, ?_⟩
        intro step member
        obtain ⟨name, inPlace, rfl⟩ := List.mem_map.mp member
        exact properNames name inPlace
      intro directory member
      rw [Unpadded, shortest_of_mem_above writable member]
      exact id

theorem knownDescriptors_search (resolver : Resolver) (name : String) (outsideLibrary : Bool) :
    (resolver.search tree name outsideLibrary).2.knownDescriptors = resolver.knownDescriptors := by
  rw [search_eq_takeFirst, takeFirst]
  split
  · rename_i candidate _
    cases candidate.origin <;> rfl
  · rfl

/-- An import leaves what is remembered alone, or asks for the package of a path that can be looked
up. -/
theorem knownDescriptors_resolve (resolver : Resolver) (named : IsNamed tree.workdir)
    (specifier : String) (importer : Path) (outsideLibrary : Bool) :
    (resolver.resolve tree specifier importer outsideLibrary).2.knownDescriptors =
        resolver.knownDescriptors ∨
      ∃ path, UnpaddedAbove path ∧
        (resolver.resolve tree specifier importer outsideLibrary).2.knownDescriptors =
          (resolver.descriptorOf tree path).2.knownDescriptors := by
  cases first : firstFile? tree
      (resolver.importCandidates specifier importer outsideLibrary) with
  | none =>
      rw [resolve_of_firstFile?_eq_none resolver tree first]
      exact Or.inl rfl
  | some candidate =>
      have still : (resolver.afterHit candidate.origin).knownDescriptors =
          resolver.knownDescriptors := by
        cases candidate.origin <;> rfl
      rw [resolve_of_firstFile?_eq_some resolver tree first]
      rcases (resolver.afterHit candidate.origin).replaceOverridden_snd_eq tree
        (tree.canonicalOr candidate.file) with same | asked
      · rw [same]
        exact Or.inl still
      · have isFile := List.find?_some first
        refine Or.inr ⟨_, unpaddedAbove_canonicalOr tree named isFile, ?_⟩
        rw [asked, knownDescriptors_descriptorOf, knownDescriptors_descriptorOf, still]

namespace Coherent

variable {tree} {resolver : Resolver}

theorem resolve_snd (coherent : Coherent tree resolver.knownDescriptors)
    (named : IsNamed tree.workdir) (specifier : String) (importer : Path) (outsideLibrary : Bool) :
    Coherent tree (resolver.resolve tree specifier importer outsideLibrary).2.knownDescriptors := by
  rcases knownDescriptors_resolve tree resolver named specifier importer outsideLibrary with
    same | ⟨path, unpadded, asked⟩
  · rw [same]
    exact coherent
  · rw [asked]
    exact coherent.descriptorOf_snd unpadded

/-- No use of a resolver makes its memory incoherent. -/
theorem perform (coherent : Coherent tree resolver.knownDescriptors)
    (named : IsNamed tree.workdir) {use : Use}
    (unpadded : ∀ path ∈ use.asked?, UnpaddedAbove path) :
    Coherent tree (resolver.perform tree use).knownDescriptors := by
  cases use with
  | setLibrary | setProject | addSearchPath | addLazyPath | overrideModule => exact coherent
  | search name outsideLibrary =>
      rw [Resolver.perform, knownDescriptors_search]
      exact coherent
  | resolve specifier importer outsideLibrary =>
      exact coherent.resolve_snd named specifier importer outsideLibrary
  | descriptorOf path | packageDirectoryOf path | importName path =>
      exact coherent.descriptorOf_snd (unpadded path rfl)
  | packageOf path =>
      rw [Resolver.perform, packageOf_snd_eq]
      exact coherent.descriptorOf_snd (unpadded path rfl)

theorem performAll (coherent : Coherent tree resolver.knownDescriptors)
    (named : IsNamed tree.workdir) {uses : List Use}
    (unpadded : ∀ use ∈ uses, ∀ path ∈ use.asked?, UnpaddedAbove path) :
    Coherent tree (resolver.performAll (uses.map fun use => (tree, use))).knownDescriptors := by
  induction uses generalizing resolver with
  | nil => exact coherent
  | cons use rest ih =>
      rw [List.forall_mem_cons] at unpadded
      exact ih (coherent.perform named unpadded.1) unpadded.2

end Coherent

/-- The resolver with nothing remembered. -/
def forgetful (resolver : Resolver) : Resolver :=
  { resolver with knownDescriptors := [] }

theorem descriptorOf_forgetful (resolver : Resolver) (path : Path) :
    (resolver.forgetful.descriptorOf tree path).1 = nearestDescriptor? tree path.above := by
  rw [descriptorOf_fst]
  exact walkUp_nil tree path.above

/-- A directory with a package descriptor, seen from inside. -/
def packagedTree : FileTree where
  entries := [(["a"], .directory), (["a", "p.nimble"], .file [])]
  workdir := ["a"]
  distinct := by decide

/-- While the tree stays as it is, nothing that a resolver remembers shows in what it says about
packages. It answers as it would if it remembered nothing: with the package descriptor in the
nearest directory above the path that holds any, and with none if that directory holds several or
there is no such directory. The descriptor is named as it is read. -/
theorem package_memory_invisible (resolver : Resolver) (nothing : resolver.knownDescriptors = [])
    (named : IsNamed tree.workdir) (uses : List Use)
    (unpadded : ∀ use ∈ uses, ∀ path ∈ use.asked?, UnpaddedAbove path)
    (path : Path) (unpaddedHere : UnpaddedAbove path) :
    let later := resolver.performAll (uses.map fun use => (tree, use))
    let fresh := later.forgetful
    (fresh.descriptorOf tree path).1 = nearestDescriptor? tree path.above ∧
      (later.descriptorOf tree path).1.map components =
        (fresh.descriptorOf tree path).1.map components ∧
      (later.packageOf tree path).1 = (fresh.packageOf tree path).1 ∧
      (later.packageDirectoryOf tree path).1.map components =
        (fresh.packageDirectoryOf tree path).1.map components := by
  intro later fresh
  have start : Coherent tree resolver.knownDescriptors := by
    intro steps found member
    rw [nothing] at member
    exact absurd member List.not_mem_nil
  have bare : (fresh.descriptorOf tree path).1 = nearestDescriptor? tree path.above :=
    descriptorOf_forgetful tree later path
  have same : (later.descriptorOf tree path).1.map components =
      (fresh.descriptorOf tree path).1.map components := by
    rw [bare]
    exact (start.performAll named unpadded).descriptorOf_fst unpaddedHere
  refine ⟨bare, same, ?_, ?_⟩
  · rw [packageOf_fst, packageOf_fst, ← descriptorOf_fst, ← descriptorOf_fst,
      bind_of_same stem?_of_same same]
    rfl
  · simp only [packageDirectoryOf, Option.map_bind]
    exact bind_of_same parent?_of_same same

theorem package_memory_invisible_respelled :
    let uses : List Use :=
      [.descriptorOf ⟨"b/../m"⟩, .resolve "m" ⟨""⟩ false, .importName ⟨"/a/b/m"⟩]
    let later := (initial [] "nim").performAll (uses.map fun use => (packagedTree, use))
    (later.descriptorOf packagedTree ⟨"/a//b/m"⟩).1.map components =
        some [.root, .name "a", .name "p.nimble"] ∧
      (later.packageOf packagedTree ⟨"/a//b/m"⟩).1 = "p" := by
  intro uses later
  have short : ∀ use ∈ uses, ∀ path ∈ use.asked?, path.text.utf8ByteSize < pathLimitBytes := by
    decide +kernel
  obtain ⟨nearest, descriptor, package, -⟩ := package_memory_invisible packagedTree
    (initial [] "nim") rfl (by decide +kernel) uses
    (fun use member path isAsked => unpaddedAbove_of_short (short use member path isAsked))
    ⟨"/a//b/m"⟩ (unpaddedAbove_of_short (by decide +kernel))
  constructor
  · rw [descriptor, nearest]
    decide +kernel
  · rw [package]
    decide +kernel

/-! ## Texts that are too long -/

/-- A path to a file in the directory `a` below the root, with some slashes more than it needs. -/
def paddedPath (count : Nat) : Path :=
  ofParts ⟨.root, List.replicate count "" ++ ["a", "m"]⟩

/-- The directory of the file, with as many slashes. -/
def paddedDirectory (count : Nat) : Path :=
  ofParts ⟨.root, List.replicate count "" ++ ["a"]⟩

theorem slash_notMem_of_mem_padded {count : Nat} {names : List String} (named : IsNamed names) :
    ∀ piece ∈ List.replicate count "" ++ names, '/' ∉ piece.toList := by
  intro piece member
  rcases List.mem_append.mp member with padding | isName
  · rw [List.eq_of_mem_replicate padding]
    exact List.not_mem_nil
  · exact (named piece isName).2.2

theorem above_paddedPath (count : Nat) :
    (paddedPath count).above = [paddedDirectory count, ⟨"/"⟩] := by
  have cut : Parts.WellCut ⟨.root, List.replicate count "" ++ ["a", "m"]⟩ :=
    ⟨slash_notMem_of_mem_padded (by decide +kernel), fun free => nomatch free⟩
  have padding (count : Nat) : aboveOf .root (List.replicate count "") = [] ∧
      (List.replicate count "").dropWhile silent = [] := by
    induction count with
    | zero => exact ⟨rfl, rfl⟩
    | succ count ih => exact ih
  rw [above, paddedPath, parts_ofParts cut (by simp), List.reverse_append, List.reverse_replicate]
  show ofParts ⟨.root, (("a" :: List.replicate count "").dropWhile silent).reverse⟩ ::
    ofParts ⟨.root, ((List.replicate count "").dropWhile silent).reverse⟩ ::
      aboveOf .root (List.replicate count "") = _
  rw [(padding count).1, (padding count).2, List.dropWhile_cons_of_neg (by decide +kernel),
    List.reverse_cons, List.reverse_replicate]
  rfl

theorem components_paddedDirectory (count : Nat) :
    (paddedDirectory count).components = [.root, .name "a"] := by
  have cut : Parts.WellCut ⟨.root, List.replicate count "" ++ ["a"]⟩ :=
    ⟨slash_notMem_of_mem_padded (by decide +kernel), fun free => nomatch free⟩
  rw [paddedDirectory, components_ofParts cut, List.filterMap_append,
    List.filterMap_replicate_of_none rfl]
  rfl

theorem le_utf8ByteSize_paddedDirectory (count : Nat) :
    count ≤ (paddedDirectory count).text.utf8ByteSize := by
  rw [paddedDirectory, text_ofParts_root, String.utf8ByteSize_ofList, String.utf8Len_cons]
  apply Nat.le_add_right_of_le
  induction count with
  | zero => exact Nat.zero_le _
  | succ count ih =>
      rw [List.replicate_succ, List.cons_append, List.map_cons,
        joinSlash_cons_of_ne_nil _ (by simp)]
      exact Nat.succ_le_succ ih

/-- A walk from a path whose text is too long misses the descriptor, and what is remembered then is
found under the steps of its directories. -/
theorem knownDescriptors_paddedPath {resolver : Resolver} (nothing : resolver.knownDescriptors = [])
    {count : Nat} (long : pathLimitBytes ≤ count) :
    (resolver.descriptorOf packagedTree (paddedPath count)).2.knownDescriptors =
      [([.root, .name "a"], none), ([.root], none)] := by
  have missed : packageNames packagedTree (paddedDirectory count) = [] := by
    rw [packageNames, regularFiles_of_long packagedTree
      (long.trans (le_utf8ByteSize_paddedDirectory count))]
    rfl
  have further : walkUp packagedTree [] [⟨"/"⟩] = (none, [⟨"/"⟩]) := by
    decide +kernel
  have walked : walkUp packagedTree [] [paddedDirectory count, ⟨"/"⟩] =
      (none, [paddedDirectory count, ⟨"/"⟩]) := by
    rcases @walkUp_cons_of_unknown packagedTree [] (paddedDirectory count) [⟨"/"⟩] rfl with
      ⟨_, goesOn⟩ | ⟨holds, _⟩
    · rw [goesOn, further]
    · exact absurd missed holds
  have root : (Path.mk "/").components = [.root] := by
    decide +kernel
  rw [knownDescriptors_descriptorOf, nothing, above_paddedPath, walked]
  simp only [List.map_cons, List.map_nil, components_paddedDirectory, root, List.append_nil]

/-- A question about a padded path hides the descriptor from the next question about a file in its
directory. -/
theorem descriptorOf_after_paddedPath {count : Nat} (long : pathLimitBytes ≤ count) :
    let asked := (initial [] "nim").performAll [(packagedTree, .descriptorOf (paddedPath count))]
    (asked.descriptorOf packagedTree ⟨"/a/m"⟩).1 = none ∧
      (asked.forgetful.descriptorOf packagedTree ⟨"/a/m"⟩).1 = some ⟨"/a/p.nimble"⟩ := by
  intro asked
  have learnt : asked.knownDescriptors = [([.root, .name "a"], none), ([.root], none)] := by
    simp only [asked, performAll_cons, performAll_nil, perform]
    exact knownDescriptors_paddedPath rfl long
  constructor
  · rw [descriptorOf_fst, learnt]
    decide +kernel
  · rw [descriptorOf_forgetful]
    decide +kernel

theorem padded_question_hides_descriptor :
    let asked := (initial [] "nim").performAll
      [(packagedTree, .descriptorOf (paddedPath pathLimitBytes))]
    (asked.descriptorOf packagedTree ⟨"/a/m"⟩).1.map components ≠
      (asked.forgetful.descriptorOf packagedTree ⟨"/a/m"⟩).1.map components := by
  intro asked
  obtain ⟨hidden, fresh⟩ := descriptorOf_after_paddedPath (Nat.le_refl pathLimitBytes)
  rw [hidden, fresh]
  exact nofun

/-! ## Names that are no text -/

/-- The name of a package descriptor whose stem is no text. -/
def strayDescriptor : StrayName where
  bytes := 0xFF :: Text.Utf8.encode ".nimble"
  notText := by decide +kernel
  whole := by decide +kernel

/-- A directory whose only package descriptor has that name. -/
def strayPackagedTree : FileTree where
  entries := [(["a"], .directory), (.stray ["a"] strayDescriptor, .file [])]
  workdir := []
  distinct := by decide +kernel

/-- The answer is the path to another name, and there is no such file. -/
theorem stray_descriptor_is_misnamed :
    packageNames strayPackagedTree ⟨"/a"⟩ = [.stray strayDescriptor] ∧
      ((initial [] "nim").descriptorOf strayPackagedTree ⟨"/a/m"⟩).1 =
        some ⟨"/a/\uFFFD.nimble"⟩ ∧
      strayPackagedTree.find? ⟨"/a/\uFFFD.nimble"⟩ = none := by
  refine ⟨by decide +kernel, ?_, by decide +kernel⟩
  change ((initial [] "nim").forgetful.descriptorOf strayPackagedTree ⟨"/a/m"⟩).1 = _
  rw [descriptorOf_forgetful]
  decide +kernel

end Resolver

end Frontend
