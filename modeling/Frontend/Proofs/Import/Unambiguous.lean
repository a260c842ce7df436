import Frontend.Proofs.Import.LazyCandidates
import Frontend.Proofs.Import.PackageMemory

/-!
# Imports whose meaning does not depend on the past

Looking for a file can move a lazily used path to the front, and asking for the package of what was
found is remembered. An import for which the lazily used paths leave no choice takes no notice of
either: it finds the same file in every order of the paths, and walks with the help of what has been
remembered meanwhile end at the same package as walks without it.
-/

namespace Frontend.Resolver

open Frontend.FileTree Frontend.Path

variable {resolver later : Resolver} {tree : FileTree}

/-! ## What an import answers -/

theorem resolve_fst (resolver : Resolver) (tree : FileTree) (specifier : String) (importer : Path)
    (outsideLibrary : Bool) :
    (resolver.resolve tree specifier importer outsideLibrary).1 =
      (firstFile? tree (resolver.importCandidates specifier importer outsideLibrary)).map
        fun candidate =>
          (resolver.replacement? tree (tree.canonicalOr candidate.file)).getD
            (tree.canonicalOr candidate.file) := by
  cases first : firstFile? tree
      (resolver.importCandidates specifier importer outsideLibrary) with
  | none =>
      rw [resolver.resolve_of_firstFile?_eq_none tree first]
      rfl
  | some candidate =>
      rw [resolver.resolve_of_firstFile?_eq_some tree first, replaceOverridden_fst,
        replacement?_afterHit]
      rfl

/-- The order of the lazily used paths has no part in overrides. -/
theorem replacement?_reordering (resolver : Resolver) (tree : FileTree) (paths : List Path)
    (path : Path) :
    { resolver with lazyPaths := paths }.replacement? tree path =
      resolver.replacement? tree path := by
  unfold replacement?
  simp only [packageOf_fst]
  rfl

/-! ## What looking things up leaves behind -/

/-- The use looks something up. -/
def Use.isLookup : Use → Bool
  | .search _ _ | .resolve _ _ _ => true
  | .setLibrary _ | .setProject _ | .addSearchPath _ | .addLazyPath _ | .overrideModule _ _ _
  | .descriptorOf _ | .packageOf _ | .packageDirectoryOf _ | .importName _ => false

variable (tree) in
/-- The resolver has become another one in which only the order of the lazily used paths has changed,
and what is remembered leads every walk to where it led before. -/
structure Reordered (resolver later : Resolver) : Prop where
  exists_eq : ∃ paths known,
    later = { resolver with lazyPaths := paths, knownDescriptors := known }
  perm : later.lazyPaths.Perm resolver.lazyPaths
  recalls : Extends tree resolver.knownDescriptors later.knownDescriptors

theorem reordered_refl (resolver : Resolver) : Reordered tree resolver resolver where
  exists_eq := ⟨resolver.lazyPaths, resolver.knownDescriptors, rfl⟩
  perm := List.Perm.refl _
  recalls := extends_refl tree _

theorem exists_afterHit_eq (resolver : Resolver) (origin : Origin) :
    ∃ paths, resolver.afterHit origin = { resolver with lazyPaths := paths } := by
  cases origin with
  | lazyPath => exact ⟨_, rfl⟩
  | absolute | neighbour | library | searchPath => exact ⟨resolver.lazyPaths, rfl⟩

/-- A look-up changes nothing but the order of the lazily used paths and what is remembered. -/
theorem exists_perform_eq (resolver : Resolver) (tree : FileTree) {use : Use}
    (isLookup : use.isLookup = true) :
    ∃ paths known, resolver.perform tree use =
      { resolver with lazyPaths := paths, knownDescriptors := known } := by
  cases use with
  | search name outsideLibrary =>
      rw [perform, search_eq_takeFirst, takeFirst]
      cases firstFile? tree (resolver.searchCandidates name outsideLibrary) with
      | none => exact ⟨resolver.lazyPaths, resolver.knownDescriptors, rfl⟩
      | some candidate =>
          obtain ⟨paths, moved⟩ := resolver.exists_afterHit_eq candidate.origin
          exact ⟨paths, resolver.knownDescriptors, moved⟩
  | resolve specifier importer outsideLibrary =>
      rw [perform]
      cases first : firstFile? tree
          (resolver.importCandidates specifier importer outsideLibrary) with
      | none =>
          rw [resolver.resolve_of_firstFile?_eq_none tree first]
          exact ⟨resolver.lazyPaths, resolver.knownDescriptors, rfl⟩
      | some candidate =>
          obtain ⟨paths, moved⟩ := resolver.exists_afterHit_eq candidate.origin
          obtain ⟨known, asked⟩ := (resolver.afterHit candidate.origin).replaceOverridden_snd tree
            (tree.canonicalOr candidate.file)
          rw [resolver.resolve_of_firstFile?_eq_some tree first, asked, moved]
          exact ⟨paths, known, rfl⟩
  | setLibrary | setProject | addSearchPath | addLazyPath | overrideModule | descriptorOf
  | packageOf | packageDirectoryOf | importName => cases isLookup

theorem perm_touch {paths : List Path} {hit : Option Path} (inside : ∀ path ∈ hit, path ∈ paths) :
    (touch paths hit).Perm paths := by
  cases hit with
  | none => exact List.Perm.refl paths
  | some directory => exact (List.perm_cons_erase (inside directory rfl)).symm

theorem perm_lazyPaths_perform (resolver : Resolver) (tree : FileTree) {use : Use}
    (isLookup : use.isLookup = true) :
    (resolver.perform tree use).lazyPaths.Perm resolver.lazyPaths := by
  have addsNone : use.addition? tree = none := by
    cases use with
    | addLazyPath => cases isLookup
    | search | resolve | setLibrary | setProject | addSearchPath | overrideModule | descriptorOf
    | packageOf | packageDirectoryOf | importName => rfl
  rw [lazyPaths_perform, addsNone]
  exact perm_touch fun directory hit => mem_lazyPaths_of_hit? hit

namespace Reordered

/-- What is remembered after a look-up leads walks to where they led before it. -/
theorem recalls_perform (reordered : Reordered tree resolver later) (named : IsNamed tree.workdir)
    {use : Use} (isLookup : use.isLookup = true) :
    Extends tree resolver.knownDescriptors (later.perform tree use).knownDescriptors := by
  cases use with
  | search name outsideLibrary =>
      rw [perform, knownDescriptors_search]
      exact reordered.recalls
  | resolve specifier importer outsideLibrary =>
      rw [perform]
      rcases knownDescriptors_resolve tree later named specifier importer outsideLibrary with
        same | ⟨path, unpadded, asked⟩
      · rw [same]
        exact reordered.recalls
      · rw [asked]
        exact extends_descriptorOf tree reordered.recalls unpadded
  | setLibrary | setProject | addSearchPath | addLazyPath | overrideModule | descriptorOf
  | packageOf | packageDirectoryOf | importName => cases isLookup

theorem perform (reordered : Reordered tree resolver later) (named : IsNamed tree.workdir)
    {use : Use} (isLookup : use.isLookup = true) :
    Reordered tree resolver (later.perform tree use) where
  exists_eq := by
    obtain ⟨_, _, before⟩ := reordered.exists_eq
    obtain ⟨paths, known, after⟩ := later.exists_perform_eq tree isLookup
    rw [after, before]
    exact ⟨paths, known, rfl⟩
  perm := (later.perm_lazyPaths_perform tree isLookup).trans reordered.perm
  recalls := reordered.recalls_perform named isLookup

theorem performAll (reordered : Reordered tree resolver later) (named : IsNamed tree.workdir)
    {uses : List Use} (areLookups : ∀ use ∈ uses, use.isLookup = true) :
    Reordered tree resolver (later.performAll (uses.map fun use => (tree, use))) := by
  induction uses generalizing later with
  | nil => exact reordered
  | cons use rest ih =>
      rw [List.forall_mem_cons] at areLookups
      exact ih (reordered.perform named areLookups.1) areLookups.2

/-- What is found for a path that can be looked up is replaced as it was before. -/
theorem replacement?_eq (reordered : Reordered tree resolver later) {path : Path}
    (unpadded : UnpaddedAbove path) :
    later.replacement? tree path = resolver.replacement? tree path := by
  have walked := (walkUp_of_extends tree reordered.recalls (Passable.above unpadded)).1
  have package : (later.packageOf tree path).1 = (resolver.packageOf tree path).1 := by
    obtain ⟨paths, known, eq⟩ := reordered.exists_eq
    rw [packageOf_fst, packageOf_fst, bind_of_same stem?_of_same walked, eq]
    rfl
  obtain ⟨paths, known, eq⟩ := reordered.exists_eq
  unfold replacement?
  rw [package, eq]

/-- An unambiguous import is answered as it was before. -/
theorem resolve_fst_eq (reordered : Reordered tree resolver later) (named : IsNamed tree.workdir)
    {specifier : String} (unambiguous : resolver.IsUnambiguous tree specifier) (importer : Path)
    (outsideLibrary : Bool) :
    (later.resolve tree specifier importer outsideLibrary).1 =
      (resolver.resolve tree specifier importer outsideLibrary).1 := by
  have sameFirst : firstFile? tree (later.importCandidates specifier importer outsideLibrary) =
      firstFile? tree (resolver.importCandidates specifier importer outsideLibrary) := by
    obtain ⟨paths, known, eq⟩ := reordered.exists_eq
    have perm : paths.Perm resolver.lazyPaths := by
      have perm := reordered.perm
      rwa [eq] at perm
    let reorderedOnly : Resolver := { resolver with lazyPaths := paths }
    calc
      firstFile? tree (later.importCandidates specifier importer outsideLibrary) =
          firstFile? tree (reorderedOnly.importCandidates specifier importer outsideLibrary) := by
        rw [eq, ← importCandidates_remembering reorderedOnly known]
      _ = firstFile? tree (resolver.importCandidates specifier importer outsideLibrary) :=
        firstFile?_importCandidates_of_perm perm unambiguous importer outsideLibrary
  rw [resolve_fst, resolve_fst, sameFirst]
  apply Option.map_congr
  intro candidate first
  have isFile := List.find?_some first
  rw [reordered.replacement?_eq (unpaddedAbove_canonicalOr tree named isFile)]

end Reordered

/-! ## Unambiguous imports -/

/-- An import for which no two lazily used paths hold the file that is looked for, and no two hold it
in lower case, is answered alike in every order of these paths. So it is answered alike after any
look-ups, whatever is remembered of packages from before, as long as the tree stays as it is. -/
theorem unambiguous_import_ignores_look_ups {specifier : String}
    (unambiguous : resolver.IsUnambiguous tree specifier) (importer : Path)
    (outsideLibrary : Bool) :
    let answer (resolver : Resolver) : Option Path :=
      (resolver.resolve tree specifier importer outsideLibrary).1
    (∀ paths, paths.Perm resolver.lazyPaths →
        answer { resolver with lazyPaths := paths } = answer resolver) ∧
      (IsNamed tree.workdir → ∀ uses : List Use, (∀ use ∈ uses, use.isLookup = true) →
        answer (resolver.performAll (uses.map fun use => (tree, use))) = answer resolver) := by
  intro answer
  constructor
  · intro paths perm
    simp only [answer, resolve_fst, replacement?_reordering,
      firstFile?_importCandidates_of_perm perm unambiguous importer outsideLibrary]
  · intro named uses areLookups
    exact ((reordered_refl resolver).performAll named areLookups).resolve_fst_eq named unambiguous
      importer outsideLibrary

/-- Two directories with a module each; one of them is a package. -/
def twoModuleTree : FileTree where
  entries :=
    [(["a"], .directory), (["a", "kit.nim"], .file []), (["a", "p.nimble"], .file []),
      (["b"], .directory), (["b", "n.nim"], .file [])]
  workdir := []
  distinct := by decide

theorem unambiguous_import_ignores_move :
    let resolver : Resolver :=
      { initial [] "nim" with lazyPaths := [⟨"/a"⟩, ⟨"/b"⟩] }.withOverride "p" "kit" ⟨"/k.nim"⟩
    let later := resolver.performAll [(twoModuleTree, .search "n" false)]
    later.lazyPaths = [⟨"/b"⟩, ⟨"/a"⟩] ∧
      ({ resolver with lazyPaths := [⟨"/b"⟩, ⟨"/a"⟩] }.resolve twoModuleTree "Kit" ⟨"/"⟩ false).1 =
        some ⟨"/k.nim"⟩ ∧
      (later.resolve twoModuleTree "Kit" ⟨"/"⟩ false).1 = some ⟨"/k.nim"⟩ := by
  intro resolver later
  have found : (resolver.resolve twoModuleTree "Kit" ⟨"/"⟩ false).1 = some ⟨"/k.nim"⟩ := by
    have nothing : resolver.knownDescriptors = [] := rfl
    simp only [resolve_fst, replacement?, packageOf_fst, nothing, walkUp_nil]
    decide +kernel
  obtain ⟨inEveryOrder, afterLookUps⟩ := @unambiguous_import_ignores_look_ups resolver
    twoModuleTree "Kit" (by decide +kernel) ⟨"/"⟩ false
  refine ⟨by decide +kernel, ?_, ?_⟩
  · exact (inEveryOrder [⟨"/b"⟩, ⟨"/a"⟩] (List.Perm.swap _ _ _)).trans found
  · exact (afterLookUps (by decide +kernel) [.search "n" false] (by decide)).trans found

end Frontend.Resolver
