import Frontend.Proofs.FileTree.Linkless
import Frontend.Proofs.Import.Candidate

/-!
# Imports that stay outside of the library

`pkg/name` is searched for outside the library. What is compared with the library is the search path
that is looked through, by its steps, and not the file that is found. So a file of the library can
still be reached: by an absolute name, which is not searched for at all; by a name that climbs out of
the directory; below a directory that holds the library; below one that leads into the library, but is
written in another way; or below a lazily used path in the library, which is compared with nothing.
Where none of this is the case, what is found lies outside of the library.

All this is about trees without links, in which one can tell where a path leads.
-/

namespace Frontend.Resolver

open Frontend.FileTree Frontend.Path Frontend.Text.Lowercase

variable (resolver : Resolver) (tree : FileTree)

/-- What lies in the directory may lie in the library, whether the directory does or not: the library
lies in the directory as it is written, or where it leads to, or that place lies in the library. -/
def MeetsLibrary (directory : Path) : Prop :=
  resolver.library.startsWith directory = true ∨
    resolver.library.startsWith (pathTo (tree.destination directory)) = true ∨
    (pathTo (tree.destination directory)).startsWith resolver.library = true

instance (directory : Path) : Decidable (resolver.MeetsLibrary tree directory) :=
  inferInstanceAs (Decidable (_ ∨ _ ∨ _))

variable {resolver tree}

theorem startsWith_iff {path base : Path} :
    path.startsWith base = true ↔ base.components <+: path.components :=
  List.isPrefixOf_iff_prefix

/-- Two paths that a third one begins with begin with each other, one way or the other. -/
theorem startsWith_or_startsWith {path base directory : Path}
    (first : path.startsWith base = true) (second : path.startsWith directory = true) :
    directory.startsWith base = true ∨ base.startsWith directory = true := by
  rw [startsWith_iff] at first second
  rcases List.prefix_or_prefix_of_prefix first second with shorter | longer
  · exact Or.inl (startsWith_iff.mpr shorter)
  · exact Or.inr (startsWith_iff.mpr longer)

/-- A path to a place begins with the paths to the places on the way. -/
theorem startsWith_pathTo {place further : Place} (named : IsNamed further)
    (way : place <+: further) : (pathTo further).startsWith (pathTo place) = true := by
  have onTheWay : IsNamed place := fun name member => named name (way.subset member)
  rw [startsWith_iff, components_pathTo named, components_pathTo onTheWay]
  exact List.cons_prefix_cons.mpr ⟨rfl, way.map _⟩

theorem startsWith_join {directory file : Path} (relative : file.isAbsolute = false) :
    (directory.join file).startsWith directory = true := by
  rw [startsWith_iff]
  cases empty : directory.isEmpty with
  | true =>
      rw [(isEmpty_iff directory).mp empty]
      exact List.nil_prefix
  | false =>
      rw [components_join empty relative]
      exact List.prefix_append ..

/-- What a relative name that does not climb is found as below a directory begins with the directory,
or with where that leads to. -/
theorem startsWith_canonicalOr_join_of_isNamed (linkless : tree.IsLinkless)
    {directory file : Path} (named : IsNamed (tree.destination directory))
    (relative : file.isAbsolute = false) (stays : file.climbs = false) :
    let found := tree.canonicalOr (directory.join file)
    found.startsWith directory = true ∨
      found.startsWith (pathTo (tree.destination directory)) = true := by
  intro found
  cases canonical : tree.canonical? (directory.join file) with
  | none =>
      have asWritten : found = directory.join file := by
        simp only [found, canonicalOr, canonical, Option.getD_none]
      rw [asWritten]
      exact Or.inl (startsWith_join relative)
  | some path =>
      have leads : found = pathTo (tree.destination (directory.join file)) := by
        simp only [found, canonicalOr, canonical, Option.getD_some]
        exact linkless.eq_of_canonical? canonical
      have below : tree.destination directory <+: tree.destination (directory.join file) := by
        rw [destination_join relative]
        simpa using isPrefix_of_not_climbsFrom file.isInner_of_mem_innerSteps
          (tree.destination directory) [] stays
      have named' : IsNamed (tree.destination (directory.join file)) := by
        rw [destination_join relative]
        exact isNamed_foldl_stepTo named file.isInner_of_mem_innerSteps
      rw [leads]
      exact Or.inr (startsWith_pathTo named' below)

theorem startsWith_canonicalOr_join (linkless : tree.IsLinkless) (named : IsNamed tree.workdir)
    {directory file : Path} (relative : file.isAbsolute = false) (stays : file.climbs = false) :
    let found := tree.canonicalOr (directory.join file)
    found.startsWith directory = true ∨
      found.startsWith (pathTo (tree.destination directory)) = true :=
  startsWith_canonicalOr_join_of_isNamed linkless (isNamed_destination named directory) relative
    stays

/-- Below a directory outside of the library that does not meet it no relative name is found in the
library, unless it climbs. -/
theorem meetsLibrary_of_inLibrary (linkless : tree.IsLinkless) (named : IsNamed tree.workdir)
    {directory file : Path} (relative : file.isAbsolute = false) (stays : file.climbs = false)
    (outside : resolver.inLibrary directory = false)
    (inside : resolver.inLibrary (tree.canonicalOr (directory.join file)) = true) :
    resolver.MeetsLibrary tree directory := by
  simp only [inLibrary, Bool.and_eq_true] at inside
  obtain ⟨set, inside⟩ := inside
  rcases startsWith_canonicalOr_join linkless named relative stays with written | leads
  · rcases startsWith_or_startsWith inside written with inLibrary | holds
    · simp [Resolver.inLibrary, set, inLibrary] at outside
    · exact Or.inl holds
  · rcases startsWith_or_startsWith inside leads with leadsInto | holds
    · exact Or.inr (Or.inr leadsInto)
    · exact Or.inr (Or.inl holds)

/-- What a name is found as below a directory, in lower case or not, lies in the library only if the
name climbs, or the directory lies in the library or meets it. -/
theorem climbs_or_meetsLibrary_of_inLibrary (linkless : tree.IsLinkless)
    (named : IsNamed tree.workdir) {directory file spelling : Path}
    (alike : Recased file.text.toList spelling.text.toList) (relative : file.isAbsolute = false)
    (inside : resolver.inLibrary (tree.canonicalOr (directory.join spelling)) = true) :
    file.climbs = true ∨ resolver.inLibrary directory = true ∨
      resolver.MeetsLibrary tree directory := by
  cases climbs : file.climbs with
  | true => exact Or.inl rfl
  | false =>
      refine Or.inr ?_
      cases within : resolver.inLibrary directory with
      | true => exact Or.inl rfl
      | false =>
          have relative' := (isAbsolute_of_recased alike).trans relative
          have stays := (climbs_of_recased alike).trans climbs
          exact Or.inr (meetsLibrary_of_inLibrary linkless named relative' stays within inside)

/-! ## Candidates -/

variable (resolver tree) in
/-- How a file that `pkg/name` is found as may come to lie in the library. Search paths in the library
are left out, whatever the name is; lazily used paths in the library are not. -/
def MayEnterLibrary (file : Path) : Origin → Prop
  | .absolute => file.isAbsolute = true
  | .searchPath directory => resolver.inLibrary directory = false ∧
      (file.climbs = true ∨ resolver.MeetsLibrary tree directory)
  | .lazyPath directory => file.climbs = true ∨ resolver.inLibrary directory = true ∨
      resolver.MeetsLibrary tree directory
  | .neighbour | .library _ => False

/-- A candidate below a search path is one for a name of the same shape, in lower case or not, and
outside of the library. -/
theorem mayEnterLibrary_of_mem_searchPathCandidates (linkless : tree.IsLinkless)
    (named : IsNamed tree.workdir) {file spelling : Path}
    (alike : Recased file.text.toList spelling.text.toList) (relative : file.isAbsolute = false)
    {candidate : Candidate} (member : candidate ∈ resolver.searchPathCandidates true spelling)
    (inside : resolver.inLibrary (tree.canonicalOr candidate.file) = true) :
    resolver.MayEnterLibrary tree file candidate.origin := by
  obtain ⟨directory, kept, rfl⟩ := List.mem_map.mp member
  have outside : resolver.inLibrary directory = false := by
    simpa using (List.mem_filter.mp kept).2
  refine ⟨outside, ?_⟩
  rcases climbs_or_meetsLibrary_of_inLibrary linkless named alike relative inside with
    climbs | within | meets
  · exact Or.inl climbs
  · rw [outside] at within
    cases within
  · exact Or.inr meets

theorem mayEnterLibrary_of_mem_lazyPathCandidates (linkless : tree.IsLinkless)
    (named : IsNamed tree.workdir) {file spelling : Path}
    (alike : Recased file.text.toList spelling.text.toList) (relative : file.isAbsolute = false)
    {candidate : Candidate} (member : candidate ∈ resolver.lazyPathCandidates spelling)
    (inside : resolver.inLibrary (tree.canonicalOr candidate.file) = true) :
    resolver.MayEnterLibrary tree file candidate.origin := by
  obtain ⟨directory, -, rfl⟩ := List.mem_map.mp member
  exact climbs_or_meetsLibrary_of_inLibrary linkless named alike relative inside

theorem mayEnterLibrary_of_mem_searchCandidates (linkless : tree.IsLinkless)
    (named : IsNamed tree.workdir) {name : String} {candidate : Candidate}
    (member : candidate ∈ resolver.searchCandidates name true)
    (inside : resolver.inLibrary (tree.canonicalOr candidate.file) = true) :
    resolver.MayEnterLibrary tree (resolver.fileFor name) candidate.origin := by
  unfold searchCandidates at member
  cases absolute : (resolver.fileFor name).isAbsolute with
  | true =>
      simp only [absolute, if_true, List.mem_singleton] at member
      subst member
      exact absolute
  | false =>
      have asWritten := recased_refl (resolver.fileFor name).text.toList
      have inLowerCase := recased_lowercase (resolver.fileFor name).text
      simp only [absolute, Bool.false_eq_true, if_false, List.mem_append] at member
      rcases member with ((searched | searched) | lazy) | lazy
      · exact mayEnterLibrary_of_mem_searchPathCandidates linkless named asWritten absolute searched
          inside
      · exact mayEnterLibrary_of_mem_searchPathCandidates linkless named inLowerCase absolute
          searched inside
      · exact mayEnterLibrary_of_mem_lazyPathCandidates linkless named asWritten absolute lazy inside
      · exact mayEnterLibrary_of_mem_lazyPathCandidates linkless named inLowerCase absolute lazy
          inside

/-! ## Imports -/

/-- Without links and overrides, `pkg/name` is found as the canonical path of its first candidate that
is a file. This lies outside of the library, whatever the search paths and the lazily used ones are
and in lower case or not, except when the name is absolute; when it climbs out of the path below which
it was found; when this path meets the library, being outside of it; or when it is a lazily used path
in the library. -/
theorem package_import_stays_outside_library {name : String} {importer : Path}
    {outsideLibrary : Bool} {path : Path} (plain : resolver.overrides.isEmpty = true)
    (linkless : tree.IsLinkless) (named : IsNamed tree.workdir)
    (found : (resolver.resolve tree (packageMark ++ name) importer outsideLibrary).1 = some path) :
    ∃ candidate, firstFile? tree (resolver.searchCandidates name true) = some candidate ∧
      path = tree.canonicalOr candidate.file ∧
      (resolver.inLibrary path = true →
        resolver.MayEnterLibrary tree (resolver.fileFor name) candidate.origin) := by
  obtain ⟨candidate, first, rfl⟩ :=
    resolver.exists_firstFile?_of_resolve_eq_some tree plain found
  rw [importCandidates_package] at first
  have member := List.mem_of_find?_eq_some first
  exact ⟨candidate, first, rfl, mayEnterLibrary_of_mem_searchCandidates linkless named member⟩

/-- A library with one module, and a project with another one next to it. -/
def libraryTree : FileTree where
  entries :=
    [(["lib"], .directory), (["lib", "a.nim"], .file []), (["proj"], .directory),
      (["proj", "b.nim"], .file [])]
  workdir := []
  distinct := by decide

/-- The library of the tree is set, and nothing else. -/
def libraryResolver : Resolver :=
  (initial [] "nim").withLibrary libraryTree ⟨"/lib"⟩

/-- The library is searched, but left out, and the project is used lazily. -/
theorem package_import_stays_outside_library_mixedCase :
    let resolver := (libraryResolver.withSearchPath libraryTree ⟨"/lib"⟩).withLazyPath
      libraryTree ⟨"/proj"⟩
    (resolver.resolve libraryTree "pkg/B" ⟨"/lib"⟩ false).1 = some ⟨"/proj/b.nim"⟩ ∧
      resolver.inLibrary ⟨"/proj/b.nim"⟩ = false := by
  intro resolver
  have found : (resolver.resolve libraryTree (packageMark ++ "B") ⟨"/lib"⟩ false).1 =
      some ⟨"/proj/b.nim"⟩ := by
    decide +kernel
  have first : firstFile? libraryTree (resolver.searchCandidates "B" true) =
      some ⟨.lazyPath ⟨"/proj"⟩, ⟨"/proj/b.nim"⟩⟩ := by
    decide +kernel
  have apart : ¬ ((resolver.fileFor "B").climbs = true ∨ resolver.inLibrary ⟨"/proj"⟩ = true ∨
      resolver.MeetsLibrary libraryTree ⟨"/proj"⟩) := by
    decide +kernel
  obtain ⟨candidate, isFirst, -, enters⟩ :=
    package_import_stays_outside_library (by decide) (by decide) (by decide) found
  rw [first] at isFirst
  cases isFirst
  refine ⟨found, Bool.eq_false_iff.mpr ?_⟩
  intro inside
  exact apart (enters inside)

/-- A module of the library is found in spite of the mark: when the library is a lazily used path, by
its absolute name, by a name that climbs out of a search path, below a search path that holds the
library, and below one that was added before it was there, and is written so that it does not begin
with the library. -/
theorem package_import_enters_library :
    let module : Path := ⟨"/lib/a.nim"⟩
    let resolve (resolver : Resolver) (name : String) : Option Path :=
      (resolver.resolve libraryTree (packageMark ++ name) ⟨"/proj"⟩ true).1
    libraryTree.IsLinkless ∧ libraryResolver.library = ⟨"/lib"⟩ ∧
      libraryResolver.overrides.isEmpty = true ∧ libraryResolver.inLibrary module = true ∧
      resolve (libraryResolver.withLazyPath libraryTree ⟨"/lib"⟩) "a" = some module ∧
      resolve libraryResolver "/lib/a" = some module ∧
      resolve (libraryResolver.withSearchPath libraryTree ⟨"/proj"⟩) "../lib/a" = some module ∧
      resolve (libraryResolver.withSearchPath libraryTree ⟨"/"⟩) "lib/a" = some module ∧
      resolve (libraryResolver.withSearchPath .empty ⟨"/proj/../lib"⟩) "a" = some module := by
  decide +kernel

end Frontend.Resolver
