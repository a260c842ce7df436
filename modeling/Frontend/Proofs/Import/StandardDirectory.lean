import Frontend.Proofs.Import.Library

/-!
# Imports from the standard directories

`std/name` is looked for in the standard directories of the library only. The name is joined to each
of them as it stands: an absolute name then stands alone, and a name that climbs leads out of the
directory. Every other name is found in the directory that it was joined to.

All this is about trees without links, in which one can tell where a path leads.
-/

namespace Frontend.Resolver

open Frontend.FileTree Frontend.Path

variable {resolver : Resolver} {tree : FileTree}

variable (tree) in
/-- The path lies in the directory: it begins with the directory as that is written, or with the path
to the place that the directory leads to. -/
def LiesIn (path directory : Path) : Prop :=
  path.startsWith directory = true ∨
    path.startsWith (pathTo (tree.destination directory)) = true

instance (path directory : Path) : Decidable (LiesIn tree path directory) :=
  inferInstanceAs (Decidable (_ ∨ _))

/-- A candidate for a name of the standard library is the name joined to a standard directory. -/
theorem exists_of_mem_libraryCandidates {name : String} {candidate : Candidate}
    (member : candidate ∈ resolver.libraryCandidates name) :
    ∃ directory ∈ resolver.standardDirs,
      candidate.file = (resolver.library.join ⟨directory⟩).join (resolver.fileFor name) := by
  unfold libraryCandidates at member
  split at member
  · cases member
  · obtain ⟨directory, isStandard, rfl⟩ := List.mem_map.mp member
    exact ⟨directory, isStandard, rfl⟩

/-- Without links and overrides, what `std/name` is found as is the canonical path of a regular file:
of the name joined to a standard directory of the library. It lies in that directory if the name is
relative and does not climb. An absolute name is found as what it names itself, wherever that is. -/
theorem library_import_stays_in_standard_directory {name : String} {importer : Path}
    {outsideLibrary : Bool} {path : Path} (plain : resolver.overrides.isEmpty = true)
    (linkless : tree.IsLinkless) (named : IsNamed tree.workdir)
    (found : (resolver.resolve tree (stdlibMark ++ name) importer outsideLibrary).1 = some path) :
    let file := resolver.fileFor name
    ∃ directory ∈ resolver.standardDirs,
      let base := resolver.library.join ⟨directory⟩
      tree.isFile (base.join file) = true ∧ path = tree.canonicalOr (base.join file) ∧
        (file.isAbsolute = true → path = tree.canonicalOr file) ∧
        (file.isAbsolute = false → file.climbs = false → LiesIn tree path base) := by
  intro file
  obtain ⟨candidate, first, rfl⟩ :=
    resolver.exists_firstFile?_of_resolve_eq_some tree plain found
  rw [importCandidates_stdlib] at first
  have isFile := List.find?_some first
  obtain ⟨directory, isStandard, joined⟩ :=
    exists_of_mem_libraryCandidates (List.mem_of_find?_eq_some first)
  rw [joined] at isFile ⊢
  refine ⟨directory, isStandard, isFile, rfl, ?_, ?_⟩
  · intro absolute
    rw [join, if_pos absolute]
  · intro relative stays
    exact startsWith_canonicalOr_join linkless named relative stays

/-- A library with a module in a standard directory and one beside it, and a project next to it. -/
def standardTree : FileTree where
  entries :=
    [(["lib"], .directory), (["lib", "system.nim"], .file []), (["lib", "pure"], .directory),
      (["lib", "pure", "os.nim"], .file []), (["lib", "pure", "unidecode"], .directory),
      (["proj"], .directory), (["proj", "b.nim"], .file [])]
  workdir := []
  distinct := by decide

/-- The library of the tree is set, with one standard directory. -/
def standardResolver : Resolver :=
  (initial ["pure"] "nim").withLibrary standardTree ⟨"/lib"⟩

theorem library_import_stays_in_standard_directory_dotted :
    (standardResolver.resolve standardTree "std/./unidecode/../os" ⟨"/proj"⟩ false).1 =
        some ⟨"/lib/pure/os.nim"⟩ ∧
      LiesIn standardTree ⟨"/lib/pure/os.nim"⟩ ⟨"/lib/pure"⟩ := by
  have found : (standardResolver.resolve standardTree (stdlibMark ++ "./unidecode/../os") ⟨"/proj"⟩
      false).1 = some ⟨"/lib/pure/os.nim"⟩ := by
    decide +kernel
  obtain ⟨directory, isStandard, -, -, -, inside⟩ :=
    library_import_stays_in_standard_directory (by decide) (by decide) (by decide) found
  obtain rfl := List.mem_singleton.mp isStandard
  exact ⟨found, inside (by decide +kernel) (by decide +kernel)⟩

/-- The mark does not keep a name in the standard directories: an absolute name is found in the
project, and so is one that climbs; another one climbs to a module beside the standard directory. -/
theorem library_import_leaves_standard_directories :
    let resolve (name : String) : Option Path :=
      (standardResolver.resolve standardTree (stdlibMark ++ name) ⟨"/lib/pure"⟩ false).1
    standardTree.IsLinkless ∧ standardResolver.overrides.isEmpty = true ∧
      resolve "/proj/b" = some ⟨"/proj/b.nim"⟩ ∧
      resolve "../../proj/b" = some ⟨"/proj/b.nim"⟩ ∧
      resolve "../system" = some ⟨"/lib/system.nim"⟩ ∧
      ∀ directory ∈ standardResolver.standardDirs,
        ¬ LiesIn standardTree ⟨"/proj/b.nim"⟩ (standardResolver.library.join ⟨directory⟩) ∧
        ¬ LiesIn standardTree ⟨"/lib/system.nim"⟩ (standardResolver.library.join ⟨directory⟩) := by
  decide +kernel

end Frontend.Resolver
