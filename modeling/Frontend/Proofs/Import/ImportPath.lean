import Frontend.Compilation.Basic
import Frontend.Import.Name
import Frontend.Proofs.FileTree.Canonical
import Frontend.Proofs.Import.Library

/-!
# Import paths and the way back

The import path of a file is read off the directories: the file is compared with each of them by its
steps, and what is left of it is its import path. A search goes the other way: the import path is
joined to each of the directories, and the tree is asked. Both take the directories in one order, so
that the way back leads to the file unless an earlier directory holds another file under the import
path. A directory that the file does not lie in cannot lead to it, in lower case or not.

A file in a standard directory has an import path with the mark of the library, and the way back goes
through the standard directories. The mark alone does not tell that: a directory with the name of the
mark gives rise to the same text.
-/

namespace Frontend.Resolver

open Frontend.FileTree Frontend.Path Frontend.Text.Lowercase

variable {resolver : Resolver} {tree : FileTree} {file relative : Path}

/-! ## The first of several directories -/

/-- An element of a list is the first for which something holds; `before` comes before it. -/
structure IsFirst {α : Type} (suits : α → Prop) (list before : List α) (first : α) : Prop where
  split : ∃ after, list = before ++ first :: after
  suited : suits first
  notEarlier : ∀ other ∈ before, ¬ suits other

theorem IsFirst.mem {α : Type} {suits : α → Prop} {list before : List α} {first : α}
    (isFirst : IsFirst suits list before first) : first ∈ list := by
  obtain ⟨after, split⟩ := isFirst.split
  simp [split]

/-- What is relative to some directory of a list is relative to the first that it begins with. -/
theorem exists_isFirst_of_relativeTo? {directories : List Path}
    (hit : directories.findSome? file.relativeTo? = some relative) :
    ∃ before directory,
      IsFirst (file.startsWith · = true) directories before directory ∧
      file.relativeTo? directory = some relative := by
  obtain ⟨before, directory, after, split, rest, notEarlier⟩ := List.findSome?_eq_some_iff.mp hit
  exact ⟨before, directory, ⟨⟨after, split⟩, startsWith_of_relativeTo? rest,
    fun other earlier => relativeTo?_eq_none_iff.mp (notEarlier other earlier)⟩, rest⟩

theorem exists_isFirst_of_any {α : Type} {suits : α → Bool} {list : List α}
    (some : list.any suits = true) :
    ∃ before first, IsFirst (fun element => suits element = true) list before first := by
  rw [List.any_eq_true, ← List.find?_isSome, Option.isSome_iff_exists] at some
  obtain ⟨first, hit⟩ := some
  obtain ⟨suited, before, after, split, notEarlier⟩ := List.find?_eq_some_iff_append.mp hit
  refine ⟨before, first, ⟨after, split⟩, suited, ?_⟩
  intro other earlier suited
  simpa [suited] using notEarlier other earlier

/-- What is the first depends only on what is in the list. -/
theorem IsFirst.congr {α : Type} {suits suits' : α → Prop} {list before : List α} {first : α}
    (isFirst : IsFirst suits list before first)
    (same : ∀ element ∈ list, suits element ↔ suits' element) : IsFirst suits' list before first := by
  obtain ⟨after, split⟩ := isFirst.split
  refine ⟨⟨after, split⟩, (same first (by simp [split])).mp isFirst.suited, ?_⟩
  intro other earlier suited
  exact isFirst.notEarlier other earlier ((same other (by simp [split, earlier])).mpr suited)

/-- A file that is a candidate itself, and that no candidate before it leads to, is found unless one of
those is another file. -/
theorem takeFirst_eq_some_iff {front back : List Candidate} {candidate : Candidate}
    (here : candidate.file = file) (isFile : tree.isFile file = true)
    (leads : tree.canonicalOr file = file)
    (apart : ∀ other ∈ front, tree.canonicalOr other.file ≠ file) :
    (resolver.takeFirst tree (front ++ candidate :: back)).1 = some file ↔
      ∀ other ∈ front, tree.isFile other.file = false := by
  have found : firstFile? tree (candidate :: back) = some candidate :=
    List.find?_cons_of_pos (here.symm ▸ isFile)
  cases shadow : firstFile? tree front with
  | none =>
      have taken : (resolver.takeFirst tree (front ++ candidate :: back)).1 = some file := by
        rw [takeFirst, firstFile?_append, shadow, found, Option.none_or]
        exact congrArg some (here.symm ▸ leads)
      have noShadow : ∀ other ∈ front, tree.isFile other.file = false := by
        intro other member
        exact Bool.eq_false_iff.mpr (List.find?_eq_none.mp shadow other member)
      exact iff_of_true taken noShadow
  | some other =>
      have member := List.mem_of_find?_eq_some shadow
      have elsewhere : (resolver.takeFirst tree (front ++ candidate :: back)).1 =
          some (tree.canonicalOr other.file) := by
        rw [takeFirst, firstFile?_append, shadow, Option.some_or]
      have isFile' := List.find?_some shadow
      rw [elsewhere, Option.some.injEq]
      apply iff_of_false (apart other member)
      intro noShadow
      exact Bool.eq_false_iff.mp (noShadow other member) isFile'

/-- Of a list of directories, each with its candidate, only those before the first that the file lies
in stand in the way to it, and what is ahead of them all. -/
theorem takeFirst_map_eq_some_iff {α : Type} {suits : α → Prop} {list before : List α} {first : α}
    (isFirst : IsFirst suits list before first) {place : α → Candidate}
    (here : (place first).file = file) (isFile : tree.isFile file = true)
    (leads : tree.canonicalOr file = file) {ahead : List Candidate} (behind : List Candidate)
    (apart : ∀ other ∈ ahead, tree.canonicalOr other.file ≠ file)
    (apart' : ∀ element ∈ list, ¬ suits element → tree.canonicalOr (place element).file ≠ file) :
    (resolver.takeFirst tree (ahead ++ (list.map place ++ behind))).1 = some file ↔
      (∀ other ∈ ahead, tree.isFile other.file = false) ∧
        ∀ element ∈ before, tree.isFile (place element).file = false := by
  obtain ⟨after, split⟩ := isFirst.split
  have cut : ahead ++ (list.map place ++ behind) =
      (ahead ++ before.map place) ++ place first :: (after.map place ++ behind) := by
    simp [split]
  have noneBefore : ∀ other ∈ ahead ++ before.map place, tree.canonicalOr other.file ≠ file := by
    rw [List.forall_mem_append, List.forall_mem_map]
    refine ⟨apart, fun element earlier => ?_⟩
    have member : element ∈ list := split ▸ List.mem_append_left _ earlier
    exact apart' element member (isFirst.notEarlier element earlier)
  rw [cut, takeFirst_eq_some_iff here isFile leads noneBefore, List.forall_mem_append,
    List.forall_mem_map]

/-! ## Directories in canonical form -/

variable (resolver) in
/-- The library is set, and all directories are given in canonical form. -/
structure IsCanonicallyConfigured : Prop where
  library : IsCanonical resolver.library
  standard : ∀ directory ∈ resolver.standardDirs, IsCanonical (resolver.library.join ⟨directory⟩)
  search : ∀ directory ∈ resolver.searchPaths, IsCanonical directory
  lazy : ∀ directory ∈ resolver.lazyPaths, IsCanonical directory

/-- What is looked for along a way, as it is written or in lower case, is not found outside of the
directory. -/
theorem canonicalOr_join_ne_of_recased (linkless : tree.IsLinkless) {directory spelling : Path}
    (canonical : IsCanonical directory) {names : List String} (named : IsNamed names)
    (alike : Recased (way names).text.toList spelling.text.toList)
    (elsewhere : ¬ file.startsWith directory = true) :
    tree.canonicalOr (directory.join spelling) ≠ file := by
  obtain ⟨place, named', rfl⟩ := canonical
  have here := destination_pathTo tree named'
  have below := startsWith_canonicalOr_join_of_isNamed linkless (here.symm ▸ named')
    ((isAbsolute_of_recased alike).trans (isAbsolute_way named))
    ((climbs_of_recased alike).trans (climbs_way named))
  rw [here, or_self] at below
  rintro rfl
  exact elsewhere below

theorem searchPathCandidates_false (spelling : Path) :
    resolver.searchPathCandidates false spelling =
      resolver.searchPaths.map fun directory => ⟨.searchPath directory, directory.join spelling⟩ := by
  simp [searchPathCandidates]

/-- A file name with an extension asks for itself. -/
theorem fileFor_eq_of_extension? {name : String} (extended : (Path.mk name).extension?.isSome = true) :
    resolver.fileFor name = ⟨name⟩ :=
  if_pos extended

/-- The relative path is the way from the directory to the file, and names it with its extension. -/
structure IsWayTo (file directory relative : Path) : Prop where
  exists_names : ∃ names, IsNamed names ∧ relative = way names
  file_eq : file = directory.join relative
  extended : relative.extension?.isSome = true

theorem isWayTo_of_relativeTo? (canonical : IsCanonical file) {directory : Path}
    (canonical' : IsCanonical directory) (extended : file.extension?.isSome = true)
    (rest : file.relativeTo? directory = some relative) (some : relative.isEmpty = false) :
    IsWayTo file directory relative := by
  obtain ⟨names, named, isWay, joined⟩ := canonical.exists_way canonical' rest
  have nonempty : names ≠ [] := by
    rintro rfl
    rw [isWay] at some
    cases some
  have isJoined := joined nonempty
  have sameName : relative.fileName? = file.fileName? := by
    have last : names.map Component.name ≠ [] := by simpa using nonempty
    rw [isJoined, isWay, fileName?_eq, fileName?_eq, innerSteps_join (isAbsolute_way named),
      innerSteps_way named, List.getLast?_append_of_ne_nil _ last]
  refine ⟨⟨names, named, isWay⟩, isJoined, ?_⟩
  rw [extension?, sameName]
  exact extended

/-- The candidates for a way that is searched for. -/
theorem IsWayTo.searchCandidates_eq {directory : Path} (isWay : IsWayTo file directory relative) :
    resolver.searchCandidates relative.text false =
      resolver.searchPathCandidates false relative ++
        resolver.searchPathCandidates false (lowered relative) ++
        resolver.lazyPathCandidates relative ++
        resolver.lazyPathCandidates (lowered relative) := by
  obtain ⟨names, named, isNames⟩ := isWay.exists_names
  have asksForItself : resolver.fileFor relative.text = relative :=
    fileFor_eq_of_extension? isWay.extended
  have notAbsolute : ¬ relative.isAbsolute = true := by
    rw [isNames, isAbsolute_way named]
    exact Bool.false_ne_true
  rw [searchCandidates, asksForItself, if_neg notAbsolute]

/-! ## Where an import path is taken from -/

/-- The file of a name in a standard directory. -/
def standardFile (resolver : Resolver) (directory name : String) : Path :=
  (resolver.library.join ⟨directory⟩).join ⟨name⟩

/-- The import path of a file with a name is taken from the first standard directory that the file lies
in, else from the first search path, else from the first lazily used path. -/
inductive TakenFrom (resolver : Resolver) (file relative : Path) (name : String) : Prop where
  | standard {before : List String} {directory : String}
      (first : IsFirst (resolver.standardFile · name = file) resolver.standardDirs before directory)
      (marked : relative.text = stdlibMark ++ name)
  | searchPath {before : List Path} {directory : Path}
      (notStandard : ∀ other ∈ resolver.standardDirs, resolver.standardFile other name ≠ file)
      (first : IsFirst (file.startsWith · = true) resolver.searchPaths before directory)
      (rest : file.relativeTo? directory = some relative) (nonempty : relative.isEmpty = false)
  | lazyPath {before : List Path} {directory : Path}
      (notStandard : ∀ other ∈ resolver.standardDirs, resolver.standardFile other name ≠ file)
      (elsewhere : ∀ other ∈ resolver.searchPaths, ¬ file.startsWith other = true)
      (first : IsFirst (file.startsWith · = true) resolver.lazyPaths before directory)
      (rest : file.relativeTo? directory = some relative) (nonempty : relative.isEmpty = false)

theorem isName_of_fileName? {name : String} (isLast : file.fileName? = some name) : IsName name := by
  rw [fileName?_eq, Option.bind_eq_some_iff] at isLast
  obtain ⟨step, last, isName⟩ := isLast
  have inner := file.isInner_of_mem_innerSteps step (List.mem_of_getLast? last)
  cases step with
  | root | current | parent => cases isName
  | name text =>
      cases isName
      exact inner

/-- Canonical paths that are the same by their steps are the same. -/
theorem standardFile_same_iff (configured : resolver.IsCanonicallyConfigured)
    (canonical : IsCanonical file) {name : String} (proper : IsName name) {directory : String}
    (isStandard : directory ∈ resolver.standardDirs) :
    (resolver.standardFile directory name).same file = true ↔
      resolver.standardFile directory name = file := by
  refine ⟨((configured.standard directory isStandard).join_name proper).eq_of_same canonical, ?_⟩
  intro equal
  rw [equal, same_iff]

theorem takenFrom_of_importPath? (configured : resolver.IsCanonicallyConfigured)
    (canonical : IsCanonical file) (isPath : resolver.importPath? file = some relative) :
    ∃ name, file.fileName? = some name ∧ resolver.TakenFrom file relative name := by
  cases isName : file.fileName? with
  | none =>
      rw [importPath?, isName] at isPath
      cases isPath
  | some name =>
      refine ⟨name, rfl, ?_⟩
      have proper := isName_of_fileName? isName
      simp only [importPath?, isName] at isPath
      by_cases standard : resolver.isStdlibModule file name = true
      · rw [if_pos standard, Option.some.injEq] at isPath
        obtain ⟨before, directory, first⟩ := exists_isFirst_of_any standard
        have marked : relative.text = stdlibMark ++ name := by
          rw [← isPath, join, if_neg (by simp [isAbsolute_of_isName proper]),
            if_pos (by decide +kernel)]
        exact .standard
          (first.congr fun other member => standardFile_same_iff configured canonical proper member)
          marked
      · rw [if_neg standard, Option.filter_eq_some_iff, List.findSome?_append,
          Option.or_eq_some_iff] at isPath
        obtain ⟨held, some⟩ := isPath
        have nonempty : relative.isEmpty = false := by simpa using some
        have notStandard : ∀ other ∈ resolver.standardDirs,
            resolver.standardFile other name ≠ file := by
          intro other member equal
          have same := (standardFile_same_iff configured canonical proper member).mpr equal
          exact standard (List.any_eq_true.mpr ⟨other, member, same⟩)
        rcases held with searched | ⟨nowhere, lazy⟩
        · obtain ⟨before, directory, first, rest⟩ := exists_isFirst_of_relativeTo? searched
          exact .searchPath notStandard first rest nonempty
        · obtain ⟨before, directory, first, rest⟩ := exists_isFirst_of_relativeTo? lazy
          have elsewhere : ∀ other ∈ resolver.searchPaths, ¬ file.startsWith other = true :=
            fun other member =>
              relativeTo?_eq_none_iff.mp (List.findSome?_eq_none_iff.mp nowhere other member)
          exact .lazyPath notStandard elsewhere first rest nonempty

/-! ## The ways back -/

section

variable (configured : resolver.IsCanonicallyConfigured) (linkless : tree.IsLinkless)
  (canonical : IsCanonical file) (isFile : tree.isFile file = true)

include configured linkless canonical isFile

/-- Only an earlier search path stands in the way to a file below a search path. Names in lower case
and lazily used paths come later. -/
theorem search_eq_some_iff_of_searchPath {directory : Path} {before : List Path}
    (isWay : IsWayTo file directory relative)
    (first : IsFirst (file.startsWith · = true) resolver.searchPaths before directory) :
    (resolver.search tree relative.text false).1 = some file ↔
      ∀ other ∈ before, tree.isFile (other.join relative) = false := by
  obtain ⟨names, named, isNames⟩ := isWay.exists_names
  have asWritten : Recased (way names).text.toList relative.text.toList :=
    isNames ▸ recased_refl _
  have apart : ∀ other ∈ resolver.searchPaths, ¬ file.startsWith other = true →
      tree.canonicalOr (other.join relative) ≠ file := fun other member =>
    canonicalOr_join_ne_of_recased linkless (configured.search other member) named asWritten
  have leadsBack := @takeFirst_map_eq_some_iff resolver tree file _ _ _ _ _ first
    (fun other => ⟨.searchPath other, other.join relative⟩) isWay.file_eq.symm isFile
    (canonical.canonicalOr_eq linkless) []
    (resolver.searchPathCandidates false (lowered relative) ++
      (resolver.lazyPathCandidates relative ++ resolver.lazyPathCandidates (lowered relative)))
    (List.forall_mem_nil _) apart
  rw [search_eq_takeFirst, isWay.searchCandidates_eq, List.append_assoc, List.append_assoc,
    searchPathCandidates_false relative]
  simpa only [List.nil_append, List.not_mem_nil, false_implies, implies_true, true_and] using leadsBack

/-- All search paths stand in the way to a file below a lazily used path, with the name as written or
in lower case, and so do earlier ones of the lazily used paths with the name as written. -/
theorem search_eq_some_iff_of_lazyPath {directory : Path} {before : List Path}
    (isWay : IsWayTo file directory relative)
    (elsewhere : ∀ other ∈ resolver.searchPaths, ¬ file.startsWith other = true)
    (first : IsFirst (file.startsWith · = true) resolver.lazyPaths before directory) :
    (resolver.search tree relative.text false).1 = some file ↔
      (∀ other ∈ resolver.searchPaths, tree.isFile (other.join relative) = false ∧
        tree.isFile (other.join (lowered relative)) = false) ∧
      ∀ other ∈ before, tree.isFile (other.join relative) = false := by
  obtain ⟨names, named, isNames⟩ := isWay.exists_names
  have asWritten : Recased (way names).text.toList relative.text.toList :=
    isNames ▸ recased_refl _
  have inLowerCase : Recased (way names).text.toList (lowered relative).text.toList :=
    isNames ▸ recased_lowercase _
  have searched {spelling : Path}
      (alike : Recased (way names).text.toList spelling.text.toList) :
      ∀ other ∈ resolver.searchPathCandidates false spelling, tree.canonicalOr other.file ≠ file := by
    rw [searchPathCandidates_false, List.forall_mem_map]
    exact fun other member => canonicalOr_join_ne_of_recased linkless
      (configured.search other member) named alike (elsewhere other member)
  have apart : ∀ other ∈ resolver.lazyPaths, ¬ file.startsWith other = true →
      tree.canonicalOr (other.join relative) ≠ file := fun other member =>
    canonicalOr_join_ne_of_recased linkless (configured.lazy other member) named asWritten
  have leadsBack := @takeFirst_map_eq_some_iff resolver tree file _ _ _ _ _ first
    (fun other => ⟨.lazyPath other, other.join relative⟩) isWay.file_eq.symm isFile
    (canonical.canonicalOr_eq linkless)
    (resolver.searchPathCandidates false relative ++
      resolver.searchPathCandidates false (lowered relative))
    (resolver.lazyPathCandidates (lowered relative))
    (List.forall_mem_append.mpr ⟨searched asWritten, searched inLowerCase⟩) apart
  rw [search_eq_takeFirst, isWay.searchCandidates_eq, List.append_assoc, lazyPathCandidates, leadsBack]
  simp only [searchPathCandidates_false, List.forall_mem_append, List.forall_mem_map, forall_and]

/-- Only an earlier standard directory stands in the way to a file in a standard directory. -/
theorem searchLibrary?_eq_some_iff {name directory : String} {before : List String}
    (isName : file.fileName? = some name) (extended : file.extension?.isSome = true)
    (first : IsFirst (resolver.standardFile · name = file) resolver.standardDirs before directory) :
    resolver.searchLibrary? tree name = some file ↔
      ∀ other ∈ before, tree.isFile (resolver.standardFile other name) = false := by
  have proper := isName_of_fileName? isName
  have asksForItself : resolver.fileFor name = ⟨name⟩ := by
    apply fileFor_eq_of_extension?
    rw [extension?, isName] at extended
    rw [extension?, fileName?_eq, innerSteps_of_isName proper]
    exact extended
  have apart : ∀ other ∈ resolver.standardDirs, ¬ resolver.standardFile other name = file →
      tree.canonicalOr (resolver.standardFile other name) ≠ file := by
    intro other member different
    have canonical' : IsCanonical (resolver.standardFile other name) :=
      (configured.standard other member).join_name proper
    rwa [canonical'.canonicalOr_eq linkless]
  have leadsBack := @takeFirst_map_eq_some_iff resolver tree file _ _ _ _ _ first
    (fun other => ⟨.library other, resolver.standardFile other name⟩) first.suited isFile
    (canonical.canonicalOr_eq linkless) [] [] (List.forall_mem_nil _) apart
  have candidates : resolver.libraryCandidates name =
      resolver.standardDirs.map fun other =>
        ⟨.library other, resolver.standardFile other name⟩ := by
    rw [libraryCandidates, configured.library.isEmpty_eq_false, if_neg Bool.false_ne_true,
      asksForItself]
    rfl
  have taken : resolver.searchLibrary? tree name =
      (resolver.takeFirst tree (resolver.libraryCandidates name)).1 :=
    congrArg Prod.fst (resolver.searchLibrary?_eq_takeFirst tree name)
  rw [taken, candidates]
  simpa only [List.nil_append, List.append_nil, List.not_mem_nil, false_implies, implies_true,
    true_and] using leadsBack

end

/-! ## All ways back -/

/-- The import path of an existing file leads back to the file, unless another file stands in the way.
There are three kinds of files. One lies in a standard directory, and only an earlier standard
directory can stand in the way. Else one lies below a search path, and only an earlier search path
can. Else one lies below a lazily used path; then all search paths can, with the import path as
written or in lower case, and so can an earlier one of the lazily used paths. -/
theorem import_path_leads_back_unless_shadowed (configured : resolver.IsCanonicallyConfigured)
    (linkless : tree.IsLinkless) (canonical : IsCanonical file) (isFile : tree.isFile file = true)
    (extended : file.extension?.isSome = true) (isPath : resolver.importPath? file = some relative) :
    ∃ name, file.fileName? = some name ∧
      ((∃ before directory,
          IsFirst (resolver.standardFile · name = file) resolver.standardDirs before directory ∧
          relative.text = stdlibMark ++ name ∧
          (resolver.searchLibrary? tree name = some file ↔
            ∀ other ∈ before, tree.isFile (resolver.standardFile other name) = false)) ∨
        (∀ other ∈ resolver.standardDirs, resolver.standardFile other name ≠ file) ∧
          ((∃ before directory,
              IsFirst (file.startsWith · = true) resolver.searchPaths before directory ∧
              file.relativeTo? directory = some relative ∧
              ((resolver.search tree relative.text false).1 = some file ↔
                ∀ other ∈ before, tree.isFile (other.join relative) = false)) ∨
            (∀ other ∈ resolver.searchPaths, ¬ file.startsWith other = true) ∧
              ∃ before directory,
                IsFirst (file.startsWith · = true) resolver.lazyPaths before directory ∧
                file.relativeTo? directory = some relative ∧
                ((resolver.search tree relative.text false).1 = some file ↔
                  (∀ other ∈ resolver.searchPaths, tree.isFile (other.join relative) = false ∧
                    tree.isFile (other.join (lowered relative)) = false) ∧
                  ∀ other ∈ before, tree.isFile (other.join relative) = false))) := by
  obtain ⟨name, isName, taken⟩ := takenFrom_of_importPath? configured canonical isPath
  refine ⟨name, isName, ?_⟩
  cases taken with
  | standard first marked =>
      exact Or.inl ⟨_, _, first, marked,
        searchLibrary?_eq_some_iff configured linkless canonical isFile isName extended first⟩
  | searchPath notStandard first rest nonempty =>
      have isWay := isWayTo_of_relativeTo? canonical (configured.search _ first.mem) extended rest
        nonempty
      exact Or.inr ⟨notStandard, Or.inl ⟨_, _, first, rest,
        search_eq_some_iff_of_searchPath configured linkless canonical isFile isWay first⟩⟩
  | lazyPath notStandard elsewhere first rest nonempty =>
      have isWay := isWayTo_of_relativeTo? canonical (configured.lazy _ first.mem) extended rest
        nonempty
      exact Or.inr ⟨notStandard, Or.inr ⟨elsewhere, _, _, first, rest,
        search_eq_some_iff_of_lazyPath configured linkless canonical isFile isWay elsewhere first⟩⟩

/-- A module of the library, and a project with a module of the same name and one in a directory that
is called like the mark of the library. -/
def overlappingTree : FileTree where
  entries :=
    [(["lib"], .directory), (["lib", "pure"], .directory), (["lib", "pure", "os.nim"], .file []),
      (["proj"], .directory), (["proj", "os.nim"], .file []), (["proj", "std"], .directory),
      (["proj", "std", "kit.nim"], .file [])]
  workdir := []
  distinct := by decide

/-- The library of the tree is set. Its standard directory is a search path as well, and comes before
the project. -/
def overlappingResolver : Resolver :=
  let library := (Compilation.initial "").resolver.withLibrary overlappingTree ⟨"/lib"⟩
  (library.withSearchPath overlappingTree ⟨"/lib/pure"⟩).withSearchPath overlappingTree ⟨"/proj"⟩

theorem isCanonicallyConfigured_overlappingResolver :
    overlappingResolver.IsCanonicallyConfigured where
  library := by decide +kernel
  standard := by decide +kernel
  search := by decide +kernel
  lazy := by decide +kernel

theorem import_path_is_shadowed :
    overlappingResolver.importPath? ⟨"/proj/os.nim"⟩ = some ⟨"os.nim"⟩ ∧
      (overlappingResolver.search overlappingTree "os.nim" false).1 ≠ some ⟨"/proj/os.nim"⟩ := by
  have isPath : overlappingResolver.importPath? ⟨"/proj/os.nim"⟩ = some ⟨"os.nim"⟩ := by
    decide +kernel
  refine ⟨isPath, ?_⟩
  obtain ⟨name, isName, standard | ⟨-, ⟨before, directory, first, -, leadsBack⟩ | ⟨nowhere, -⟩⟩⟩ :=
    import_path_leads_back_unless_shadowed isCanonicallyConfigured_overlappingResolver
      (by decide : overlappingTree.IsLinkless) (by decide +kernel) (by decide +kernel)
      (by decide +kernel) isPath
  · obtain ⟨before, directory, first, marked, -⟩ := standard
    cases isName
    exact absurd marked (by decide +kernel)
  · have shadow : Path.mk "/lib/pure" ∈ before := by
      have searchPaths : overlappingResolver.searchPaths = [⟨"/lib/pure"⟩, ⟨"/proj"⟩] := by
        decide +kernel
      obtain ⟨after, split⟩ := first.split
      rw [searchPaths] at split
      cases before with
      | nil =>
          obtain ⟨rfl, -⟩ := List.cons.inj split
          exact absurd first.suited (by decide +kernel)
      | cons earliest others =>
          obtain ⟨rfl, -⟩ := List.cons.inj split
          exact List.mem_cons_self
    intro found
    have free := leadsBack.mp found ⟨"/lib/pure"⟩ shadow
    exact absurd free (by decide +kernel)
  · exact absurd (by decide +kernel) (nowhere ⟨"/proj"⟩ (by decide +kernel))

/-- The mark of the library in an import path does not tell that the file is a module of the library:
here it lies below a search path, and no standard directory holds a file of that name. -/
theorem marked_import_path_outside_library :
    let file : Path := ⟨"/proj/std/kit.nim"⟩
    overlappingResolver.IsCanonicallyConfigured ∧ overlappingTree.IsLinkless ∧
      IsCanonical file ∧ overlappingTree.isFile file = true ∧ file.extension? = some "nim" ∧
      overlappingResolver.importPath? file = some ⟨stdlibMark ++ "kit.nim"⟩ ∧
      (∀ directory ∈ overlappingResolver.standardDirs,
        overlappingTree.isFile (overlappingResolver.standardFile directory "kit.nim") = false) ∧
      overlappingResolver.searchLibrary? overlappingTree "kit.nim" ≠ some file :=
  ⟨isCanonicallyConfigured_overlappingResolver, by decide +kernel⟩

end Frontend.Resolver
