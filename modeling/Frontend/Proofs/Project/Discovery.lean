import Mathlib.Data.List.Perm.Basic
import Frontend.Proofs.Import.PackageMemory
import Frontend.Proofs.Project.Offer

/-!
# The project that a directory belongs to

The main file of a project is looked for in a directory and its successive parents, up to the first
that has a candidate. Directories are told apart by their paths. All that is carried up on the way is
the stem of the package descriptor, if one was met: two of them, in one directory or in two, make the
search give up.
-/

namespace Frontend.Project

open Frontend.Descriptor Frontend.FileTree Frontend.Path

/-! ## The choice among candidates -/

theorem occursIn_iff {part text : List Char} : occursIn part text = true ↔ part <:+: text := by
  induction text with
  | nil => rw [occursIn, List.isEmpty_iff, List.infix_nil]
  | cons c rest ih =>
      rw [occursIn, Bool.or_eq_true, List.isPrefixOf_iff_prefix, ih, List.infix_cons_iff]

/-- Why a candidate is chosen. -/
inductive Grounds (package : Option String) (directory : Path) (candidates : List Candidate)
    (chosen : Candidate) : Prop
  /-- It has the name of the package or, before a package descriptor is met, of the directory. -/
  | name : package.or directory.fileName? = some chosen.name →
      Grounds package directory candidates chosen
  /-- None has the name of the package, but its name contains it. -/
  | part {part : String} : package = some part →
      (∀ candidate ∈ candidates, candidate.name ≠ part) →
      part.toList <:+: chosen.name.toList → Grounds package directory candidates chosen
  /-- No name says anything, and it comes first. -/
  | rank : (∀ candidate ∈ candidates, package.or directory.fileName? ≠ some candidate.name) →
      (∀ part, package = some part →
        ∀ candidate ∈ candidates, ¬part.toList <:+: candidate.name.toList) →
      candidates.head? = some chosen → Grounds package directory candidates chosen

section Choice

variable {package : Option String} {directory : Path} {candidates : List Candidate}
  {chosen : Candidate}

theorem grounds_of_choose?_eq_some
    (choice : choose? package directory candidates = some chosen) :
    Grounds package directory candidates chosen := by
  have notNamed : ∀ {name : String}, candidates.find? (·.name == name) = none →
      ∀ candidate ∈ candidates, candidate.name ≠ name := by
    intro name none candidate member same
    exact List.find?_eq_none.mp none candidate member (beq_iff_eq.mpr same)
  have isNamed : ∀ {name : String}, candidates.find? (·.name == name) = some chosen →
      chosen.name = name := fun found => by simpa using List.find?_some found
  cases package with
  | some part =>
      rw [choose?] at choice
      cases named : candidates.find? (·.name == part) with
      | some first =>
          rw [named] at choice
          obtain rfl := Option.some.inj choice
          exact .name (congrArg some (isNamed named).symm)
      | none =>
          cases containing : candidates.find? fun candidate =>
              occursIn part.toList candidate.name.toList with
          | some first =>
              rw [named, containing] at choice
              obtain rfl := Option.some.inj choice
              have occurs := List.find?_some (p := fun _ => _) containing
              exact .part rfl (notNamed named) (occursIn_iff.mp occurs)
          | none =>
              rw [named, containing] at choice
              refine .rank ?_ ?_ choice
              · intro candidate member same
                exact notNamed named candidate member (Option.some.inj same).symm
              · rintro _ ⟨⟩ candidate member occurs
                exact List.find?_eq_none.mp containing candidate member (occursIn_iff.mpr occurs)
  | none =>
      rw [choose?] at choice
      cases named : directory.fileName?.bind fun name => candidates.find? (·.name == name) with
      | some first =>
          rw [named] at choice
          obtain rfl := Option.some.inj choice
          obtain ⟨name, isFileName, found⟩ := Option.bind_eq_some_iff.mp named
          exact .name (isFileName.trans (congrArg some (isNamed found).symm))
      | none =>
          rw [named] at choice
          refine .rank ?_ (fun _ isPackage => nomatch isPackage) choice
          intro candidate member isFileName
          rw [Option.none_or] at isFileName
          rw [isFileName, Option.bind_some] at named
          exact notNamed named candidate member rfl

/-- A candidate is chosen whenever there is one. -/
theorem choose?_eq_none_iff : choose? package directory candidates = none ↔ candidates = [] := by
  unfold choose?
  rw [Option.orElse_eq_orElse, Option.orElse_eq_or, Option.or_eq_none_iff, List.head?_eq_none_iff]
  refine and_iff_right_of_imp ?_
  rintro rfl
  cases package with
  | some part => rfl
  | none => cases named : directory.fileName? <;> rfl

theorem mem_of_choose?_eq_some (choice : choose? package directory candidates = some chosen) :
    chosen ∈ candidates := by
  unfold choose? at choice
  rw [Option.orElse_eq_orElse, Option.orElse_eq_or, Option.or_eq_some_iff] at choice
  obtain preferred | ⟨-, first⟩ := choice
  · cases package with
    | some part =>
        simp only [Option.orElse_eq_or, Option.or_eq_some_iff] at preferred
        obtain named | ⟨-, containing⟩ := preferred
        · exact List.mem_of_find?_eq_some named
        · exact List.mem_of_find?_eq_some containing
    | none =>
        obtain ⟨name, -, named⟩ := Option.bind_eq_some_iff.mp preferred
        exact List.mem_of_find?_eq_some named
  · exact List.mem_of_head? first

namespace Grounds

/-- A candidate with the name that is looked for is preferred. -/
theorem name_eq (grounds : Grounds package directory candidates chosen) {name : String}
    (sought : package.or directory.fileName? = some name)
    (named : ∃ candidate ∈ candidates, candidate.name = name) : chosen.name = name := by
  obtain ⟨candidate, member, rfl⟩ := named
  cases grounds with
  | name isNamed => exact Option.some.inj (isNamed.symm.trans sought)
  | part isPackage notNamed _ =>
      subst isPackage
      exact absurd (Option.some.inj sought).symm (notNamed candidate member)
  | rank notNamed _ _ => exact absurd sought (notNamed candidate member)

/-- A candidate whose name contains that of the package is preferred. -/
theorem infix_of_exists {part : String}
    (grounds : Grounds (some part) directory candidates chosen)
    (contains : ∃ candidate ∈ candidates, part.toList <:+: candidate.name.toList) :
    part.toList <:+: chosen.name.toList := by
  obtain ⟨candidate, member, occurs⟩ := contains
  cases grounds with
  | name isNamed => exact Option.some.inj isNamed ▸ List.infix_refl _
  | part isPackage _ occurs => exact Option.some.inj isPackage ▸ occurs
  | rank _ notContained _ => exact absurd occurs (notContained part rfl candidate member)

end Grounds

end Choice

/-! ## The walk -/

/-- Past directories without candidates, one comes from a directory through successive parents to the
nearest one that has a candidate. -/
inductive Reaches (tree : FileTree) : Path → List Path → Path → Prop
  | here {directory : Path} {stem : String} : IsCandidate tree directory stem →
      Reaches tree directory [] directory
  | up {directory parent nearest : Path} {below : List Path} :
      (∀ stem, ¬IsCandidate tree directory stem) → directory.parent? = some parent →
      Reaches tree parent below nearest → Reaches tree directory (directory :: below) nearest

/-- The stems of the package descriptors in directories, one directory after the other. -/
def stemsAlong (tree : FileTree) (directories : List Path) : List String :=
  directories.flatMap fun directory => packageStems (inDirectory tree directory)

variable {tree : FileTree}

theorem toList_head? {α : Type} {list : List α} (few : list.length ≤ 1) :
    list.head?.toList = list := by
  match list with
  | [] | [_] => rfl

/-- What a directory adds to the package descriptors met before decides whether the walk stops there
undecided, chooses there, or goes on. -/
theorem discoverAlong_cons {seen : List String} (few : seen.length ≤ 1) (directory : Path)
    (above : List Path) :
    discoverAlong tree seen.head? (directory :: above) =
      if (seen ++ packageStems (inDirectory tree directory)).length ≤ 1 then
        match choose? (seen ++ packageStems (inDirectory tree directory)).head? directory
            (gathered tree directory) with
        | some candidate => some candidate.main
        | none =>
            discoverAlong tree (seen ++ packageStems (inDirectory tree directory)).head? above
      else none := by
  rw [discoverAlong, addAll?_eq, toList_head? few]
  by_cases still : (seen ++ packageStems (inDirectory tree directory)).length ≤ 1
  · rw [if_pos still, if_pos still]
    rfl
  · rw [if_neg still, if_neg still]

theorem discoverAlong_cons_of_nothing (proper : tree.HasProperNames) {seen : List String}
    (few : seen.length ≤ 1) {directory : Path} (nothing : ∀ stem, ¬IsCandidate tree directory stem)
    (above : List Path) :
    discoverAlong tree seen.head? (directory :: above) =
      if (seen ++ packageStems (inDirectory tree directory)).length ≤ 1 then
        discoverAlong tree (seen ++ packageStems (inDirectory tree directory)).head? above
      else none := by
  rw [discoverAlong_cons few,
    choose?_eq_none_iff.mpr ((gathered_eq_nil_iff proper).mpr nothing)]

/-- What a walk comes to, when it has already met the package descriptors with some stems. -/
theorem discoverAlong_of_reaches (proper : tree.HasProperNames) {directory nearest : Path}
    {below : List Path} (reaches : Reaches tree directory below nearest) {seen : List String}
    (few : seen.length ≤ 1) :
    discoverAlong tree seen.head? directory.ancestors =
      if (seen ++ stemsAlong tree (below ++ [nearest])).length ≤ 1 then
        (choose? (seen ++ stemsAlong tree (below ++ [nearest])).head? nearest
          (gathered tree nearest)).map (·.main)
      else none := by
  induction reaches generalizing seen with
  | @here directory stem isCandidate =>
      have alone : stemsAlong tree ([] ++ [directory]) =
          packageStems (inDirectory tree directory) := List.append_nil _
      rw [ancestors, discoverAlong_cons few, alone]
      congr 1
      cases choice : choose? (seen ++ packageStems (inDirectory tree directory)).head? directory
          (gathered tree directory) with
      | some candidate => rfl
      | none =>
          have nothing := (gathered_eq_nil_iff proper).mp (choose?_eq_none_iff.mp choice)
          exact absurd isCandidate (nothing stem)
  | @up directory parent nearest below nothing isParent _ ih =>
      have more : seen ++ stemsAlong tree (directory :: below ++ [nearest]) =
          seen ++ packageStems (inDirectory tree directory) ++
            stemsAlong tree (below ++ [nearest]) := (List.append_assoc _ _ _).symm
      rw [ancestors_of_parent? isParent, discoverAlong_cons_of_nothing proper few nothing, more]
      by_cases still : (seen ++ packageStems (inDirectory tree directory)).length ≤ 1
      · rw [if_pos still]
        exact ih still
      · rw [if_neg still, if_neg]
        rw [List.length_append]
        omega

/-- Without a directory to come to there is nothing to find. -/
theorem exists_reaches (proper : tree.HasProperNames) {directory main : Path} {seen : List String}
    (few : seen.length ≤ 1)
    (found : discoverAlong tree seen.head? directory.ancestors = some main) :
    ∃ below nearest, Reaches tree directory below nearest := by
  by_contra nowhere
  -- A directory that reaches no candidate has none, so that the walk goes on to its parent.
  generalize isAbove : directory.above = above at found
  induction above generalizing directory seen with
  | nil =>
      have nothing : ∀ stem, ¬IsCandidate tree directory stem :=
        fun _ isCandidate => nowhere ⟨[], directory, .here isCandidate⟩
      rw [ancestors, isAbove, discoverAlong_cons_of_nothing proper few nothing] at found
      split at found <;> cases found
  | cons parent above ih =>
      have nothing : ∀ stem, ¬IsCandidate tree directory stem :=
        fun _ isCandidate => nowhere ⟨[], directory, .here isCandidate⟩
      have isParent : directory.parent? = some parent := by rw [parent?, isAbove, List.head?_cons]
      rw [ancestors_of_parent? isParent, discoverAlong_cons_of_nothing proper few nothing] at found
      split at found
      · rename_i still
        refine ih still found ?_ ?_
        · rintro ⟨below, nearest, reaches⟩
          exact nowhere ⟨directory :: below, nearest, .up nothing isParent reaches⟩
        · have onwards := ancestors_of_parent? isParent
          rw [ancestors, ancestors, isAbove] at onwards
          exact (List.cons.inj (List.cons.inj onwards).2).2.symm
      · cases found

/-! ## Package descriptors on the way -/

/-- The package descriptors in directories as texts, one directory after the other. -/
def packagesAlong (tree : FileTree) (directories : List Path) : List String :=
  directories.flatMap fun directory => (packageNames tree directory).map FileName.shown

theorem perm_packageStems (tree : FileTree) (directory : Path) :
    (packageStems (inDirectory tree directory)).Perm
      (((packageNames tree directory).map FileName.shown).map stemOf) := by
  have stems : packageStems (inDirectory tree directory) =
      ((packagesIn tree directory).map Described.name).map stemOf := by
    rw [packageStems, packagesIn, List.map_map]
    refine List.map_congr_left fun descriptor member => ?_
    obtain ⟨-, -, split⟩ := mem_inDirectory_iff.mp (List.mem_of_mem_filter member)
    rw [Function.comp_apply, stemOf, split]
  rw [stems]
  exact (perm_packageNames tree directory).map stemOf

theorem perm_stemsAlong (tree : FileTree) (directories : List Path) :
    (stemsAlong tree directories).Perm ((packagesAlong tree directories).map stemOf) := by
  rw [stemsAlong, packagesAlong, List.map_flatMap]
  exact List.Perm.flatMap_left _ fun directory _ => perm_packageStems tree directory

/-- A single package descriptor has no other order. -/
theorem stemsAlong_eq {directories : List Path}
    (few : (packagesAlong tree directories).length ≤ 1) :
    stemsAlong tree directories = (packagesAlong tree directories).map stemOf := by
  have same := perm_stemsAlong tree directories
  match packages : packagesAlong tree directories with
  | [] =>
      rw [packages] at same
      exact same.eq_nil
  | [_] =>
      rw [packages] at same
      exact List.perm_singleton.mp same
  | _ :: _ :: _ => simp [packages] at few

/-! ## The main file -/

/-- The name to look for among the candidates of the nearest directory: that of the package whose
descriptor lies there or on the way, and without one that of the directory. -/
def projectName? (tree : FileTree) (below : List Path) (nearest : Path) : Option String :=
  ((packagesAlong tree (below ++ [nearest])).head?.map stemOf).or nearest.fileName?

theorem discover_of_reaches (proper : tree.HasProperNames) {start nearest : Path}
    {below : List Path} (reaches : Reaches tree start below nearest) :
    discover tree start =
      if (packagesAlong tree (below ++ [nearest])).length ≤ 1 then
        (choose? ((packagesAlong tree (below ++ [nearest])).head?.map stemOf) nearest
          (gathered tree nearest)).map (·.main)
      else none := by
  have none : ([] : List String).length ≤ 1 := Nat.zero_le 1
  have walk := discoverAlong_of_reaches proper reaches none
  rw [List.nil_append, (perm_stemsAlong tree _).length_eq, List.length_map] at walk
  rw [discover]
  refine walk.trans (ite_congr rfl (fun few => ?_) fun _ => rfl)
  rw [stemsAlong_eq few, List.head?_map]

theorem Reaches.offers {start nearest : Path} {below : List Path}
    (reaches : Reaches tree start below nearest) : ∃ stem, IsCandidate tree nearest stem := by
  induction reaches with
  | here isCandidate => exact ⟨_, isCandidate⟩
  | up _ _ _ ih => exact ih

/-- With at most one package descriptor on the way the nearest directory has a main file. -/
theorem isSome_discover_of_reaches (proper : tree.HasProperNames) {start nearest : Path}
    {below : List Path} (reaches : Reaches tree start below nearest)
    (few : (packagesAlong tree (below ++ [nearest])).length ≤ 1) :
    (discover tree start).isSome = true := by
  rw [discover_of_reaches proper reaches, if_pos few, Option.isSome_map,
    Option.isSome_iff_ne_none]
  intro none
  obtain ⟨stem, isCandidate⟩ := reaches.offers
  exact (gathered_eq_nil_iff proper).mp (choose?_eq_none_iff.mp none) stem isCandidate

/-- The main file of a project is a candidate of the nearest directory that has any, among the start
and its successive parents. There is none only when no directory has a candidate, or when more than
one package descriptor is listed in the nearest one and those before it, one directory after the
other. A candidate with the name of the package, which is that of the nearest directory if there is no
package descriptor, is preferred to all others, and one whose name contains that of the package to
those whose names do not. Names of files are taken as the texts that they are read as. -/
theorem discover_nearest_candidate (proper : tree.HasProperNames) (start : Path) :
    ((discover tree start).isSome = true ↔
        ∃ below nearest, Reaches tree start below nearest ∧
          (packagesAlong tree (below ++ [nearest])).length ≤ 1) ∧
      ∀ below nearest main, Reaches tree start below nearest → discover tree start = some main →
        ∃ stem, IsCandidate tree nearest stem ∧ main = mainFile nearest stem ∧
          (∀ name, projectName? tree below nearest = some name → IsCandidate tree nearest name →
            stem = name) ∧
          ∀ package ∈ packagesAlong tree (below ++ [nearest]),
            (∃ other, IsCandidate tree nearest other ∧
              (stemOf package).toList <:+: other.toList) →
            (stemOf package).toList <:+: stem.toList := by
  constructor
  · constructor
    · intro isSome
      obtain ⟨main, found⟩ := Option.isSome_iff_exists.mp isSome
      have none : ([] : List String).length ≤ 1 := Nat.zero_le 1
      obtain ⟨below, nearest, reaches⟩ := exists_reaches proper none found
      refine ⟨below, nearest, reaches, ?_⟩
      by_contra many
      rw [discover_of_reaches proper reaches, if_neg many] at found
      cases found
    · rintro ⟨below, nearest, reaches, few⟩
      exact isSome_discover_of_reaches proper reaches few
  · intro below nearest main reaches found
    rw [discover_of_reaches proper reaches, Option.ite_none_right_eq_some] at found
    obtain ⟨few, found⟩ := found
    obtain ⟨chosen, choice, rfl⟩ := Option.map_eq_some_iff.mp found
    obtain ⟨stem, isCandidate, isMain, rfl⟩ :=
      exists_stem_of_mem_gathered proper (mem_of_choose?_eq_some choice)
    have grounds := grounds_of_choose?_eq_some choice
    refine ⟨chosen.name, isCandidate, isMain, ?_, ?_⟩
    · intro name sought named
      exact grounds.name_eq sought (exists_mem_gathered proper named)
    · rintro package member ⟨other, isCandidate', contains⟩
      obtain ⟨candidate, gathered, rfl⟩ := exists_mem_gathered proper isCandidate'
      obtain ⟨only, single⟩ := List.length_eq_one_iff.mp
        (Nat.le_antisymm few (List.length_pos_of_mem member))
      rw [single] at member grounds
      obtain rfl := List.mem_singleton.mp member
      exact grounds.infix_of_exists ⟨candidate, gathered, contains⟩

/-- A project whose package descriptor lies below its candidates. -/
def kitTree : FileTree where
  entries :=
    [(["tool"], .directory), (["tool", "aide.nims"], .file []), (["tool", "aide.nim"], .file []),
      (["tool", "kit.cfg"], .file []), (["tool", "kit.nim"], .file []),
      (["tool", "src"], .directory), (["tool", "src", "kit.nimble"], .file [])]
  workdir := []
  distinct := by decide

theorem discover_nearest_candidate_kit :
    kitTree.HasProperNames ∧ discover kitTree ⟨"/tool/src"⟩ = some ⟨"/tool/kit.nim"⟩ := by
  have proper : kitTree.HasProperNames := by decide +kernel
  obtain ⟨isSome, settles⟩ := discover_nearest_candidate proper ⟨"/tool/src"⟩
  have nothing : ∀ stem, ¬IsCandidate kitTree ⟨"/tool/src"⟩ stem :=
    forall_isCandidate_iff.mpr (by decide +kernel)
  have reaches : Reaches kitTree ⟨"/tool/src"⟩ [⟨"/tool/src"⟩] ⟨"/tool"⟩ :=
    .up nothing (by decide +kernel) (.here (show IsCandidate kitTree _ "kit" by decide +kernel))
  obtain ⟨main, found⟩ := Option.isSome_iff_exists.mp
    (isSome.mpr ⟨_, _, reaches, by decide +kernel⟩)
  obtain ⟨stem, -, isMain, named, -⟩ := settles _ _ main reaches found
  obtain rfl := named "kit" (by decide +kernel) (by decide +kernel)
  exact ⟨proper, found.trans (congrArg some (isMain.trans (by decide +kernel)))⟩

/-! ### Main files that are missed -/

theorem Reaches.mem_ancestors {start nearest : Path} {below : List Path}
    (reaches : Reaches tree start below nearest) : nearest ∈ start.ancestors := by
  induction reaches with
  | here => exact List.mem_cons_self
  | up _ isParent _ ih =>
      rw [ancestors_of_parent? isParent]
      exact List.mem_cons_of_mem _ ih

theorem discover_eq_none_of_nothing (proper : tree.HasProperNames) {start : Path}
    (nothing : ∀ directory ∈ start.ancestors, ∀ stem, ¬IsCandidate tree directory stem) :
    discover tree start = none := by
  cases found : discover tree start with
  | none => rfl
  | some main =>
      have none : ([] : List String).length ≤ 1 := Nat.zero_le 1
      obtain ⟨below, nearest, reaches⟩ := exists_reaches proper none found
      obtain ⟨stem, isCandidate⟩ := reaches.offers
      exact absurd isCandidate (nothing nearest reaches.mem_ancestors stem)

/-- A project in the root directory, above a package with a directory of its own in it. -/
def nestedTree : FileTree where
  entries :=
    [(["main.cfg"], .file []), (["main.nim"], .file []), (["a"], .directory),
      (["a", "p.nimble"], .file []), (["a", "b"], .directory)]
  workdir := []
  distinct := by decide

/-- A walk that meets a directory in two spellings counts its package descriptor twice. -/
theorem discover_counts_descriptor_twice :
    IsCandidate nestedTree ⟨"/"⟩ "main" ∧
      nestedTree.locate true ⟨"/a/b/.."⟩ = nestedTree.locate true ⟨"/a"⟩ ∧
      packageNames nestedTree ⟨"/a"⟩ = [.text "p.nimble"] ∧
      packageNames nestedTree ⟨"/a/b"⟩ = [] ∧ packageNames nestedTree ⟨"/"⟩ = [] ∧
      discover nestedTree ⟨"/a/b/.."⟩ = none := by
  have proper : nestedTree.HasProperNames := by decide +kernel
  have root : IsCandidate nestedTree ⟨"/"⟩ "main" := by decide +kernel
  have nothing : ∀ directory ∈ [Path.mk "/a/b/..", ⟨"/a/b"⟩, ⟨"/a"⟩],
      ∀ stem ∈ (nestedTree.shownFiles directory).map stemOf,
        ¬IsCandidate nestedTree directory stem := by
    decide +kernel
  simp only [List.forall_mem_cons] at nothing
  obtain ⟨first, second, third, -⟩ := nothing
  have reaches : Reaches nestedTree ⟨"/a/b/.."⟩ [⟨"/a/b/.."⟩, ⟨"/a/b"⟩, ⟨"/a"⟩] ⟨"/"⟩ :=
    .up (forall_isCandidate_iff.mpr first) (by decide +kernel)
      (.up (forall_isCandidate_iff.mpr second) (by decide +kernel)
        (.up (forall_isCandidate_iff.mpr third) (by decide +kernel) (.here root)))
  refine ⟨root, by decide +kernel, by decide +kernel, by decide +kernel, by decide +kernel, ?_⟩
  rw [discover_of_reaches proper reaches, if_neg (by decide +kernel)]

/-- The name of a descriptor whose stem is no text. -/
def strayDescriptor : StrayName where
  bytes := 0xFF :: Text.Utf8.encode ".cfg"
  notText := by decide +kernel
  whole := by decide +kernel

/-- The name of the source file of that stem. -/
def strayMain : StrayName where
  bytes := 0xFF :: Text.Utf8.encode ".nim"
  notText := by decide +kernel
  whole := by decide +kernel

/-- A directory with a source file and a descriptor whose common stem is no text. -/
def strayTree : FileTree where
  entries :=
    [(["work"], .directory), (.stray ["work"] strayDescriptor, .file []),
      (.stray ["work"] strayMain, .file [])]
  workdir := []
  distinct := by decide +kernel

/-- A source file is not found under a name that is no text. -/
theorem discover_misses_stray_main :
    strayTree.regularFiles ⟨"/work"⟩ = [.stray strayDescriptor, .stray strayMain] ∧
      discover strayTree ⟨"/work"⟩ = none := by
  have directories : (Path.mk "/work").ancestors = [⟨"/work"⟩, ⟨"/"⟩] := by
    decide +kernel
  have nothing : ∀ directory ∈ (Path.mk "/work").ancestors,
      ∀ stem ∈ (strayTree.shownFiles directory).map stemOf,
        ¬IsCandidate strayTree directory stem := by
    rw [directories]
    decide +kernel
  refine ⟨by decide +kernel, discover_eq_none_of_nothing (by decide +kernel) ?_⟩
  intro directory above
  exact forall_isCandidate_iff.mpr (nothing directory above)

end Frontend.Project
