import Frontend.Proofs.Project.Discovery

/-!
# The rank of a candidate

Where no name decides, the candidate of the least rank is chosen, and a candidate has the rank of the
descriptor that offered it first. The descriptors of a directory are met in the order of their names,
not of their ranks: a descriptor of less weight comes first if its extension does so in the alphabet,
and then the weightiest descriptor of a candidate does not count.
-/

namespace Frontend.Project

open Frontend.Descriptor Frontend.FileTree Frontend.Path

/-! ## The order in which descriptors are met -/

/-- The first element that fits stands before all others that do. -/
theorem rel_of_find?_eq_some {α : Type} {R : α → α → Prop} {fits : α → Bool} {list : List α}
    {first other : α} (ordered : list.Pairwise R) (refl : ∀ element, R element element)
    (found : list.find? fits = some first) (member : other ∈ list) (isFit : fits other = true) :
    R first other := by
  obtain ⟨-, before, after, rfl, unfit⟩ := List.find?_eq_some_iff_append.mp found
  rw [List.mem_append, List.mem_cons] at member
  obtain earlier | rfl | later := member
  · have unfit := unfit other earlier
    rw [isFit] at unfit
    cases unfit
  · exact refl other
  · exact List.rel_of_pairwise_cons (List.pairwise_append.mp ordered).2.1 later

/-- The known extensions in the order of their letters. -/
def metExtensions : List String :=
  ["cfg", "nimble", "nimcfg", "nims"]

theorem perm_metExtensions : metExtensions.Perm rankedExtensions := by
  decide

theorem pairwise_metExtensions :
    metExtensions.Pairwise fun first second => first ≤ second := by
  decide

theorem le_of_append_le {stem first second : String}
    (below : stem ++ "." ++ first ≤ stem ++ "." ++ second) : first ≤ second := by
  rw [← String.not_lt] at below ⊢
  intro before
  apply below
  rw [String.lt_iff_toList_lt] at before ⊢
  simp only [String.toList_append]
  exact List.append_left_lt before

variable {tree : FileTree} {directory : Path}

/-- The extension of the descriptor of a stem that is met first. -/
def metExtension? (tree : FileTree) (directory : Path) (stem : String) : Option String :=
  metExtensions.find? fun extension => Describes tree directory stem extension

theorem metExtension?_of_firstOf? {stem : String} {descriptor : Described}
    (first : firstOf? stem (inDirectory tree directory) = some descriptor) :
    metExtension? tree directory stem = some descriptor.extension := by
  obtain ⟨member, rfl, known⟩ := firstOf?_eq_some first
  obtain ⟨written, describes⟩ := describes_of_mem_inDirectory member
  have isMet : descriptor.extension ∈ metExtensions := perm_metExtensions.mem_iff.mpr known
  cases found : metExtension? tree directory descriptor.stem with
  | none => exact absurd describes (by simpa using List.find?_eq_none.mp found _ isMet)
  | some extension =>
      -- Each of the two extensions comes first in one of the orders, and the orders agree.
      have known' := perm_metExtensions.mem_iff.mp (List.mem_of_find?_eq_some found)
      have describes' : Describes tree directory descriptor.stem extension := by
        simpa using List.find?_some found
      have below : descriptor.extension ≤ extension := by
        have named := rel_of_find?_eq_some (pairwise_inDirectory tree directory)
          (fun _ => String.le_refl _) first ((describes_iff known').mp describes')
          (by simpa using known')
        rw [written] at named
        exact le_of_append_le named
      have above : extension ≤ descriptor.extension :=
        rel_of_find?_eq_some pairwise_metExtensions (fun _ => String.le_refl _) found isMet
          (decide_eq_true describes)
      rw [String.le_antisymm above below]

/-! ## Ranks -/

/-- The rank of a stem: that of the extension of its descriptor that is met first. -/
def metRank (tree : FileTree) (directory : Path) (stem : String) : Nat :=
  rankedExtensions.idxOf ((metExtension? tree directory stem).getD "")

/-- The least rank of an extension that a descriptor of the stem has. -/
def bestRank (tree : FileTree) (directory : Path) (stem : String) : Nat :=
  rankedExtensions.findIdx fun extension => Describes tree directory stem extension

theorem rank_of_mem_gathered (proper : tree.HasProperNames) {candidate : Candidate}
    (member : candidate ∈ gathered tree directory) :
    candidate.rank = metRank tree directory candidate.name := by
  obtain ⟨first, isFirst, -, rfl⟩ := (mem_gathered_iff proper).mp member
  rw [name_offered proper (firstOf?_eq_some isFirst).1, metRank,
    metExtension?_of_firstOf? isFirst]
  rfl

theorem pairwise_gathered (tree : FileTree) (directory : Path) :
    (gathered tree directory).Pairwise fun left right => left.rank ≤ right.rank :=
  pairwise_mergeSort_key Candidate.rank Nat.le_trans Nat.le_total _

theorem rank_le_of_head? {first other : Candidate}
    (isFirst : (gathered tree directory).head? = some first)
    (member : other ∈ gathered tree directory) : first.rank ≤ other.rank := by
  obtain ⟨rest, isGathered⟩ := List.head?_eq_some_iff.mp isFirst
  have ordered := pairwise_gathered tree directory
  rw [isGathered] at ordered member
  obtain rfl | later := List.mem_cons.mp member
  · exact Nat.le_refl _
  · exact List.rel_of_pairwise_cons ordered later

/-- Where no candidate of the nearest directory has the name that is looked for, or contains that of
the package, the main file is a candidate of the least rank, counted by the descriptors that are met
first. Its least rank is the least of all if no candidate has a descriptor of lesser rank than
the one that is met first. -/
theorem discover_takes_least_rank (proper : tree.HasProperNames) {start nearest main : Path}
    {below : List Path} (reaches : Reaches tree start below nearest)
    (found : discover tree start = some main)
    (unnamed : ∀ stem, IsCandidate tree nearest stem →
      projectName? tree below nearest ≠ some stem)
    (unrelated : ∀ package ∈ packagesAlong tree (below ++ [nearest]),
      ∀ stem, IsCandidate tree nearest stem → ¬(stemOf package).toList <:+: stem.toList) :
    ∃ stem, IsCandidate tree nearest stem ∧ main = mainFile nearest stem ∧
      (∀ other, IsCandidate tree nearest other →
        metRank tree nearest stem ≤ metRank tree nearest other) ∧
      ((∀ other, IsCandidate tree nearest other →
          metRank tree nearest other = bestRank tree nearest other) →
        ∀ other, IsCandidate tree nearest other →
          bestRank tree nearest stem ≤ bestRank tree nearest other) := by
  rw [discover_of_reaches proper reaches, Option.ite_none_right_eq_some] at found
  obtain ⟨-, found⟩ := found
  obtain ⟨chosen, choice, rfl⟩ := Option.map_eq_some_iff.mp found
  have member := mem_of_choose?_eq_some choice
  obtain ⟨stem, isCandidate, isMain, rfl⟩ := exists_stem_of_mem_gathered proper member
  have least : ∀ other, IsCandidate tree nearest other →
      metRank tree nearest chosen.name ≤ metRank tree nearest other := by
    intro other isCandidate'
    obtain ⟨candidate, member', rfl⟩ := exists_mem_gathered proper isCandidate'
    rw [← rank_of_mem_gathered proper member, ← rank_of_mem_gathered proper member']
    cases grounds_of_choose?_eq_some choice with
    | name isNamed => exact absurd isNamed (unnamed _ isCandidate)
    | part isPackage _ contains =>
        obtain ⟨package, isFirst, rfl⟩ := Option.map_eq_some_iff.mp isPackage
        exact absurd contains (unrelated package (List.mem_of_head? isFirst) _ isCandidate)
    | rank _ _ isFirst => exact rank_le_of_head? isFirst member'
  refine ⟨chosen.name, isCandidate, isMain, least, ?_⟩
  intro agree other isCandidate'
  rw [← agree _ isCandidate, ← agree _ isCandidate']
  exact least other isCandidate'

/-- A directory with two candidates, one with a weightier descriptor than the other. -/
def weighedTree : FileTree where
  entries :=
    [(["work"], .directory), (["work", "alpha.cfg"], .file []), (["work", "alpha.nim"], .file []),
      (["work", "zeta.nims"], .file []), (["work", "zeta.nim"], .file [])]
  workdir := []
  distinct := by decide

theorem discover_takes_least_rank_zeta :
    discover weighedTree ⟨"/work"⟩ = some ⟨"/work/zeta.nim"⟩ ∧
      bestRank weighedTree ⟨"/work"⟩ "zeta" = 0 ∧ bestRank weighedTree ⟨"/work"⟩ "alpha" = 1 := by
  have proper : weighedTree.HasProperNames := by decide +kernel
  have isCandidate : IsCandidate weighedTree ⟨"/work"⟩ "zeta" := by decide +kernel
  have reaches : Reaches weighedTree ⟨"/work"⟩ [] ⟨"/work"⟩ := .here isCandidate
  have noPackage : packagesAlong weighedTree ([] ++ [⟨"/work"⟩]) = [] := by decide +kernel
  obtain ⟨main, found⟩ := Option.isSome_iff_exists.mp
    (isSome_discover_of_reaches proper reaches (noPackage ▸ Nat.zero_le 1))
  obtain ⟨stem, isCandidate', isMain, -, least⟩ :=
    discover_takes_least_rank proper reaches found
      (forall_isCandidate_iff.mpr (by decide +kernel))
      (fun _ member => absurd (noPackage ▸ member) List.not_mem_nil)
  have agree : ∀ other, IsCandidate weighedTree ⟨"/work"⟩ other →
      metRank weighedTree ⟨"/work"⟩ other = bestRank weighedTree ⟨"/work"⟩ other :=
    forall_isCandidate_iff.mpr (by decide +kernel)
  have only : ∀ other, IsCandidate weighedTree ⟨"/work"⟩ other →
      bestRank weighedTree ⟨"/work"⟩ other ≤ bestRank weighedTree ⟨"/work"⟩ "zeta" →
        other = "zeta" :=
    forall_isCandidate_iff.mpr (by decide +kernel)
  obtain rfl := only stem isCandidate' (least agree "zeta" isCandidate)
  refine ⟨found.trans (congrArg some (isMain.trans ?_)), ?_, ?_⟩ <;> decide +kernel

/-- A directory in which the weightiest descriptor is met last. -/
def latecomerTree : FileTree where
  entries :=
    [(["work"], .directory), (["work", "aa.cfg"], .file []), (["work", "aa.nim"], .file []),
      (["work", "bb.nim"], .file []), (["work", "bb.nimcfg"], .file []),
      (["work", "bb.nims"], .file [])]
  workdir := []
  distinct := by decide

/-- A candidate with a descriptor of the weightiest extension is passed over for one without, since
another descriptor of it comes first in the alphabet. -/
theorem discover_passes_weightiest_descriptor :
    IsCandidate latecomerTree ⟨"/work"⟩ "aa" ∧ IsCandidate latecomerTree ⟨"/work"⟩ "bb" ∧
      projectName? latecomerTree [] ⟨"/work"⟩ = some "work" ∧
      ¬IsCandidate latecomerTree ⟨"/work"⟩ "work" ∧
      packagesAlong latecomerTree [⟨"/work"⟩] = [] ∧
      bestRank latecomerTree ⟨"/work"⟩ "bb" < bestRank latecomerTree ⟨"/work"⟩ "aa" ∧
      discover latecomerTree ⟨"/work"⟩ = some ⟨"/work/aa.nim"⟩ := by
  refine ⟨by decide +kernel, by decide +kernel, by decide +kernel, by decide +kernel,
    by decide +kernel, by decide +kernel, ?_⟩
  have files : [⟨"aa.cfg", "aa", "cfg"⟩, ⟨"aa.nim", "aa", "nim"⟩, ⟨"bb.nim", "bb", "nim"⟩,
      ⟨"bb.nimcfg", "bb", "nimcfg"⟩, ⟨"bb.nims", "bb", "nims"⟩] =
        inDirectory latecomerTree ⟨"/work"⟩ :=
    eq_inDirectory_of_perm (by decide +kernel) (by decide +kernel)
  have collected : (inDirectory latecomerTree ⟨"/work"⟩).foldl (meet latecomerTree ⟨"/work"⟩) [] =
      [⟨1, ⟨"/work/aa.nim"⟩⟩, ⟨2, ⟨"/work/bb.nim"⟩⟩] := by
    rw [← files]
    decide +kernel
  have reaches : Reaches latecomerTree ⟨"/work"⟩ [] ⟨"/work"⟩ :=
    .here (show IsCandidate latecomerTree _ "aa" by decide +kernel)
  rw [discover_of_reaches (by decide +kernel) reaches, gathered, collected,
    List.mergeSort_of_pairwise (by decide)]
  decide +kernel

end Frontend.Project
