import Mathlib.Data.Set.List
import Frontend.Path.Join
import Frontend.Proofs.Path.NormalJoin

/-!
# Relative paths and spellings

A path that is made relative to a base is compared with it as it was written. What is left of it are
its own steps after those of the base, detours included, and where it does not begin with the base the
whole path is left, even if its normal form lies inside. An absolute path is its normal form up to
slashes and dots exactly if it takes no step to a parent, and then it is made relative as one expects.
-/

namespace Frontend

namespace Path

/-! ## The steps that are left -/

/-- Pieces are dropped until so many steps are gone. -/
theorem filterMap_dropSteps (count : Nat) (body : List String) :
    (dropSteps count body).filterMap Component.ofPiece? =
      (body.filterMap Component.ofPiece?).drop count := by
  fun_induction dropSteps count body with
  | case1 body => rfl
  | case2 count => rfl
  | case3 count piece body quiet ih =>
      rw [ih, List.filterMap_cons_none (Component.ofPiece?_eq_none_iff.mpr quiet)]
  | case4 count piece body loud ih =>
      obtain ⟨step, isStep⟩ : ∃ step, Component.ofPiece? piece = some step := by
        rw [← Option.ne_none_iff_exists', Ne, Component.ofPiece?_eq_none_iff]
        exact loud
      rw [ih, List.filterMap_cons_some isStep, List.drop_succ_cons]

theorem mem_of_mem_dropSteps {count : Nat} {body : List String} {piece : String}
    (member : piece ∈ dropSteps count body) : piece ∈ body := by
  fun_induction dropSteps count body with
  | case1 => exact member
  | case2 => exact member
  | case3 count first body quiet ih => exact List.mem_cons_of_mem first (ih member)
  | case4 count first body loud ih => exact List.mem_cons_of_mem first (ih member)

/-- Trimming the end of well-cut parts loses no step. -/
theorem components_ofParts_trimEnd {parts : Parts} (cut : parts.WellCut) :
    (ofParts ⟨parts.anchor, trimEnd parts.body⟩).components =
      parts.anchor.components ++ parts.body.filterMap Component.ofPiece? := by
  have backwards : Parts.WellCut ⟨parts.anchor, parts.body.reverse.reverse⟩ := by
    rw [List.reverse_reverse]
    exact cut
  rw [trimEnd, components_cut backwards, List.filterMap_reverse, List.reverse_reverse]

/-- What is left of the pieces of a path does not begin with a silent one, so that it can be written
without an anchor. -/
theorem wellCut_dropSteps (path : Path) (count : Nat) :
    Parts.WellCut ⟨.free, (dropSteps count path.parts.body).dropWhile silent⟩ := by
  constructor
  · intro piece member
    apply path.wellCut_parts.whole
    exact mem_of_mem_dropSteps ((List.dropWhile_sublist silent).subset member)
  · rintro - piece first
    have loud := List.head?_dropWhile_not silent (dropSteps count path.parts.body)
    rw [Option.mem_def.mp first] at loud
    simpa using loud

theorem components_dropComponents (path : Path) (count : Nat) :
    (path.dropComponents count).components = path.components.drop count := by
  rw [dropComponents]
  split
  · next none =>
      rw [components_ofParts_trimEnd path.wellCut_parts, none]
      rfl
  · next positive =>
      have most : path.parts.anchor.components.length ≤ count := by
        have short : path.parts.anchor.components.length ≤ 1 := by
          cases path.parts.anchor <;> decide
        omega
      have rest := components_ofParts_trimEnd
        (path.wellCut_dropSteps (count - path.parts.anchor.components.length))
      dsimp only at rest
      rw [filterMap_ofPiece?_dropWhile, filterMap_dropSteps] at rest
      have steps : path.components.drop count =
          path.innerSteps.drop (count - path.parts.anchor.components.length) := by
        rw [components_eq, List.drop_append, List.drop_eq_nil_of_le most, List.nil_append]
      rw [steps]
      exact rest

variable {path base : Path}

/-- A path that begins with the base has the steps of the base, and then those of what is left. -/
theorem components_relativeTo (within : path.startsWith base = true) :
    base.components ++ (path.relativeTo base).components = path.components := by
  have left : path.relativeTo base = path.dropComponents base.components.length := by
    rw [relativeTo, relativeTo?, if_pos within]
    rfl
  rw [left, components_dropComponents]
  exact List.prefix_iff_eq_append.mp (List.isPrefixOf_iff_prefix.mp within)

/-- Any other path is left as it is. -/
theorem relativeTo_of_not_startsWith (apart : ¬ path.startsWith base = true) :
    path.relativeTo base = path := by
  rw [relativeTo, relativeTo?, if_neg apart]
  rfl

/-- The steps that are left depend on the steps of the path alone. -/
theorem components_relativeTo_congr {other : Path} (same : path.components = other.components)
    (base : Path) :
    (path.relativeTo base).components = (other.relativeTo base).components := by
  have alike : path.startsWith base = other.startsWith base := by
    rw [startsWith, startsWith, same]
  by_cases within : path.startsWith base = true
  · have whole : base.components ++ (path.relativeTo base).components =
        base.components ++ (other.relativeTo base).components := by
      rw [components_relativeTo within, components_relativeTo (alike ▸ within), same]
    exact List.append_cancel_left whole
  · rw [relativeTo_of_not_startsWith within, relativeTo_of_not_startsWith (alike ▸ within), same]

/-! ## Spellings of one absolute path -/

theorem components_of_isAbsolute (absolute : path.isAbsolute = true) :
    path.components = .root :: path.innerSteps := by
  rw [components_eq, (isAbsolute_iff path).mp absolute]
  rfl

/-- The root is no step but the first. -/
theorem root_notMem_tail (path : Path) : .root ∉ path.components.tail := by
  have inner : .root ∉ path.innerSteps := by
    intro member
    exact path.isInner_of_mem_innerSteps .root member
  rw [components_eq]
  cases path.parts.anchor with
  | root | here => exact inner
  | free => exact fun member => inner (List.mem_of_mem_tail member)

/-- An absolute path takes the steps of its normal form exactly if none of them leads to a parent. -/
theorem components_eq_normal_iff (absolute : path.isAbsolute = true) :
    path.components = path.normal.components ↔ .parent ∉ path.components := by
  have steps := components_of_isAbsolute absolute
  constructor
  · intro same
    obtain ⟨count, names, shape⟩ := path.exists_components_normal_eq
    rw [if_pos absolute] at shape
    rw [same, shape]
    simp
  · intro direct
    have isName : ∀ step ∈ path.innerSteps, step ∈ Set.range Component.name := by
      intro step member
      have isInner := path.isInner_of_mem_innerSteps step member
      cases step with
      | root | current => exact isInner.elim
      | parent => exact absurd (steps ▸ List.mem_cons_of_mem _ member) direct
      | name text => exact ⟨text, rfl⟩
    have listed : path.innerSteps ∈ Set.range (List.map Component.name) := by
      rw [Set.range_list_map]
      exact isName
    obtain ⟨names, inner⟩ := listed
    rw [components_normal]
    have normal : IsNormal path.components := ⟨[.root], names, .root, by rw [steps, ← inner]; rfl⟩
    exact normal.normalSteps_eq.symm

/-- A path whose normal form lies inside a base is made relative to it as one expects, step by step,
exactly if it takes no step to a parent. -/
theorem components_relativeTo_normal_iff (absolute : path.isAbsolute = true)
    (baseAbsolute : base.isAbsolute = true) (inside : base.components <+: path.normal.components) :
    base.components ++ (path.relativeTo base).components = path.normal.components ↔
      .parent ∉ path.components := by
  rw [← components_eq_normal_iff absolute]
  by_cases within : path.startsWith base = true
  · rw [components_relativeTo within]
  · rw [relativeTo_of_not_startsWith within]
    constructor
    · intro twice
      -- The path would begin at the root a second time, after the steps of the base.
      have again : .root ∈ path.normal.components.tail := by
        rw [← twice, components_of_isAbsolute baseAbsolute, components_of_isAbsolute absolute]
        simp
      exact absurd again path.normal.root_notMem_tail
    · intro direct
      rw [← direct] at inside
      exact absurd (List.isPrefixOf_iff_prefix.mpr inside) within

end Path

end Frontend
