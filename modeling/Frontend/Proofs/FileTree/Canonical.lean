import Frontend.Proofs.FileTree.Linkless
import Frontend.Proofs.Path.Extension

/-!
# Canonical paths

A canonical path is the path to a place, written with single slashes and without dots. On such paths
joining and making relative are inverse to each other, as texts and not only by their steps: what is
taken away from the path to a place is joined to what is left as it was written. In a tree without
links a canonical path leads to the place that it is the path to.
-/

namespace Frontend

theorem Path.relativeTo?_eq_none_iff {path base : Path} :
    path.relativeTo? base = none ↔ ¬ path.startsWith base = true := by
  rw [relativeTo?]
  split <;> simp [*]

theorem Path.startsWith_of_relativeTo? {path base relative : Path}
    (rest : path.relativeTo? base = some relative) : path.startsWith base = true := by
  by_contra apart
  rw [relativeTo?_eq_none_iff.mpr apart] at rest
  cases rest

namespace FileTree

open Frontend.Path

/-! ## Names as pieces -/

section

variable {place : Place}

theorem map_text_map_name (place : Place) :
    (place.map Component.name).map Component.text = place := by
  rw [List.map_map]
  exact List.map_id place

theorem IsNamed.isInner (named : IsNamed place) :
    ∀ step ∈ place.map Component.name, step.IsInner := by
  intro step member
  obtain ⟨name, isName, rfl⟩ := List.mem_map.mp member
  exact named name isName

theorem IsNamed.wellCut (named : IsNamed place) (anchor : Anchor) :
    Parts.WellCut ⟨anchor, place⟩ := by
  have cut := wellCut_of_isInner anchor named.isInner
  rwa [map_text_map_name] at cut

theorem IsNamed.filterMap_ofPiece? (named : IsNamed place) :
    place.filterMap Component.ofPiece? = place.map .name := by
  have read := filterMap_ofPiece?_text named.isInner
  rwa [map_text_map_name] at read

theorem IsNamed.of_append {front back : Place} (named : IsNamed (front ++ back)) :
    IsNamed front ∧ IsNamed back :=
  ⟨fun name member => named name (List.mem_append_left back member),
    fun name member => named name (List.mem_append_right front member)⟩

/-- No silent piece leads or trails among proper names. -/
theorem IsNamed.dropWhile_silent (named : IsNamed place) : place.dropWhile silent = place := by
  cases place with
  | nil => rfl
  | cons first rest =>
      have loud : silent first = false := (named first List.mem_cons_self).1
      exact List.dropWhile_cons_of_neg (by simp [loud])

theorem IsNamed.trimEnd (named : IsNamed place) : trimEnd place = place := by
  have backwards : IsNamed place.reverse := fun name member => named name (List.mem_reverse.mp member)
  rw [Path.trimEnd, backwards.dropWhile_silent, List.reverse_reverse]

theorem IsNamed.dropSteps_append {front : Place} (named : IsNamed front) (back : Place) :
    dropSteps front.length (front ++ back) = back := by
  induction front with
  | nil => exact dropSteps.eq_1 back
  | cons first rest ih =>
      have loud : silent first = false := (named first List.mem_cons_self).1
      rw [List.length_cons, List.cons_append, dropSteps, if_neg (by simp [loud])]
      exact ih fun name member => named name (List.mem_cons_of_mem first member)

end

/-! ## Ways -/

/-- The relative path that leads along the names. -/
def way (names : List String) : Path :=
  ofParts ⟨.free, names⟩

section

variable {names : List String} (named : IsNamed names)

include named

theorem innerSteps_way : (way names).innerSteps = names.map .name := by
  rw [way, innerSteps_ofParts (named.wellCut .free), named.filterMap_ofPiece?]

theorem isAbsolute_way : (way names).isAbsolute = false := by
  rw [Bool.eq_false_iff, Ne, isAbsolute_iff]
  cases names with
  | nil => exact nofun
  | cons first rest =>
      rw [way, parts_ofParts (named.wellCut .free) (List.cons_ne_nil first rest)]
      exact nofun

theorem climbs_way : (way names).climbs = false := by
  rw [climbs, innerSteps_way named]
  generalize 0 = depth
  induction names generalizing depth with
  | nil => rfl
  | cons name rest ih => exact ih (fun other member => named other (List.mem_cons_of_mem _ member)) _

end

/-! ## Paths to places -/

theorem pathTo_eq (place : Place) : pathTo place = ofParts ⟨.root, place⟩ := by
  rw [pathTo, ofComponents, map_text_map_name]

theorem text_pathTo (place : Place) :
    (pathTo place).text = String.ofList ('/' :: joinSlash (place.map String.toList)) := by
  rw [pathTo_eq, text_ofParts_root]

theorem joinSlash_append {front back : List (List Char)} (some : front ≠ []) (some' : back ≠ []) :
    joinSlash (front ++ back) = joinSlash front ++ '/' :: joinSlash back := by
  induction front with
  | nil => exact absurd rfl some
  | cons first rest ih =>
      cases rest with
      | nil => exact joinSlash_cons_of_ne_nil first some'
      | cons second others =>
          rw [List.cons_append, joinSlash_cons_of_ne_nil first (by simp), ih (by simp),
            joinSlash_cons_of_ne_nil first (by simp), List.append_assoc]
          rfl

/-- The path to a place below the root does not end in a slash. -/
theorem getLast?_text_pathTo {place : Place} (named : IsNamed place) (below : place ≠ []) :
    (pathTo place).text.toList.getLast? ≠ some '/' := by
  obtain ⟨before, last, rfl⟩ := place.eq_nil_or_concat.resolve_left below
  rw [List.concat_eq_append] at named ⊢
  have isName := named last (by simp)
  have some : last.toList ≠ [] := by
    have loud : last ≠ "" := by
      rintro rfl
      cases isName.1
    simpa using loud
  have ends : ∃ front, (pathTo (before ++ [last])).text.toList = front ++ last.toList := by
    rw [text_pathTo, String.toList_ofList, List.map_append]
    by_cases none : before = []
    · exact ⟨['/'], by simp [none, joinSlash]⟩
    · rw [joinSlash_append (by simpa using none) (by simp)]
      exact ⟨'/' :: joinSlash (before.map String.toList) ++ ['/'], by simp [joinSlash]⟩
  obtain ⟨front, text⟩ := ends
  rw [text, List.getLast?_append_of_ne_nil _ some]
  intro slash
  exact isName.2.2 (List.mem_of_getLast? slash)

/-- A way that is joined to the path to a place leads on from there. -/
theorem pathTo_join_way {base names : List String} (named : IsNamed base) (named' : IsNamed names)
    (some : names ≠ []) : (pathTo base).join (way names) = pathTo (base ++ names) := by
  have relative := isAbsolute_way named'
  have text : (way names).text = String.ofList (joinSlash (names.map String.toList)) := rfl
  have joined : pathTo (base ++ names) =
      ⟨String.ofList ('/' :: joinSlash ((base ++ names).map String.toList))⟩ :=
    congrArg Path.mk (text_pathTo (base ++ names))
  rw [join, if_neg (by simp [relative]), joined]
  by_cases root : base = []
  · subst root
    rw [if_pos (by rfl), text]
    apply congrArg Path.mk
    apply String.toList_inj.mp
    simp [text_pathTo, joinSlash]
  · have nonempty : (pathTo base).isEmpty = false := by
      rw [Path.isEmpty, text_pathTo]
      simp
    have openEnd := getLast?_text_pathTo named root
    rw [if_neg (by simp [nonempty, openEnd]), text, text_pathTo, List.map_append,
      joinSlash_append (by simpa using root) (by simpa using some)]
    apply congrArg Path.mk
    apply String.toList_inj.mp
    simp

theorem pathTo_injective {place other : Place} (named : IsNamed place) (named' : IsNamed other)
    (same : (pathTo place).components = (pathTo other).components) : place = other := by
  rw [components_pathTo named, components_pathTo named', List.cons.injEq] at same
  exact List.map_injective_iff.mpr (fun _ _ equal => Component.name.inj equal) same.2

theorem parts_pathTo {place : Place} (named : IsNamed place) (below : place ≠ []) :
    (pathTo place).parts = ⟨.root, place⟩ := by
  rw [pathTo_eq, parts_ofParts (named.wellCut .root) below]

/-- What is left of the path to a place, after the path to another one on the way, is the way from
there. -/
theorem relativeTo?_pathTo {base names : List String} (named : IsNamed (base ++ names)) :
    (pathTo (base ++ names)).relativeTo? (pathTo base) = some (way names) := by
  obtain ⟨named', named''⟩ := named.of_append
  by_cases below : base ++ names = []
  · obtain ⟨rfl, rfl⟩ := List.append_eq_nil_iff.mp below
    decide +kernel
  · have begins : (pathTo (base ++ names)).startsWith (pathTo base) = true := by
      rw [Path.startsWith, components_pathTo named, components_pathTo named', List.map_append]
      simp
    have counted : (pathTo base).components.length = base.length + 1 := by
      rw [components_pathTo named']
      simp
    have rootless : base.length + 1 - Anchor.root.components.length = base.length := rfl
    rw [Path.relativeTo?, if_pos begins, dropComponents, counted, if_neg (Nat.succ_ne_zero _),
      parts_pathTo named below]
    simp only [rootless, named'.dropSteps_append, named''.dropWhile_silent, named''.trimEnd]
    rfl

theorem destination_pathTo (tree : FileTree) {place : Place} (named : IsNamed place) :
    tree.destination (pathTo place) = place := by
  have along (here : Place) : (place.map Component.name).foldl stepTo here = here ++ place := by
    clear named
    induction place generalizing here with
    | nil => exact (List.append_nil here).symm
    | cons name rest ih =>
        rw [List.map_cons, List.foldl_cons, stepTo, ih, List.append_assoc]
        rfl
  rw [destination, components_pathTo named, List.foldl_cons, along]
  rfl

/-! ## Canonical paths -/

/-- The path to some place. -/
def IsCanonical (path : Path) : Prop :=
  ∃ place, IsNamed place ∧ path = pathTo place

/-- If a path is the path to a place, then its names lead there. -/
instance (path : Path) : Decidable (IsCanonical path) :=
  decidable_of_iff
    (IsNamed (path.innerSteps.map Component.text) ∧
      path = pathTo (path.innerSteps.map Component.text)) <| by
    refine ⟨fun canonical => ⟨_, canonical⟩, ?_⟩
    rintro ⟨place, named, rfl⟩
    have names : (pathTo place).innerSteps.map Component.text = place := by
      rw [pathTo_eq, innerSteps_ofParts (named.wellCut .root), named.filterMap_ofPiece?,
        map_text_map_name]
    rw [names]
    exact ⟨named, rfl⟩

namespace IsCanonical

variable {tree : FileTree} {path other : Path}

/-- Without links a canonical path is its own canonical form, whether it exists or not. -/
theorem canonicalOr_eq (canonical : IsCanonical path) (linkless : tree.IsLinkless) :
    tree.canonicalOr path = path := by
  obtain ⟨place, named, rfl⟩ := canonical
  cases found : tree.canonical? (pathTo place) with
  | none => rw [canonicalOr, found, Option.getD_none]
  | some _ =>
      rw [canonicalOr, found, Option.getD_some, linkless.eq_of_canonical? found,
        destination_pathTo tree named]

theorem eq_of_same (canonical : IsCanonical path) (canonical' : IsCanonical other)
    (same : path.same other = true) : path = other := by
  obtain ⟨place, named, rfl⟩ := canonical
  obtain ⟨place', named', rfl⟩ := canonical'
  rw [pathTo_injective named named' (same_iff.mp same)]

theorem isEmpty_eq_false (canonical : IsCanonical path) : path.isEmpty = false := by
  obtain ⟨place, -, rfl⟩ := canonical
  rw [Path.isEmpty, text_pathTo]
  simp

theorem join_name (canonical : IsCanonical path) {name : String} (isName : IsName name) :
    IsCanonical (path.join ⟨name⟩) := by
  obtain ⟨place, named, rfl⟩ := canonical
  have single : IsNamed [name] := by
    intro other member
    rwa [List.mem_singleton.mp member]
  have isWay : Path.mk name = way [name] := congrArg Path.mk (String.ofList_toList).symm
  rw [isWay, pathTo_join_way named single (List.cons_ne_nil name [])]
  exact ⟨place ++ [name], named.concat isName, rfl⟩

/-- A canonical path that begins with another one is what a way leads to from there. -/
theorem exists_way (canonical : IsCanonical path) (canonical' : IsCanonical other)
    {relative : Path} (rest : path.relativeTo? other = some relative) :
    ∃ names, IsNamed names ∧ relative = way names ∧
      (names ≠ [] → path = other.join relative) := by
  obtain ⟨place, named, rfl⟩ := canonical
  obtain ⟨base, named', rfl⟩ := canonical'
  have begins := startsWith_of_relativeTo? rest
  rw [Path.startsWith, components_pathTo named, components_pathTo named',
    List.isPrefixOf_iff_prefix, List.cons_prefix_cons] at begins
  obtain ⟨further, split⟩ := begins.2
  obtain ⟨front, names, rfl, isFront, -⟩ := List.map_eq_append_iff.mp split.symm
  obtain rfl : front = base :=
    List.map_injective_iff.mpr (fun _ _ equal => Component.name.inj equal) isFront
  have named'' := named.of_append.2
  rw [relativeTo?_pathTo named, Option.some.injEq] at rest
  subst rest
  exact ⟨names, named'', rfl, fun some => (pathTo_join_way named' named'' some).symm⟩

end IsCanonical

end FileTree

end Frontend
