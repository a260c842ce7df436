import Frontend.Proofs.FileTree.Walk
import Frontend.Proofs.Path.Recased

/-!
# Trees without links

Where there are no links, a path leads where its steps say, if it leads anywhere: the tree decides
whether a walk gets through, but not where to. So the canonical form of a path can be told from its
text. A relative path that never climbs above the directory that it is met in ends below this
directory, wherever the directory itself is.
-/

namespace Frontend

open Frontend.Path

/-- What stands at a place is a link. -/
def Entry.isLink : Entry → Bool
  | .link _ => true
  | .directory | .file _ => false

namespace FileTree

/-! ## Where steps lead -/

/-- Where a step leads from a place. -/
def stepTo (here : Place) : Component → Place
  | .root => []
  | .current => here
  | .parent => here.dropLast
  | .name text => here ++ [text]

/-- Inner steps that do not climb stay below the directory where they started. -/
theorem isPrefix_of_not_climbsFrom {steps : List Component} (inner : ∀ step ∈ steps, step.IsInner)
    (directory below : Place) (stays : climbsFrom below.length steps = false) :
    directory <+: steps.foldl stepTo (directory ++ below) := by
  induction steps generalizing below with
  | nil => exact List.prefix_append directory below
  | cons step rest ih =>
      rw [List.forall_mem_cons] at inner
      cases step with
      | root | current => exact inner.1.elim
      | name text =>
          have deeper : climbsFrom (below ++ [text]).length rest = false := by
            rw [List.length_append]
            exact stays
          have walked := ih inner.2 (below ++ [text]) deeper
          rwa [← List.append_assoc] at walked
      | parent =>
          obtain rfl | ⟨below, last, rfl⟩ := below.eq_nil_or_concat
          · cases stays
          · rw [List.concat_eq_append] at stays ⊢
            rw [List.length_append] at stays
            have walked := ih inner.2 below stays
            rwa [List.foldl_cons, stepTo, ← List.append_assoc, List.dropLast_concat]

/-! ## Walks -/

/-- No entry of the tree is a link. -/
def IsLinkless (tree : FileTree) : Prop :=
  ∀ entry ∈ tree.entries, entry.2.isLink = false

instance (tree : FileTree) : Decidable tree.IsLinkless :=
  inferInstanceAs (Decidable (∀ entry ∈ tree.entries, entry.2.isLink = false))

/-- The place that a path asks for, when its steps are taken one after the other. -/
def destination (tree : FileTree) (path : Path) : Place :=
  path.components.foldl stepTo tree.workdir

variable {tree : FileTree}

theorem IsLinkless.lookup?_ne_link (linkless : tree.IsLinkless) (place : Place) (target : String) :
    tree.lookup? place ≠ some (.link target) := by
  intro isLink
  rw [lookup?] at isLink
  split at isLink
  · cases isLink
  · obtain ⟨front, back, split, -⟩ := List.lookup_eq_some_iff.mp isLink
    have member : (.place place, Entry.link target) ∈ tree.entries := by simp [split]
    cases linkless _ member

theorem destination_eq (path : Path) :
    tree.destination path = path.innerSteps.foldl stepTo (origin tree.workdir path) := by
  rw [destination, components_eq, List.foldl_append, origin]
  cases anchor : path.parts.anchor with
  | root => rw [if_pos ((isAbsolute_iff path).mpr anchor)]; rfl
  | free | here =>
      have relative : ¬ path.isAbsolute = true := by simp [isAbsolute_iff, anchor]
      rw [if_neg relative]
      rfl

/-- A relative path that is joined to a directory is walked from there. -/
theorem destination_join {path : Path} (relative : path.isAbsolute = false) (directory : Path) :
    tree.destination (directory.join path) =
      path.innerSteps.foldl stepTo (tree.destination directory) := by
  cases empty : directory.isEmpty with
  | true =>
      have nothing : directory = ⟨""⟩ := congrArg Path.mk (String.isEmpty_iff.mp empty)
      have joined : directory.join path = path := by
        rw [nothing, join, if_neg (by simp [relative]), if_pos (by rfl), String.empty_append]
      have here : tree.destination directory = tree.workdir := by
        rw [nothing]
        rfl
      rw [joined, here, destination_eq, origin, if_neg (by simp [relative])]
  | false =>
      rw [destination, components_join empty relative, List.foldl_append, ← innerSteps_eq]
      rfl

variable (fits : Place → Bool) (followLast : Bool)

/-- A walk that gets through without a link ends where its steps lead. -/
theorem IsLinkless.eq_of_walkPieces (linkless : tree.IsLinkless)
    {follow : Place → Path → List String → Except FileError Place} {pieces : List String}
    {here place : Place}
    (reached : walkPieces tree fits followLast follow here pieces = .ok place) :
    place = (pieces.filterMap Component.ofPiece?).foldl stepTo here := by
  induction pieces generalizing here with
  | nil =>
      cases reached
      rfl
  | cons piece rest ih =>
      cases getsPast_of_walkPieces tree fits followLast reached with
      | silent quiet reached =>
          rw [List.filterMap_cons_none quiet]
          exact ih reached
      | parent up reached =>
          rw [List.filterMap_cons_some up]
          exact ih reached
      | directory down _ reached =>
          rw [List.filterMap_cons_some down]
          exact ih reached
      | file down _ last arrived =>
          rw [List.filterMap_cons_some down, last, arrived]
          rfl
      | lastLink _ isLink | link _ isLink => exact absurd isLink (linkless.lookup?_ne_link _ _)

theorem IsLinkless.eq_of_walkWithin (linkless : tree.IsLinkless) {links : Nat}
    {pieces : List String} {here place : Place}
    (reached : walkWithin tree fits followLast links here pieces = .ok place) :
    place = (pieces.filterMap Component.ofPiece?).foldl stepTo here := by
  cases links with
  | zero | succ => exact linkless.eq_of_walkPieces fits followLast reached

/-- A canonical path is the path to where the steps lead. -/
theorem IsLinkless.eq_of_canonical? (linkless : tree.IsLinkless) {path canonical : Path}
    (found : tree.canonical? path = some canonical) :
    canonical = pathTo (tree.destination path) := by
  obtain ⟨place, reached, isCanonical⟩ := exists_place_of_canonical? tree found
  rw [isCanonical, destination_eq, innerSteps_eq,
    linkless.eq_of_walkWithin isNameable true reached]

/-- Inner steps lead from proper names to proper names. -/
theorem isNamed_foldl_stepTo {here : Place} (named : IsNamed here) {steps : List Component}
    (inner : ∀ step ∈ steps, step.IsInner) : IsNamed (steps.foldl stepTo here) := by
  induction steps generalizing here with
  | nil => exact named
  | cons step rest ih =>
      rw [List.forall_mem_cons] at inner
      apply ih _ inner.2
      cases step with
      | root | current => exact inner.1.elim
      | parent => exact named.dropLast
      | name text => exact named.concat inner.1

/-- Steps that were read from a text lead from proper names to proper names. -/
theorem isNamed_destination (named : IsNamed tree.workdir) (path : Path) :
    IsNamed (tree.destination path) := by
  rw [destination_eq]
  exact isNamed_foldl_stepTo (isNamed_origin named path) path.isInner_of_mem_innerSteps

/-- The path to a place steps from the root along the names. -/
theorem components_pathTo {place : Place} (named : IsNamed place) :
    (pathTo place).components = .root :: place.map .name := by
  apply components_ofComponents
  refine ⟨.root, place.map .name, rfl, ?_⟩
  intro step member
  obtain ⟨name, isName, rfl⟩ := List.mem_map.mp member
  exact named name isName

end FileTree

end Frontend
