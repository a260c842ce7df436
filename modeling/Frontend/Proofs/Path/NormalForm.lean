import Frontend.Path.Normal
import Frontend.Proofs.Path.Steps

/-!
# The normal form of a path

Walking along the steps of a path keeps a trail that is in normal form at every moment: names, after
the root or after steps to parents that had no name to cancel. A path in normal form walks straight
along its own steps, so that taking the normal form again changes nothing.
-/

namespace Frontend.Path

/-! ## Steps in normal form -/

/-- What steps in normal form start with: the root, or the parents that are left at the front. -/
inductive IsStart : List Component → Prop where
  | root : IsStart [.root]
  | parents (count : Nat) : IsStart (List.replicate count .parent)

/-- The steps are in normal form: names follow a start. -/
def IsNormal (steps : List Component) : Prop :=
  ∃ (start : List Component) (names : List String),
    IsStart start ∧ steps = start ++ names.map .name

theorem IsStart.reverse_eq {start : List Component} (isStart : IsStart start) :
    start.reverse = start := by
  cases isStart with
  | root => rfl
  | parents count => exact List.reverse_replicate

/-- A start is extended by a step to a parent only where that leads somewhere. -/
theorem IsStart.stepFrom_parent {start : List Component} (isStart : IsStart start) :
    IsStart (stepFrom start .parent) := by
  cases isStart with
  | root => exact .root
  | parents count =>
      cases count with
      | zero => exact .parents 1
      | succ count => exact .parents (count + 2)

/-- Each step leads from a trail in normal form to another one. -/
theorem IsNormal.stepFrom {trail : List Component} (normal : IsNormal trail.reverse)
    (step : Component) : IsNormal (stepFrom trail step).reverse := by
  obtain ⟨start, names, isStart, shape⟩ := normal
  rw [List.reverse_eq_iff, List.reverse_append, isStart.reverse_eq, ← List.map_reverse] at shape
  subst shape
  cases step with
  | root => exact ⟨[.root], [], .root, rfl⟩
  | current => exact ⟨start, names, isStart, by simp [Path.stepFrom, isStart.reverse_eq]⟩
  | name text =>
      exact ⟨start, names ++ [text], isStart, by simp [Path.stepFrom, isStart.reverse_eq]⟩
  | parent =>
      obtain rfl | ⟨init, last, rfl⟩ := names.eq_nil_or_concat
      · refine ⟨Path.stepFrom start .parent, [], isStart.stepFrom_parent, ?_⟩
        simp [isStart.stepFrom_parent.reverse_eq]
      · exact ⟨start, init, isStart, by simp [Path.stepFrom, isStart.reverse_eq]⟩

theorem isNormal_foldl_stepFrom (steps : List Component) {trail : List Component}
    (normal : IsNormal trail.reverse) : IsNormal (steps.foldl stepFrom trail).reverse := by
  induction steps generalizing trail with
  | nil => exact normal
  | cons step rest ih => exact ih (normal.stepFrom step)

theorem isNormal_normalSteps (steps : List Component) : IsNormal (normalSteps steps) :=
  isNormal_foldl_stepFrom steps ⟨[], [], .parents 0, rfl⟩

/-! ## Nothing changes a second time -/

theorem foldl_stepFrom_parents (count : Nat) :
    (List.replicate count Component.parent).foldl stepFrom [] = List.replicate count .parent := by
  induction count with
  | zero => rfl
  | succ count ih =>
      have walked : (List.replicate (count + 1) Component.parent).foldl stepFrom [] =
          stepFrom (List.replicate count .parent) .parent := by
        rw [List.replicate_succ', List.foldl_append, ih]
        rfl
      rw [walked]
      cases count <;> rfl

theorem foldl_stepFrom_names (names : List String) (trail : List Component) :
    (names.map Component.name).foldl stepFrom trail = (names.map .name).reverse ++ trail := by
  induction names generalizing trail with
  | nil => rfl
  | cons name rest ih =>
      rw [List.map_cons, List.foldl_cons, ih]
      simp [stepFrom]

theorem IsNormal.normalSteps_eq {steps : List Component} (normal : IsNormal steps) :
    normalSteps steps = steps := by
  obtain ⟨start, names, isStart, rfl⟩ := normal
  have walked : start.foldl Path.stepFrom [] = start := by
    cases isStart with
    | root => rfl
    | parents count => exact foldl_stepFrom_parents count
  rw [normalSteps, List.foldl_append, walked, foldl_stepFrom_names, List.reverse_append,
    List.reverse_reverse, isStart.reverse_eq]

/-! ## Paths -/

/-- The normal form has no steps that the path has not. -/
theorem mem_of_mem_foldl_stepFrom {steps trail : List Component} {step : Component}
    (member : step ∈ steps.foldl stepFrom trail) : step ∈ trail ∨ step ∈ steps := by
  induction steps generalizing trail with
  | nil => exact Or.inl member
  | cons first rest ih =>
      rcases ih member with walked | later
      · have kept : step ∈ trail ∨ step = first := by
          revert walked
          fun_cases stepFrom trail first <;> simp +contextual [or_imp]
        rcases kept with old | rfl
        · exact Or.inl old
        · exact Or.inr List.mem_cons_self
      · exact Or.inr (List.mem_cons_of_mem first later)

theorem mem_of_mem_normalSteps {steps : List Component} {step : Component}
    (member : step ∈ normalSteps steps) : step ∈ steps := by
  rcases mem_of_mem_foldl_stepFrom (List.mem_reverse.mp member) with none | walked
  · cases none
  · exact walked

theorem Writable.isName {steps : List Component} (writable : Writable steps) {text : String}
    (member : .name text ∈ steps) : IsName text := by
  obtain ⟨anchor, inner, rfl, isInner⟩ := writable
  rcases List.mem_append.mp member with start | inside
  · cases anchor <;> simp [Anchor.components] at start
  · exact isInner _ inside

theorem Writable.normalSteps {steps : List Component} (writable : Writable steps) :
    Writable (normalSteps steps) := by
  obtain ⟨start, names, isStart, shape⟩ := isNormal_normalSteps steps
  have isName : ∀ name ∈ names, IsName name := by
    intro name member
    apply writable.isName
    apply mem_of_mem_normalSteps
    rw [shape]
    exact List.mem_append_right start (List.mem_map_of_mem member)
  rw [shape]
  cases isStart with
  | root =>
      refine ⟨.root, names.map .name, rfl, ?_⟩
      simpa [Component.IsInner] using isName
  | parents count =>
      refine ⟨.free, List.replicate count .parent ++ names.map .name, rfl, ?_⟩
      intro step member
      rcases List.mem_append.mp member with up | named
      · rw [List.eq_of_mem_replicate up]
        trivial
      · obtain ⟨name, isOne, rfl⟩ := List.mem_map.mp named
        exact isName name isOne

@[simp]
theorem components_normal (path : Path) :
    path.normal.components = normalSteps path.components :=
  components_ofComponents path.writable_components.normalSteps

/-- The steps of the normal form are in normal form. -/
theorem isNormal_components_normal (path : Path) : IsNormal path.normal.components := by
  rw [components_normal]
  exact isNormal_normalSteps path.components

/-- The normal form of the normal form is the same text. -/
@[simp]
theorem normal_normal (path : Path) : path.normal.normal = path.normal := by
  rw [normal, components_normal, (isNormal_normalSteps path.components).normalSteps_eq]
  rfl

/-- Normal forms with the same steps are the same text. -/
theorem normal_eq_iff {first second : Path} :
    first.normal = second.normal ↔ first.normal.components = second.normal.components := by
  constructor
  · intro equal
    rw [equal]
  · intro equal
    rw [components_normal, components_normal] at equal
    rw [normal, normal, equal]

end Frontend.Path
