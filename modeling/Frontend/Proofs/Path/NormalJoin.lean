import Frontend.Proofs.Path.Extension
import Frontend.Proofs.Path.NormalForm

/-!
# Normal forms and joining

A relative path changes the trail that it is met with, and its normal form changes every trail in the
same way: what the normal form has cancelled, the walk takes back. So it makes no difference whether
paths are brought into normal form before they are joined or after.
-/

namespace Frontend.Path

/-! ## Walking the normal form -/

theorem root_notMem_stepFrom {trail : List Component} {step : Component}
    (rootless : .root ∉ trail) (inner : step ≠ .root) : .root ∉ stepFrom trail step := by
  intro member
  rcases @mem_of_mem_foldl_stepFrom [step] trail .root member with old | new
  · exact rootless old
  · exact inner (List.mem_singleton.mp new).symm

/-- A step that is taken at the end of a trail can as well be taken after the whole trail was walked.
Where it cancels a name, that name was walked last. -/
theorem foldl_reverse_stepFrom {trail : List Component} {step : Component}
    (rootless : .root ∉ trail) (inner : step ≠ .root) (start : List Component) :
    (stepFrom trail step).reverse.foldl stepFrom start =
      stepFrom (trail.reverse.foldl stepFrom start) step := by
  cases step with
  | root => exact absurd rfl inner
  | current => rfl
  | name text => rw [stepFrom, List.reverse_cons, List.foldl_concat]
  | parent =>
      cases trail with
      | nil => rfl
      | cons last before =>
          cases last with
          | root => exact absurd List.mem_cons_self rootless
          | name text =>
              rw [List.reverse_cons, List.foldl_concat]
              rfl
          | current | parent =>
              rw [stepFrom, List.reverse_cons, List.foldl_concat]
              · intro name rest equal
                cases equal
              · intro rest equal
                cases equal

theorem foldl_reverse_foldl_stepFrom {steps trail : List Component} (rootless : .root ∉ trail)
    (inner : .root ∉ steps) (start : List Component) :
    (steps.foldl stepFrom trail).reverse.foldl stepFrom start =
      steps.foldl stepFrom (trail.reverse.foldl stepFrom start) := by
  induction steps generalizing trail with
  | nil => rfl
  | cons step rest ih =>
      rw [List.mem_cons, not_or] at inner
      have here : step ≠ .root := Ne.symm inner.1
      rw [List.foldl_cons, List.foldl_cons, ih (root_notMem_stepFrom rootless here) inner.2,
        foldl_reverse_stepFrom rootless here]

/-- From every trail, the normal form of steps without a root leads where the steps themselves do. -/
theorem foldl_stepFrom_normalSteps {steps : List Component} (inner : .root ∉ steps)
    (start : List Component) :
    (normalSteps steps).foldl stepFrom start = steps.foldl stepFrom start :=
  foldl_reverse_foldl_stepFrom List.not_mem_nil inner start

/-- From the start, the normal form of any steps does. -/
theorem foldl_stepFrom_normalSteps_nil (steps : List Component) :
    (normalSteps steps).foldl stepFrom [] = steps.foldl stepFrom [] :=
  List.reverse_injective (isNormal_normalSteps steps).normalSteps_eq

/-! ## Absolute and relative paths -/

theorem root_mem_components_iff {path : Path} :
    .root ∈ path.components ↔ path.isAbsolute = true := by
  have inner : .root ∉ path.innerSteps := fun member => path.isInner_of_mem_innerSteps _ member
  rw [isAbsolute_iff, components_eq, List.mem_append]
  cases path.parts.anchor <;> simp [Anchor.components, inner]

/-- A root that was passed stays below all later steps. -/
theorem root_mem_foldl_stepFrom {steps trail : List Component} (rooted : .root ∈ trail) :
    .root ∈ steps.foldl stepFrom trail := by
  induction steps generalizing trail with
  | nil => exact rooted
  | cons step rest ih =>
      apply ih
      fun_cases stepFrom trail step <;> simp_all

theorem root_mem_normalSteps_iff (path : Path) :
    .root ∈ normalSteps path.components ↔ .root ∈ path.components := by
  constructor
  · exact mem_of_mem_normalSteps
  · intro rooted
    have anchor := (isAbsolute_iff path).mp (root_mem_components_iff.mp rooted)
    rw [normalSteps, List.mem_reverse, components_eq, anchor, List.foldl_append]
    exact @root_mem_foldl_stepFrom _ [.root] List.mem_cons_self

theorem isAbsolute_normal (path : Path) : path.normal.isAbsolute = path.isAbsolute := by
  rw [Bool.eq_iff_iff, ← root_mem_components_iff, ← root_mem_components_iff, components_normal,
    root_mem_normalSteps_iff]

/-- Names follow the root in the normal form of an absolute path, and steps to parents in that of a
relative one. -/
theorem exists_components_normal_eq (path : Path) :
    ∃ (count : Nat) (names : List String), path.normal.components =
      (if path.isAbsolute then [.root] else List.replicate count .parent) ++ names.map .name := by
  obtain ⟨start, names, isStart, shape⟩ := path.isNormal_components_normal
  have absolute := (@root_mem_components_iff path.normal).trans
    (by rw [isAbsolute_normal])
  rw [shape] at absolute
  cases isStart with
  | root =>
      refine ⟨0, names, ?_⟩
      rw [if_pos (absolute.mp List.mem_cons_self), shape]
  | parents count =>
      have relative : ¬ path.isAbsolute = true := by
        rw [← absolute]
        simp [List.mem_replicate]
      exact ⟨count, names, by rw [if_neg relative, shape]⟩

theorem current_notMem_components_normal (path : Path) : .current ∉ path.normal.components := by
  obtain ⟨count, names, shape⟩ := path.exists_components_normal_eq
  rw [shape]
  split <;> simp [List.mem_replicate]

/-! ## Joined paths -/

/-- A relative path is walked by its inner steps; a dot in front leads nowhere. -/
theorem foldl_stepFrom_components {path : Path} (relative : path.isAbsolute = false)
    (trail : List Component) :
    path.components.foldl stepFrom trail = path.innerSteps.foldl stepFrom trail := by
  rw [components_eq, List.foldl_append]
  cases anchor : path.parts.anchor with
  | free | here => rfl
  | root => simp [(isAbsolute_iff path).mpr anchor] at relative

/-- A relative path that is joined to a directory is walked after it. -/
theorem foldl_stepFrom_join {path : Path} (relative : path.isAbsolute = false) (base : Path) :
    (base.join path).components.foldl stepFrom [] =
      path.components.foldl stepFrom (base.components.foldl stepFrom []) := by
  cases empty : base.isEmpty with
  | true =>
      have nothing : base = ⟨""⟩ := congrArg Path.mk (String.isEmpty_iff.mp empty)
      rw [nothing, join, if_neg (by simp [relative]), if_pos (by rfl), String.empty_append]
      rfl
  | false =>
      rw [components_join empty relative, List.foldl_append, ← innerSteps_eq,
        foldl_stepFrom_components relative]

theorem join_of_isAbsolute {path : Path} (absolute : path.isAbsolute = true) (base : Path) :
    base.join path = path :=
  if_pos absolute

/-- Two paths can be brought into normal form before they are joined. -/
theorem normal_join (base path : Path) :
    (base.join path).normal = (base.normal.join path.normal).normal := by
  have still := path.isAbsolute_normal
  cases absolute : path.isAbsolute with
  | true =>
      rw [absolute] at still
      rw [join_of_isAbsolute absolute, join_of_isAbsolute still, normal_normal]
  | false =>
      rw [absolute] at still
      have rootless : .root ∉ path.components := by
        simp [root_mem_components_iff, absolute]
      have walked : (base.join path).components.foldl stepFrom [] =
          (base.normal.join path.normal).components.foldl stepFrom [] := by
        rw [foldl_stepFrom_join absolute, foldl_stepFrom_join still, components_normal,
          components_normal, foldl_stepFrom_normalSteps_nil, foldl_stepFrom_normalSteps rootless]
      rw [normal, normal, normalSteps, normalSteps, walked]

/-- Joining the empty path adds a slash at the end, or nothing where there is one. -/
theorem text_join_empty (base : Path) :
    (base.join ⟨""⟩).text = base.text ∨ (base.join ⟨""⟩).text = base.text ++ "/" := by
  rw [join, if_neg (by decide)]
  split
  · exact Or.inl String.append_empty
  · exact Or.inr String.append_empty

theorem components_join_empty (base : Path) : (base.join ⟨""⟩).components = base.components := by
  cases empty : base.isEmpty with
  | true =>
      have nothing : base = ⟨""⟩ := congrArg Path.mk (String.isEmpty_iff.mp empty)
      rw [nothing]
      rfl
  | false =>
      rw [components_join empty rfl]
      exact List.append_nil _

/-- The normal form of a path is absolute if the path is. It holds no dots, and steps to parents only
in front and only where the path is relative. It is its own normal form, and it can take the place of
the path wherever paths are joined: an absolute path stands for itself there, and the empty one adds
nothing but a slash. -/
theorem normal_forms_are_canonical (path base : Path) :
    path.normal.isAbsolute = path.isAbsolute ∧
      .current ∉ path.normal.components ∧
      (∃ (count : Nat) (names : List String), path.normal.components =
        (if path.isAbsolute then [.root] else List.replicate count .parent) ++ names.map .name) ∧
      path.normal.normal = path.normal ∧
      (base.join path).normal = (base.normal.join path.normal).normal ∧
      (path.isAbsolute = true → base.join path = path) ∧
      ((base.join ⟨""⟩).text = base.text ∨ (base.join ⟨""⟩).text = base.text ++ "/") ∧
      (base.join ⟨""⟩).components = base.components := by
  refine ⟨path.isAbsolute_normal, path.current_notMem_components_normal,
    path.exists_components_normal_eq, path.normal_normal, normal_join base path, ?_,
    base.text_join_empty, base.components_join_empty⟩
  intro absolute
  exact join_of_isAbsolute absolute base

end Frontend.Path
