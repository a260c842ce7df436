import Frontend.Import.Use
import Frontend.Proofs.Import.Candidate

/-!
# The order of the lazily used paths

The order of the lazily used paths is an account of the past: first those that have led to a file,
the one that did so last in front, then the others as they were added. Beside a run its history is
kept, the hits and the additions, and each use extends the history in the way in which it changes
the order.
-/

namespace Frontend.Recency

universe u

variable {α : Type u} [DecidableEq α]

/-- Dropping repetitions and dropping some of the elements can change places. The recursion is on
the elements other than the first one. -/
theorem eraseDups_filter (keep : α → Bool) (list : List α) :
    (list.filter keep).eraseDups = list.eraseDups.filter keep := by
  match list with
  | [] => rfl
  | first :: rest =>
      have shorter : (rest.filter fun other => !other == first).length ≤ rest.length :=
        List.length_filter_le _ _
      have others := eraseDups_filter keep (rest.filter fun other => !other == first)
      rw [List.filter_filter] at others
      cases kept : keep first with
      | true =>
          rw [List.filter_cons_of_pos kept, List.eraseDups_cons, List.eraseDups_cons,
            List.filter_cons_of_pos kept, ← others, List.filter_filter]
          simp only [Bool.and_comm]
      | false =>
          have dropped : ¬keep first = true := Bool.eq_false_iff.mp kept
          rw [List.filter_cons_of_neg dropped, List.eraseDups_cons,
            List.filter_cons_of_neg dropped, ← others]
          congr 1
          apply List.filter_congr
          intro other _
          by_cases same : other = first
          · simp [same, kept]
          · simp [same]
termination_by list.length

/-- The first element, and then the others without it. -/
theorem eraseDups_cons_eq_filter (first : α) (rest : List α) :
    (first :: rest).eraseDups = first :: rest.eraseDups.filter (· != first) := by
  rw [List.eraseDups_cons, eraseDups_filter]
  rfl

theorem nodup_eraseDups (list : List α) : list.eraseDups.Nodup := by
  induction list with
  | nil => simp
  | cons first rest ih =>
      rw [eraseDups_cons_eq_filter, List.nodup_cons]
      exact ⟨by simp, ih.filter _⟩

end Frontend.Recency

namespace Frontend.Resolver

/-! ## What a use has to do with the lazily used paths -/

/-- The lazily used path below which a candidate lies. -/
def Origin.lazyPath? : Origin → Option Path
  | .lazyPath directory => some directory
  | .absolute | .neighbour | .library _ | .searchPath _ => none

/-- The name that a use searches for, an import without its mark. -/
def Use.name? : Use → Option String
  | .search name _ => some name
  | .resolve specifier _ _ =>
      some (((afterMark? packageMark specifier).or (afterMark? stdlibMark specifier)).getD specifier)
  | .setLibrary _ | .setProject _ | .addSearchPath _ | .addLazyPath _ | .overrideModule _ _ _
  | .descriptorOf _ | .packageOf _ | .packageDirectoryOf _ | .importName _ => none

/-- The candidates that a use tries. -/
def Use.candidates (use : Use) (resolver : Resolver) : List Candidate :=
  match use with
  | .search name outsideLibrary => resolver.searchCandidates name outsideLibrary
  | .resolve specifier importer outsideLibrary =>
      resolver.importCandidates specifier importer outsideLibrary
  | .setLibrary _ | .setProject _ | .addSearchPath _ | .addLazyPath _ | .overrideModule _ _ _
  | .descriptorOf _ | .packageOf _ | .packageDirectoryOf _ | .importName _ => []

/-- The lazily used path that leads a use to its file, if one does. -/
def Use.hit? (use : Use) (resolver : Resolver) (tree : FileTree) : Option Path :=
  (firstFile? tree (use.candidates resolver)).bind (·.origin.lazyPath?)

/-- The lazily used path that a use asks to be added. -/
def Use.addition? (use : Use) (tree : FileTree) : Option Path :=
  match use with
  | .addLazyPath path => some (tree.canonicalOr path)
  | .setLibrary _ | .setProject _ | .addSearchPath _ | .overrideModule _ _ _ | .search _ _
  | .resolve _ _ _ | .descriptorOf _ | .packageOf _ | .packageDirectoryOf _ | .importName _ => none

/-- The order with a path moved to the front, if there is one. -/
def touch (paths : List Path) : Option Path → List Path
  | some directory => directory :: paths.erase directory
  | none => paths

section

variable (resolver : Resolver) (tree : FileTree)

theorem lazyPaths_afterHit (origin : Origin) :
    (resolver.afterHit origin).lazyPaths = touch resolver.lazyPaths origin.lazyPath? := by
  cases origin <;> rfl

theorem lazyPaths_takeFirst (candidates : List Candidate) :
    (resolver.takeFirst tree candidates).2.lazyPaths =
      touch resolver.lazyPaths ((firstFile? tree candidates).bind (·.origin.lazyPath?)) := by
  unfold takeFirst
  cases firstFile? tree candidates with
  | none => rfl
  | some candidate => exact resolver.lazyPaths_afterHit candidate.origin

/-- An import changes the order as its search does, whatever the overrides. -/
theorem lazyPaths_resolve (specifier : String) (importer : Path) (outsideLibrary : Bool) :
    (resolver.resolve tree specifier importer outsideLibrary).2.lazyPaths =
      (resolver.takeFirst tree
        (resolver.importCandidates specifier importer outsideLibrary)).2.lazyPaths := by
  cases first : firstFile? tree
      (resolver.importCandidates specifier importer outsideLibrary) with
  | none => rw [resolver.resolve_of_firstFile?_eq_none tree first, takeFirst, first]
  | some candidate =>
      obtain ⟨known, after⟩ := (resolver.afterHit candidate.origin).replaceOverridden_snd tree
        (tree.canonicalOr candidate.file)
      rw [resolver.resolve_of_firstFile?_eq_some tree first, takeFirst, first, after]

theorem lazyPaths_descriptorOf (path : Path) :
    (resolver.descriptorOf tree path).2.lazyPaths = resolver.lazyPaths := by
  obtain ⟨known, after⟩ := resolver.descriptorOf_snd tree path
  rw [after]

theorem lazyPaths_packageOf (path : Path) :
    (resolver.packageOf tree path).2.lazyPaths = resolver.lazyPaths := by
  obtain ⟨known, after⟩ := resolver.packageOf_snd tree path
  rw [after]

/-- A use adds a path at the end, moves one to the front, or leaves the order alone. -/
theorem lazyPaths_perform (use : Use) :
    (resolver.perform tree use).lazyPaths =
      match use.addition? tree with
      | some path => addNew resolver.lazyPaths path
      | none => touch resolver.lazyPaths (use.hit? resolver tree) := by
  cases use with
  | addLazyPath | setLibrary | setProject | addSearchPath | overrideModule => rfl
  | search name outsideLibrary =>
      rw [perform, search_eq_takeFirst, lazyPaths_takeFirst]
      rfl
  | resolve specifier importer outsideLibrary =>
      rw [perform, lazyPaths_resolve, lazyPaths_takeFirst]
      rfl
  | descriptorOf path | packageDirectoryOf path | importName path =>
      exact resolver.lazyPaths_descriptorOf tree path
  | packageOf path => exact resolver.lazyPaths_packageOf tree path

end

/-! ## Which uses hit -/

section

variable {resolver : Resolver} {tree : FileTree}

/-- Only lazily used paths are searched as such. -/
theorem mem_lazyPaths_of_mem_searchCandidates {name : String} {outsideLibrary : Bool}
    {candidate : Candidate} (member : candidate ∈ resolver.searchCandidates name outsideLibrary)
    {directory : Path} (isLazy : candidate.origin.lazyPath? = some directory) :
    directory ∈ resolver.lazyPaths := by
  unfold searchCandidates at member
  by_cases absolute : (resolver.fileFor name).isAbsolute = true
  · simp only [if_pos absolute, List.mem_singleton] at member
    subst member
    cases isLazy
  · simp only [if_neg absolute, List.mem_append, searchPathCandidates, lazyPathCandidates,
      List.mem_map] at member
    rcases member with ((⟨other, -, rfl⟩ | ⟨other, -, rfl⟩) | ⟨other, there, rfl⟩) |
      ⟨other, there, rfl⟩
    · cases isLazy
    · cases isLazy
    · cases isLazy
      exact there
    · cases isLazy
      exact there

theorem lazyPath?_of_mem_libraryCandidates {name : String} {candidate : Candidate}
    (member : candidate ∈ resolver.libraryCandidates name) : candidate.origin.lazyPath? = none := by
  unfold libraryCandidates at member
  by_cases unset : resolver.library.isEmpty = true
  · simp [unset] at member
  · rw [if_neg unset] at member
    obtain ⟨directory, -, rfl⟩ := List.mem_map.mp member
    rfl

theorem mem_lazyPaths_of_mem_importCandidates {specifier : String} {importer : Path}
    {outsideLibrary : Bool} {candidate : Candidate}
    (member : candidate ∈ resolver.importCandidates specifier importer outsideLibrary)
    {directory : Path} (isLazy : candidate.origin.lazyPath? = some directory) :
    directory ∈ resolver.lazyPaths := by
  unfold importCandidates at member
  cases package : afterMark? packageMark specifier with
  | some name =>
      rw [package] at member
      exact mem_lazyPaths_of_mem_searchCandidates member isLazy
  | none =>
      rw [package] at member
      cases library : afterMark? stdlibMark specifier with
      | some name =>
          rw [library] at member
          rw [lazyPath?_of_mem_libraryCandidates member] at isLazy
          cases isLazy
      | none =>
          rw [library] at member
          rcases List.mem_cons.mp member with rfl | member
          · cases isLazy
          · exact mem_lazyPaths_of_mem_searchCandidates member isLazy

/-- A use can only hit a path that is there. -/
theorem mem_lazyPaths_of_hit? {use : Use} {directory : Path}
    (hit : use.hit? resolver tree = some directory) : directory ∈ resolver.lazyPaths := by
  obtain ⟨candidate, first, isLazy⟩ := Option.bind_eq_some_iff.mp hit
  have member := List.mem_of_find?_eq_some first
  cases use with
  | search name outsideLibrary => exact mem_lazyPaths_of_mem_searchCandidates member isLazy
  | resolve specifier importer outsideLibrary =>
      exact mem_lazyPaths_of_mem_importCandidates member isLazy
  | setLibrary | setProject | addSearchPath | addLazyPath | overrideModule | descriptorOf
  | packageOf | packageDirectoryOf | importName => cases member

/-- A use all of whose candidates lie elsewhere hits no lazily used path. -/
theorem hit?_eq_none_of_candidates {use : Use}
    (elsewhere : ∀ candidate ∈ use.candidates resolver, candidate.origin.lazyPath? = none) :
    use.hit? resolver tree = none := by
  rw [Use.hit?]
  cases first : firstFile? tree (use.candidates resolver) with
  | none => rfl
  | some candidate => exact elsewhere candidate (List.mem_of_find?_eq_some first)

/-- A name of the standard library leads to no lazily used path. -/
theorem hit?_stdlib (name : String) (importer : Path) (outsideLibrary : Bool) :
    (Use.resolve (stdlibMark ++ name) importer outsideLibrary).hit? resolver tree = none := by
  apply hit?_eq_none_of_candidates
  intro candidate member
  rw [Use.candidates, importCandidates_stdlib] at member
  exact lazyPath?_of_mem_libraryCandidates member

theorem lazyPath?_of_mem_searchCandidates {name : String} {outsideLibrary : Bool}
    (absolute : (resolver.fileFor name).isAbsolute = true) {candidate : Candidate}
    (member : candidate ∈ resolver.searchCandidates name outsideLibrary) :
    candidate.origin.lazyPath? = none := by
  simp only [searchCandidates, if_pos absolute, List.mem_singleton] at member
  subst member
  rfl

/-- Neither does an absolute name, be it searched for or imported in any of the three forms. -/
theorem hit?_absolute {use : Use} {name : String} (named : use.name? = some name)
    (absolute : (resolver.fileFor name).isAbsolute = true) : use.hit? resolver tree = none := by
  apply hit?_eq_none_of_candidates
  intro candidate member
  cases use with
  | search searched outsideLibrary =>
      obtain rfl : searched = name := Option.some.inj named
      exact lazyPath?_of_mem_searchCandidates absolute member
  | resolve specifier importer outsideLibrary =>
      rw [Use.candidates, importCandidates] at member
      rw [Use.name?] at named
      cases package : afterMark? packageMark specifier with
      | some searched =>
          rw [package] at member named
          obtain rfl : searched = name := Option.some.inj named
          exact lazyPath?_of_mem_searchCandidates absolute member
      | none =>
          cases library : afterMark? stdlibMark specifier with
          | some searched =>
              rw [package, library] at member
              exact lazyPath?_of_mem_libraryCandidates member
          | none =>
              rw [package, library] at member named
              obtain rfl : specifier = name := Option.some.inj named
              rcases List.mem_cons.mp member with rfl | member
              · rfl
              · exact lazyPath?_of_mem_searchCandidates absolute member
  | setLibrary | setProject | addSearchPath | addLazyPath | overrideModule | descriptorOf
  | packageOf | packageDirectoryOf | importName => cases member

end

/-! ## The history of a run -/

/-- What has happened to the lazily used paths: the hits, the last one first, and the paths that were
added, in order and each in its first spelling. -/
structure History where
  hits : List Path
  added : List Path

namespace History

/-- Nothing has happened. -/
def empty : History :=
  ⟨[], []⟩

/-- Takes note of a use. -/
def record (history : History) (resolver : Resolver) (tree : FileTree) (use : Use) : History :=
  match use.addition? tree with
  | some path => { history with added := addNew history.added path }
  | none => { history with hits := (use.hit? resolver tree).toList ++ history.hits }

/-- Takes note of all uses of a run. -/
def recordAll (history : History) (resolver : Resolver) : List (FileTree × Use) → History
  | [] => history
  | (tree, use) :: uses =>
      (history.record resolver tree use).recordAll (resolver.perform tree use) uses

/-- Each path that was hit, by its last hit, and then the paths that never were. -/
def order (history : History) : List Path :=
  history.hits.eraseDups ++ history.added.filter (· ∉ history.hits)

/-- Only what was added is hit, and no path was added in two spellings. -/
structure Coherent (history : History) : Prop where
  hits_subset : history.hits ⊆ history.added
  nodup : history.added.Nodup
  eq_of_same : ∀ first ∈ history.added, ∀ second ∈ history.added,
    first.same second = true → first = second

variable {history : History}

theorem coherent_empty : empty.Coherent where
  hits_subset := List.Subset.refl []
  nodup := List.nodup_nil
  eq_of_same := by
    intro first member
    cases member

theorem Coherent.mem_order (coherent : history.Coherent) {path : Path} :
    path ∈ history.order ↔ path ∈ history.added := by
  simp only [order, List.mem_append, List.mem_eraseDups, List.mem_filter, decide_eq_true_eq]
  constructor
  · rintro (hit | ⟨added, -⟩)
    · exact coherent.hits_subset hit
    · exact added
  · intro added
    by_cases hit : path ∈ history.hits
    · exact Or.inl hit
    · exact Or.inr ⟨added, hit⟩

theorem Coherent.nodup_order (coherent : history.Coherent) : history.order.Nodup := by
  rw [order, List.nodup_append]
  refine ⟨Recency.nodup_eraseDups history.hits, coherent.nodup.filter _, ?_⟩
  rintro hit isHit other isOther rfl
  have unhit := (List.mem_filter.mp isOther).2
  exact absurd (List.mem_eraseDups.mp isHit) (of_decide_eq_true unhit)

/-- No two paths in the order are spellings of one path. -/
theorem Coherent.pairwise_order (coherent : history.Coherent) :
    history.order.Pairwise fun first second => first.same second = false := by
  apply List.Pairwise.imp_of_mem _ coherent.nodup_order
  intro first second isFirst isSecond different
  rw [Bool.eq_false_iff]
  intro same
  exact different (coherent.eq_of_same first (coherent.mem_order.mp isFirst) second
    (coherent.mem_order.mp isSecond) same)

/-- A hit takes the path out of the places that it held and puts it in front. -/
theorem Coherent.order_hit (coherent : history.Coherent) (directory : Path) :
    History.order { history with hits := directory :: history.hits } =
      directory :: history.order.erase directory := by
  rw [coherent.nodup_order.erase_eq_filter]
  simp only [order, Recency.eraseDups_cons_eq_filter, List.filter_append, List.filter_filter,
    List.cons_append]
  congr 2
  apply List.filter_congr
  intro other _
  by_cases same : other = directory
  · simp [same]
  · simp [same]

/-- What is added comes last, as it has not been hit. -/
theorem Coherent.order_add (coherent : history.Coherent) (path : Path) :
    History.order { history with added := addNew history.added path } =
      addNew history.order path := by
  have sameAnswer : history.order.any path.same = history.added.any path.same := by
    rw [Bool.eq_iff_iff, List.any_eq_true, List.any_eq_true]
    simp only [coherent.mem_order]
  rw [addNew, addNew, sameAnswer]
  by_cases known : history.added.any path.same = true
  · rw [if_pos known, if_pos known]
  · have unhit : path ∉ history.hits := by
      intro hit
      apply known
      rw [List.any_eq_true]
      exact ⟨path, coherent.hits_subset hit, Path.same_iff.mpr rfl⟩
    rw [if_neg known, if_neg known]
    simp [order, List.filter_append, unhit]

theorem Coherent.hit (coherent : history.Coherent) {directory : Path}
    (added : directory ∈ history.added) :
    Coherent { history with hits := directory :: history.hits } where
  hits_subset := List.cons_subset.mpr ⟨added, coherent.hits_subset⟩
  nodup := coherent.nodup
  eq_of_same := coherent.eq_of_same

theorem Coherent.add (coherent : history.Coherent) (path : Path) :
    Coherent { history with added := addNew history.added path } := by
  by_cases known : history.added.any path.same = true
  · rw [addNew, if_pos known]
    exact coherent
  · have unlike : ∀ other ∈ history.added, path.components ≠ other.components := by
      intro other member equal
      exact known (List.any_eq_true.mpr ⟨other, member, Path.same_iff.mpr equal⟩)
    rw [addNew, if_neg known]
    constructor
    · exact List.subset_append_of_subset_left [path] coherent.hits_subset
    · rw [List.nodup_append]
      refine ⟨coherent.nodup, by simp, ?_⟩
      intro old isOld new isNew equal
      obtain rfl := List.mem_singleton.mp isNew
      exact unlike old isOld (congrArg Path.components equal.symm)
    · intro first isFirst second isSecond same
      have equal := Path.same_iff.mp same
      rcases List.mem_append.mp isFirst with firstOld | firstNew
      · rcases List.mem_append.mp isSecond with secondOld | secondNew
        · exact coherent.eq_of_same first firstOld second secondOld same
        · obtain rfl := List.mem_singleton.mp secondNew
          exact absurd equal.symm (unlike first firstOld)
      · obtain rfl := List.mem_singleton.mp firstNew
        rcases List.mem_append.mp isSecond with secondOld | secondNew
        · exact absurd equal (unlike second secondOld)
        · exact (List.mem_singleton.mp secondNew).symm

/-- One use keeps the history coherent, and its order the order of the lazily used paths. -/
theorem Coherent.record (coherent : history.Coherent) {resolver : Resolver}
    (ordered : resolver.lazyPaths = history.order) (tree : FileTree) (use : Use) :
    (history.record resolver tree use).Coherent ∧
      (resolver.perform tree use).lazyPaths = (history.record resolver tree use).order := by
  rw [lazyPaths_perform, History.record, ordered]
  cases use.addition? tree with
  | some path => exact ⟨coherent.add path, (coherent.order_add path).symm⟩
  | none =>
      cases hit : use.hit? resolver tree with
      | none => exact ⟨coherent, rfl⟩
      | some directory =>
          have added : directory ∈ history.added := by
            rw [← coherent.mem_order, ← ordered]
            exact mem_lazyPaths_of_hit? hit
          exact ⟨coherent.hit added, (coherent.order_hit directory).symm⟩

theorem Coherent.recordAll (coherent : history.Coherent) {resolver : Resolver}
    (ordered : resolver.lazyPaths = history.order) (uses : List (FileTree × Use)) :
    (history.recordAll resolver uses).Coherent ∧
      (resolver.performAll uses).lazyPaths = (history.recordAll resolver uses).order := by
  induction uses generalizing history resolver with
  | nil => exact ⟨coherent, ordered⟩
  | cons step uses ih =>
      obtain ⟨tree, use⟩ := step
      obtain ⟨stillCoherent, stillOrdered⟩ := coherent.record ordered tree use
      exact ih stillCoherent stillOrdered

end History

/-! ## Most recent hit first -/

theorem subset_touch (paths : List Path) (hit : Option Path) : paths ⊆ touch paths hit := by
  cases hit with
  | none => exact List.Subset.refl paths
  | some directory =>
      intro path member
      by_cases same : path = directory
      · exact same ▸ List.mem_cons_self
      · exact List.mem_cons_of_mem directory ((List.mem_erase_of_ne same).mpr member)

theorem subset_addNew (paths : List Path) (path : Path) : paths ⊆ addNew paths path := by
  rw [addNew]
  split
  · exact List.Subset.refl paths
  · exact List.subset_append_left paths [path]

theorem lazyPaths_subset_perform (resolver : Resolver) (tree : FileTree) (use : Use) :
    resolver.lazyPaths ⊆ (resolver.perform tree use).lazyPaths := by
  rw [lazyPaths_perform]
  cases use.addition? tree with
  | some path => exact subset_addNew resolver.lazyPaths path
  | none => exact subset_touch resolver.lazyPaths (use.hit? resolver tree)

theorem lazyPaths_subset_performAll (resolver : Resolver) (uses : List (FileTree × Use)) :
    resolver.lazyPaths ⊆ (resolver.performAll uses).lazyPaths := by
  induction uses generalizing resolver with
  | nil => exact List.Subset.refl resolver.lazyPaths
  | cons step uses ih =>
      obtain ⟨tree, use⟩ := step
      exact List.Subset.trans (resolver.lazyPaths_subset_perform tree use)
        (ih (resolver.perform tree use))

/-- After any run of a new resolver the lazily used paths are those that were hit, each once and the
one with the last hit first, and then those that never were, as they were added. No two of them are
one path, and none is lost later on. A use that adds nothing and hits none of them leaves the order
alone, and neither an import from the standard library nor an absolute name ever hits one. -/
theorem lazyPaths_by_last_hit (standardDirs : List String) (sourceExtension : String)
    (uses : List (FileTree × Use)) :
    let start := initial standardDirs sourceExtension
    let later := start.performAll uses
    let history := History.empty.recordAll start uses
    later.lazyPaths =
        history.hits.eraseDups ++ history.added.filter (· ∉ history.hits) ∧
      (later.lazyPaths.Pairwise fun first second => first.same second = false) ∧
      (∀ more, later.lazyPaths ⊆ (later.performAll more).lazyPaths) ∧
      (∀ tree use, use.addition? tree = none → use.hit? later tree = none →
        (later.perform tree use).lazyPaths = later.lazyPaths) ∧
      (∀ tree name importer outsideLibrary,
        (Use.resolve (stdlibMark ++ name) importer outsideLibrary).hit? later tree = none) ∧
      ∀ tree (use : Use) name, use.name? = some name → (later.fileFor name).isAbsolute = true →
        use.hit? later tree = none := by
  intro start later history
  obtain ⟨coherent, ordered⟩ := History.coherent_empty.recordAll
    (show start.lazyPaths = History.empty.order from rfl) uses
  refine ⟨ordered, ?_, ?_, ?_, ?_, ?_⟩
  · have distinct := coherent.pairwise_order
    rw [← ordered] at distinct
    exact distinct
  · exact later.lazyPaths_subset_performAll
  · intro tree use addsNone hitsNone
    rw [lazyPaths_perform, addsNone, hitsNone]
    rfl
  · intro tree name importer outsideLibrary
    exact hit?_stdlib name importer outsideLibrary
  · intro tree use name named absolute
    exact hit?_absolute named absolute

end Frontend.Resolver
