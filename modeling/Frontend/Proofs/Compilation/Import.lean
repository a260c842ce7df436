import Frontend.Compilation.Basic
import Frontend.Proofs.Import.LazyCandidates
import Frontend.Proofs.Import.PackageWalk
import Frontend.Proofs.Source.Numbering

/-!
# Importing again

An import may move a lazily used path to the front, make the resolver remember the package of what it
found, and register that file. Each of these is done for good: done again at once, in the same tree,
it gives the same answer and leaves everything where it is. The steps of an import feed one another,
so the same is shown of each in the state that the first import has left.
-/

namespace Frontend

/-! ## What is remembered -/

namespace Resolver

variable {tree : FileTree}

/-- With what a walk has found remembered of the directories that it visited, the same walk ends at
its first directory, and finds the same. -/
theorem walkUp_of_learnt (known : List (List Path.Component × Option Path)) (directory : Path)
    (above : List Path) :
    let walked := walkUp tree known (directory :: above)
    walkUp tree
        (walked.2.map (fun visited => (visited.components, walked.1)) ++ known)
        (directory :: above) = (walked.1, []) := by
  intro walked
  have remembered : (walked.2.map (fun visited => (visited.components, walked.1)) ++
      known).lookup directory.components = some walked.1 := by
    cases unknown : known.lookup directory.components with
    | some found =>
        have ended : walked = (found, []) := by
          simp only [walked, walkUp, unknown]
        rw [ended]
        exact unknown
    | none =>
        have visits : ∃ further, walked.2 = directory :: further := by
          rcases walkUp_cons_of_unknown tree above unknown with ⟨-, goesOn⟩ | ⟨-, ends⟩
          · exact ⟨_, congrArg Prod.snd goesOn⟩
          · exact ⟨[], congrArg Prod.snd ends⟩
        obtain ⟨further, visited⟩ := visits
        rw [visited]
        exact List.lookup_cons_self
  rw [walkUp, remembered]

variable (resolver : Resolver) (tree)

theorem descriptorOf_again (path : Path) :
    (resolver.descriptorOf tree path).2.descriptorOf tree path =
      resolver.descriptorOf tree path := by
  cases directories : path.above with
  | nil =>
      have nowhere (resolver : Resolver) : resolver.descriptorOf tree path = (none, resolver) := by
        rw [descriptorOf, directories]
      rw [nowhere resolver, nowhere]
  | cons directory above =>
      have walked (resolver : Resolver) : resolver.descriptorOf tree path =
          let walked := walkUp tree resolver.knownDescriptors (directory :: above)
          let learnt := walked.2.map fun visited => (visited.components, walked.1)
          (walked.1, { resolver with knownDescriptors := learnt ++ resolver.knownDescriptors }) := by
        rw [descriptorOf, directories]
      rw [walked resolver, walked]
      simp only [walkUp_of_learnt, List.map_nil, List.nil_append]

theorem packageOf_again (path : Path) :
    (resolver.packageOf tree path).2.packageOf tree path = resolver.packageOf tree path := by
  rw [packageOf_snd_eq, packageOf, descriptorOf_again, packageOf]

/-- Where an override may apply, the package is asked for. -/
theorem replaceOverridden_eq {path : Path} {module : String} (named : path.stem? = some module)
    (overrides : ¬resolver.overrides.isEmpty = true) :
    resolver.replaceOverridden tree path =
      ((resolver.replacement? tree path).getD path, (resolver.packageOf tree path).2) := by
  have asked : (resolver.replaceOverridden tree path).2 = (resolver.packageOf tree path).2 := by
    rw [replaceOverridden, if_neg overrides, named]
    rcases resolver.packageOf tree path with ⟨package, asker⟩
    cases given : asker.overrides.find? (package, module) with
    | none => simp only [given]
    | some replacement => simp only [given]
  rw [← replaceOverridden_fst, ← asked]

theorem replaceOverridden_again (path : Path) :
    (resolver.replaceOverridden tree path).2.replaceOverridden tree path =
      resolver.replaceOverridden tree path := by
  by_cases bare : resolver.overrides.isEmpty = true
  · have unasked : resolver.replaceOverridden tree path = (path, resolver) := by
      rw [replaceOverridden, if_pos bare]
    rw [unasked]
    exact unasked
  · cases named : path.stem? with
    | none =>
        have unasked : resolver.replaceOverridden tree path = (path, resolver) := by
          rw [replaceOverridden, if_neg bare, named]
        rw [unasked]
        exact unasked
    | some module =>
        have again := resolver.packageOf_again tree path
        obtain ⟨known, asked⟩ := resolver.packageOf_snd tree path
        have sameOverrides : (resolver.packageOf tree path).2.overrides = resolver.overrides := by
          rw [asked]
        have sameReplacement : (resolver.packageOf tree path).2.replacement? tree path =
            resolver.replacement? tree path := by
          unfold replacement?
          rw [again, sameOverrides]
        rw [resolver.replaceOverridden_eq tree named bare,
          replaceOverridden_eq tree _ named (sameOverrides ▸ bare), again, sameReplacement]

/-! ## What is found -/

theorem afterHit_again (origin : Origin) :
    (resolver.afterHit origin).afterHit origin = resolver.afterHit origin := by
  cases origin with
  | lazyPath directory => simp only [afterHit, List.erase_cons_head]
  | absolute | neighbour | library | searchPath => rfl

/-- What is remembered of packages has no part in moving paths to the front. -/
theorem afterHit_remembering (known : List (List Path.Component × Option Path)) (origin : Origin) :
    { resolver with knownDescriptors := known }.afterHit origin =
      { resolver.afterHit origin with knownDescriptors := known } := by
  cases origin <;> rfl

/-- An import that is resolved again has the path at the front that led to its file, and finds the
descriptor remembered under which the file may be overridden. -/
theorem resolve_again (specifier : String) (importer : Path) (outsideLibrary : Bool) :
    (resolver.resolve tree specifier importer outsideLibrary).2.resolve tree specifier importer
        outsideLibrary = resolver.resolve tree specifier importer outsideLibrary := by
  cases first : firstFile? tree
      (resolver.importCandidates specifier importer outsideLibrary) with
  | none =>
      have inVain := resolver.resolve_of_firstFile?_eq_none tree first
      rw [inVain]
      exact inVain
  | some candidate =>
      let found := tree.canonicalOr candidate.file
      let moved := resolver.afterHit candidate.origin
      obtain ⟨known, asked⟩ := moved.replaceOverridden_snd tree found
      let later : Resolver := { moved with knownDescriptors := known }
      have firstAgain : firstFile? tree
          (later.importCandidates specifier importer outsideLibrary) = some candidate := by
        rw [importCandidates_remembering moved known]
        exact firstFile?_importCandidates_afterHit first
      have stays : later.afterHit candidate.origin = later := by
        rw [afterHit_remembering, afterHit_again]
      have replaced : later.replaceOverridden tree found = moved.replaceOverridden tree found := by
        rw [← moved.replaceOverridden_again tree found, asked]
      have remembered : (later.replaceOverridden tree found).2 = later := by
        rw [replaced, asked]
      have hit : resolver.resolve tree specifier importer outsideLibrary =
          (some (later.replaceOverridden tree found).1, later) := by
        rw [resolver.resolve_of_firstFile?_eq_some tree first, ← replaced, remembered]
      rw [hit, later.resolve_of_firstFile?_eq_some tree firstAgain, stays, remembered]

end Resolver

/-! ## Registration -/

theorem SourceTable.register_again (table : SourceTable) (path shownPath : Path) :
    (table.register path shownPath).2.register path shownPath = table.register path shownPath :=
  register_of_known (table.indexOf?_register path shownPath).1 shownPath

namespace Compilation

theorem registerSource_again (compilation : Compilation) (path : Path) :
    (compilation.registerSource path).2.registerSource path = compilation.registerSource path := by
  simp only [registerSource, SourceTable.register_again]

/-- An import that is made again, in the same tree, is answered with the same path under the same
index, or again with nothing, and leaves the compilation exactly as it is. -/
theorem importing_again_changes_nothing (compilation : Compilation) (tree : FileTree)
    (specifier : String) (importer : Path) :
    let first := compilation.importSource tree specifier importer
    first.2.importSource tree specifier importer = first := by
  intro first
  have again := compilation.resolver.resolve_again tree specifier importer false
  rcases answer : compilation.resolver.resolve tree specifier importer false with ⟨found, resolver⟩
  rw [answer] at again
  let resolved : Compilation := { compilation with resolver := resolver }
  cases found with
  | none =>
      have inVain : first = (none, resolved) := by
        simp only [first, importSource, answer, resolved]
      rw [inVain, importSource, again]
  | some path =>
      have registered : first =
          (some (path, (resolved.registerSource path).1), (resolved.registerSource path).2) := by
        simp only [first, importSource, answer, resolved]
      have kept : { (resolved.registerSource path).2 with resolver := resolver } =
          (resolved.registerSource path).2 := rfl
      have keptResolver : (resolved.registerSource path).2.resolver = resolver := rfl
      rw [registered, importSource, keptResolver, again]
      simp only [kept, registerSource_again]

end Compilation

end Frontend
