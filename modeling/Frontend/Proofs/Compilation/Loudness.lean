import Frontend.Compilation.Classification
import Frontend.Proofs.Note.Comparison

/-!
# Louder compilations

Whether a report is shown grows with everything that can show it: with the notes, the switches, the
features and the watched symbols. Only two settings hide reports, the restriction of style checks to
usages and the serving of an editor, and these have to be the same on both sides of a comparison.

A noisier preset gives louder notes, and the louder notes stay so through every operation that is
made on both sides, since none asks what is shown before it decides what to write. So raising the
verbosity silences no report, neither at once nor later.
-/

namespace Frontend

/-! ## Louder notes -/

namespace NotePolicy

/-- The second policy shows each kind wherever the first one does, and the kinds have the same marks
in both. -/
def QuieterThan (quiet loud : NotePolicy) : Prop :=
  ∀ kind, Standing.Compare (· ≤ ·) (quiet.standing kind) (loud.standing kind) ∧
    (quiet.standing kind).SameMarks (loud.standing kind)

/-- A preset that lies within another is adopted in its place. -/
theorem quieterThan_adoptPreset (policy : NotePolicy) {less more : KindSet} (within : less ⊆ more) :
    (policy.adoptPreset less).QuieterThan (policy.adoptPreset more) := by
  intro kind
  rw [standing_adoptPreset, standing_adoptPreset]
  have same := Standing.Compare.refl (fun _ => Bool.le_refl _) (policy.standing kind)
  constructor
  · exact same.adoptPreset (within kind) rfl
  · exact ⟨rfl, rfl⟩

theorem QuieterThan.apply {quiet loud : NotePolicy} (quieter : quiet.QuieterThan loud)
    (change : Change) : (quiet.apply change).QuieterThan (loud.apply change) := by
  intro kind
  obtain ⟨compared, marks⟩ := quieter kind
  rw [standing_apply, standing_apply]
  constructor
  · exact compared.apply (fun _ => Bool.le_refl _) (marks.consultsAlike (change.on kind))
  · exact marks.apply (change.on kind)

end NotePolicy

namespace Compilation

/-! ## Louder compilations -/

/-- Whatever can show a report in the first compilation can show it in the second, and what hides
reports is the same in both. -/
structure QuieterThan (quiet loud : Compilation) : Prop where
  active : quiet.notes.active ⊆ loud.notes.active
  mainPackage : quiet.notes.mainPackage ⊆ loud.notes.mainPackage
  command : quiet.options.command = loud.options.command
  styleUsages :
    quiet.options.globals.contains .styleUsages = loud.options.globals.contains .styleUsages
  globals : quiet.options.globals ⊆ loud.options.globals
  locals : quiet.options.locals ⊆ loud.options.locals
  features : quiet.options.features ⊆ loud.options.features
  debug : quiet.options.debug ⊆ loud.options.debug
  watchedMacros : quiet.watchedMacros ⊆ loud.watchedMacros
  watchedArcs : quiet.watchedArcs ⊆ loud.watchedArcs

variable {quiet loud : Compilation}

theorem QuieterThan.allowsHint (quieter : quiet.QuieterThan loud) {kind : NoteKind}
    (allowed : quiet.allowsHint kind = true) : loud.allowsHint kind = true := by
  simp only [Compilation.allowsHint, Bool.and_eq_true] at allowed ⊢
  rcases allowed with ⟨hintsOn, shown⟩
  constructor
  · exact quieter.locals .hints hintsOn
  · cases concerns : kind.concernsAll with
    | true =>
        rw [if_pos concerns] at shown
        rw [if_pos rfl]
        exact quieter.mainPackage kind shown
    | false =>
        rw [concerns, if_neg Bool.false_ne_true] at shown
        rw [if_neg Bool.false_ne_true]
        exact quieter.active kind shown

theorem QuieterThan.allowsWarning (quieter : quiet.QuieterThan loud) {kind : NoteKind}
    (allowed : quiet.allowsWarning kind = true) : loud.allowsWarning kind = true := by
  simp only [Compilation.allowsWarning, Bool.and_eq_true] at allowed ⊢
  rcases allowed with ⟨warningsOn, shown⟩
  exact ⟨quieter.locals .warnings warningsOn, quieter.active kind shown⟩

theorem QuieterThan.allowsLinter (quieter : quiet.QuieterThan loud) {kind : NoteKind}
    (allowed : quiet.allowsLinter kind = true) : loud.allowsLinter kind = true := by
  simp only [Compilation.allowsLinter, Options.styleChecked, Options.styleFails, Bool.and_eq_true,
    Bool.or_eq_true, quieter.styleUsages] at allowed ⊢
  rcases allowed with ⟨styleHint | styleError, usage⟩
  · exact ⟨Or.inl (quieter.globals .styleHint styleHint), usage⟩
  · exact ⟨Or.inr (quieter.globals .styleError styleError), usage⟩

/-- Notes that are shown while an editor is served are shown under more switches. -/
theorem QuieterThan.not_mutesNotes (quieter : quiet.QuieterThan loud)
    (unmuted : quiet.options.mutesNotes = false) : loud.options.mutesNotes = false := by
  simp only [Options.mutesNotes, Options.servesEditor, quieter.command, Bool.and_eq_false_iff,
    Bool.not_eq_false'] at unmuted ⊢
  rcases unmuted with noEditor | debugging
  · exact Or.inl noEditor
  · exact Or.inr (quieter.globals .ideDebug debugging)

/-- The rule that claims a kind depends on the kind alone, and shows it in the second compilation if
it does so in the first. -/
theorem QuieterThan.showsKind (quieter : quiet.QuieterThan loud) {kind : NoteKind}
    (shown : quiet.showsKind kind = true) : loud.showsKind kind = true := by
  unfold Compilation.showsKind at shown ⊢
  cases gated : kind.gatingFeature? with
  | some feature =>
      rw [gated] at shown
      exact quieter.features feature shown
  | none =>
      rw [gated] at shown
      cases traced : kind.traceFlag? with
      | some flag =>
          rw [traced] at shown
          exact quieter.debug flag shown
      | none =>
          rw [traced] at shown
          dsimp only at shown ⊢
          by_cases linter : kind.isLinter = true
          · rw [if_pos linter] at shown ⊢
            exact quieter.allowsLinter shown
          rw [if_neg linter] at shown ⊢
          by_cases hint : kind.isHint = true
          · rw [if_pos hint] at shown ⊢
            exact quieter.allowsHint shown
          rw [if_neg hint] at shown ⊢
          by_cases warning : kind.isWarning = true
          · rw [if_pos warning] at shown ⊢
            exact quieter.allowsWarning shown
          rw [if_neg warning] at shown ⊢
          by_cases always : alwaysShown kind.ownSeverity = true
          · rw [if_pos always]
          rw [if_neg always] at shown ⊢
          rw [Bool.and_eq_true, Bool.not_eq_true'] at shown ⊢
          exact ⟨quieter.active kind shown.1, quieter.not_mutesNotes shown.2⟩

theorem QuieterThan.isWatchedExpansion (quieter : quiet.QuieterThan loud) {report : Report}
    (watched : quiet.isWatchedExpansion report = true) :
    loud.isWatchedExpansion report = true := by
  unfold Compilation.isWatchedExpansion at watched ⊢
  split at watched
  · rw [List.contains_iff_mem] at watched ⊢
    exact quieter.watchedMacros watched
  · rw [List.contains_iff_mem] at watched ⊢
    exact quieter.watchedArcs watched
  · contradiction

/-- A louder compilation shows every report that a quieter one shows. -/
theorem QuieterThan.shows (quieter : quiet.QuieterThan loud) {report : Report}
    (shown : quiet.shows report = true) : loud.shows report = true := by
  rw [Compilation.shows, Bool.or_eq_true] at shown ⊢
  rcases shown with watched | byKind
  · exact Or.inl (quieter.isWatchedExpansion watched)
  · exact Or.inr (quieter.showsKind byKind)

/-! ## Adjustments of a louder compilation -/

/-- The second compilation differs from the first in louder notes, and in nothing else that decides
which reports are shown. -/
structure QuieterNotes (quiet loud : Compilation) : Prop where
  notes : quiet.notes.QuieterThan loud.notes
  options : quiet.options = loud.options
  watchedMacros : quiet.watchedMacros = loud.watchedMacros
  watchedArcs : quiet.watchedArcs = loud.watchedArcs

theorem QuieterNotes.quieterThan (quieter : QuieterNotes quiet loud) : quiet.QuieterThan loud where
  active := fun kind shown => (quieter.notes kind).1.active shown
  mainPackage := fun kind shown => (quieter.notes kind).1.mainPackage shown
  command := by rw [quieter.options]
  styleUsages := by rw [quieter.options]
  globals := by rw [quieter.options]; exact Selection.subset_refl _
  locals := by rw [quieter.options]; exact Selection.subset_refl _
  features := by rw [quieter.options]; exact Selection.subset_refl _
  debug := by rw [quieter.options]; exact Selection.subset_refl _
  watchedMacros := by rw [quieter.watchedMacros]; exact List.Subset.refl _
  watchedArcs := by rw [quieter.watchedArcs]; exact List.Subset.refl _

/-- Every operation that is made on both sides keeps the second compilation the louder one. -/
theorem QuieterNotes.adjust (quieter : QuieterNotes quiet loud) (adjustment : Adjustment) :
    QuieterNotes (quiet.adjust adjustment) (loud.adjust adjustment) := by
  obtain ⟨notes, options, macros, arcs⟩ := quieter
  cases adjustment with
  | notes change => exact ⟨notes.apply change, options, macros, arcs⟩
  | verbosity level => exact ⟨notes.apply (.adoptPreset _), options, macros, arcs⟩
  | options change => exact ⟨notes, congrArg change options, macros, arcs⟩
  | watchMacro symbol => exact ⟨notes, options, congrArg (symbol :: ·) macros, arcs⟩
  | watchArc symbol => exact ⟨notes, options, macros, congrArg (symbol :: ·) arcs⟩

theorem QuieterNotes.adjustAll (quieter : QuieterNotes quiet loud)
    (adjustments : List Adjustment) :
    QuieterNotes (quiet.adjustAll adjustments) (loud.adjustAll adjustments) := by
  induction adjustments generalizing quiet loud with
  | nil => exact quieter
  | cons adjustment adjustments ih => exact ih (quieter.adjust adjustment)

/-- Of two levels the higher one gives the louder notes. -/
theorem quieterNotes_switchVerbosity (compilation : Compilation) {low high : Nat}
    (le : low ≤ high) :
    QuieterNotes (compilation.switchVerbosity low) (compilation.switchVerbosity high) := by
  have saturated : min low Verbosity.maxLevel ≤ min high Verbosity.maxLevel := by omega
  have within := Verbosity.preset_subset_of_le saturated
  exact ⟨compilation.notes.quieterThan_adoptPreset within, rfl, rfl, rfl⟩

/-- Raising the verbosity silences no report, whatever was set before. This holds at once, where no
adjustment follows, and after any adjustments that follow, in modules of the main package and in
foreign ones. -/
theorem louder_level_silences_nothing (compilation : Compilation) {low high : Nat}
    (le : low ≤ high) (adjustments : List Adjustment) {report : Report}
    (shown : ((compilation.switchVerbosity low).adjustAll adjustments).shows report = true) :
    ((compilation.switchVerbosity high).adjustAll adjustments).shows report = true := by
  have notes := (compilation.quieterNotes_switchVerbosity le).adjustAll adjustments
  exact notes.quieterThan.shows shown

/-- A hint that was turned on stays shown when level 9 is chosen in a foreign module in place of
level 0, and after the main package is entered again. -/
theorem louder_level_silences_nothing_gcStats :
    let compilation := (Compilation.initial defaultManualUrl).adjustAll
      [ .notes (.assignDefault .gcStats true), .notes (.assign .active .gcStats true),
        .notes (.enter false) ]
    let report := Report.fresh .gcStats .unknown (.hint "collected" none)
    let adjustments : List Adjustment := [.notes (.enter true)]
    0 ≤ 9 ∧ ((compilation.switchVerbosity 0).adjustAll adjustments).shows report = true ∧
      ((compilation.switchVerbosity 9).adjustAll adjustments).shows report = true := by
  intro compilation report adjustments
  have shown : ((compilation.switchVerbosity 0).adjustAll adjustments).shows report = true := by
    decide
  have louder := louder_level_silences_nothing compilation (Nat.zero_le 9) adjustments shown
  exact ⟨Nat.zero_le 9, shown, louder⟩

end Compilation

end Frontend
