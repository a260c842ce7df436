import Frontend.Proofs.Compilation.Loudness

/-!
# Severities

The severity of a report has nothing to do with whether the report is shown. It is that of the kind,
unless the kind is escalated, and then it is that of an error. What escalates is held apart from what
shows: two sets of kinds and one switch of the style checks. Only kinds that are milder than an error
can be escalated, so that asking for more escalation lowers no severity.

Kinds that are errors of their own accord lie outside all of this. Every rule that could hide a
report passes them over, and so does every escalation.
-/

namespace Frontend

/-! ## Grave kinds -/

namespace NoteKind

/-- Reports of the kind are errors, or worse, without any escalation. -/
def IsGrave (kind : NoteKind) : Prop :=
  kind.ownSeverity = .error ∨ kind.ownSeverity = .fatal

instance (kind : NoteKind) : Decidable kind.IsGrave :=
  inferInstanceAs (Decidable (_ ∨ _))

variable {kind : NoteKind}

/-- No grave kind meets the condition of a rule that comes before the one for errors. -/
theorem IsGrave.passed_over (grave : kind.IsGrave) :
    kind.gatingFeature? = none ∧ kind.traceFlag? = none ∧ kind.isLinter = false ∧
      kind.isHint = false ∧ kind.isWarning = false := by
  revert grave
  cases kind <;> decide

theorem IsGrave.alwaysShown (grave : kind.IsGrave) :
    Compilation.alwaysShown kind.ownSeverity = true := by
  rcases grave with error | fatal
  · rw [error]
    rfl
  · rw [fatal]
    rfl

theorem ownSeverity_of_isLinter (linter : kind.isLinter = true) : kind.ownSeverity = .hint := by
  revert linter
  cases kind <;> decide

end NoteKind

namespace Compilation

variable {kind : NoteKind}

/-- Grave kinds are shown in every compilation. -/
theorem showsKind_of_isGrave (compilation : Compilation) (grave : kind.IsGrave) :
    compilation.showsKind kind = true := by
  obtain ⟨feature, trace, linter, hint, warning⟩ := grave.passed_over
  simp only [showsKind, feature, trace, linter, hint, warning, grave.alwaysShown,
    Bool.false_eq_true, if_false, if_true]

theorem shows_of_isGrave (compilation : Compilation) {report : Report}
    (grave : report.kind.IsGrave) : compilation.shows report = true := by
  rw [shows, compilation.showsKind_of_isGrave grave, Bool.or_true]

theorem isEscalated_of_isGrave (compilation : Compilation) (grave : kind.IsGrave) :
    compilation.isEscalated kind = false := by
  obtain ⟨_, _, linter, _, _⟩ := grave.passed_over
  rw [isEscalated, linter]
  rcases grave with error | fatal
  · rw [error]
    rfl
  · rw [fatal]
    rfl

/-- Grave kinds keep their severity in every compilation. -/
theorem severity_of_isGrave (compilation : Compilation) {report : Report}
    (grave : report.kind.IsGrave) : compilation.severity report = report.kind.ownSeverity := by
  rw [severity, severityOf, compilation.isEscalated_of_isGrave grave, if_neg Bool.false_ne_true]

/-! ## Milder compilations -/

/-- Whatever escalates a kind in the first compilation escalates it in the second. -/
structure MilderThan (mild strict : Compilation) : Prop where
  warningsAsErrors : mild.notes.warningsAsErrors ⊆ strict.notes.warningsAsErrors
  hintsAsErrors : mild.notes.hintsAsErrors ⊆ strict.notes.hintsAsErrors
  styleFails : mild.options.styleFails = true → strict.options.styleFails = true

variable {mild strict : Compilation}

theorem MilderThan.of_eq
    (warnings : mild.notes.warningsAsErrors = strict.notes.warningsAsErrors)
    (hints : mild.notes.hintsAsErrors = strict.notes.hintsAsErrors)
    (style : mild.options.styleFails = strict.options.styleFails) : mild.MilderThan strict where
  warningsAsErrors := by rw [warnings]; exact Selection.subset_refl _
  hintsAsErrors := by rw [hints]; exact Selection.subset_refl _
  styleFails := by rw [style]; exact id

theorem MilderThan.isEscalated (milder : mild.MilderThan strict)
    (escalated : mild.isEscalated kind = true) : strict.isEscalated kind = true := by
  rw [Compilation.isEscalated, Bool.or_eq_true, Bool.and_eq_true] at escalated ⊢
  rcases escalated with ⟨linter, fails⟩ | listed
  · exact Or.inl ⟨linter, milder.styleFails fails⟩
  · right
    cases own : kind.ownSeverity with
    | warning =>
        rw [own] at listed
        exact milder.warningsAsErrors kind listed
    | hint =>
        rw [own] at listed
        exact milder.hintsAsErrors kind listed
    | debug | trace | error | fatal =>
        rw [own] at listed
        exact absurd listed Bool.false_ne_true

/-- Only kinds that are milder than an error are escalated to one. -/
theorem rank_ownSeverity_of_isEscalated {compilation : Compilation}
    (escalated : compilation.isEscalated kind = true) :
    kind.ownSeverity.rank < Severity.error.rank := by
  rw [isEscalated, Bool.or_eq_true, Bool.and_eq_true] at escalated
  rcases escalated with ⟨linter, _⟩ | listed
  · rw [NoteKind.ownSeverity_of_isLinter linter]
    decide
  · cases own : kind.ownSeverity with
    | debug | trace | hint | warning => decide
    | error | fatal =>
        rw [own] at listed
        exact absurd listed Bool.false_ne_true

/-- Asking for more escalation lowers no severity. -/
theorem MilderThan.rank_severityOf (milder : mild.MilderThan strict) (kind : NoteKind) :
    (mild.severityOf kind).rank ≤ (strict.severityOf kind).rank := by
  rw [severityOf, severityOf]
  by_cases both : mild.isEscalated kind = true
  · have strictly := milder.isEscalated both
    exact Nat.le_of_eq (by rw [if_pos both, if_pos strictly])
  · rw [if_neg both]
    split
    · next strictly => exact Nat.le_of_lt (rank_ownSeverity_of_isEscalated strictly)
    · exact Nat.le_refl _

/-- A level of verbosity says nothing about what is escalated. -/
theorem escalation_switchVerbosity (compilation : Compilation) (level : Nat) :
    (compilation.switchVerbosity level).notes.warningsAsErrors = compilation.notes.warningsAsErrors ∧
    (compilation.switchVerbosity level).notes.hintsAsErrors = compilation.notes.hintsAsErrors ∧
    (compilation.switchVerbosity level).options.styleFails = compilation.options.styleFails :=
  ⟨rfl, rfl, rfl⟩

/-- Style checks that fail make a compilation stricter. -/
theorem milderThan_failStyle (compilation : Compilation) :
    compilation.MilderThan (compilation.adjust (.options fun options =>
      { options with globals := options.globals.insert .styleError })) where
  warningsAsErrors := Selection.subset_refl _
  hintsAsErrors := Selection.subset_refl _
  styleFails := by
    intro _
    change (compilation.options.globals.insert .styleError).contains .styleError = true
    rw [Selection.contains_insert, decide_eq_true rfl, Bool.or_true]

/-- Severities agree where the same is escalated. -/
theorem severityOf_eq_of_milderThan (milder : mild.MilderThan strict)
    (stricter : strict.MilderThan mild) (kind : NoteKind) :
    mild.severityOf kind = strict.severityOf kind := by
  have same : mild.isEscalated kind = strict.isEscalated kind :=
    Bool.eq_iff_iff.mpr ⟨milder.isEscalated, stricter.isEscalated⟩
  rw [severityOf, severityOf, same]

/-- What shows reports and what grades them are held apart, and both only grow. A compilation in
which everything that can show a report is at least as wide, and the same is muted, shows whatever
the other one shows. Compilations that escalate the same kinds give every report the same severity.
And one that escalates more gives no report a lower severity. Nothing is asked in either comparison
about what the other is about, nor about the rest of the state. -/
theorem showing_and_grading_are_monotone (first second : Compilation) (report : Report) :
    (first.QuieterThan second → first.shows report = true → second.shows report = true) ∧
    (first.notes.warningsAsErrors = second.notes.warningsAsErrors →
      first.notes.hintsAsErrors = second.notes.hintsAsErrors →
      first.options.styleFails = second.options.styleFails →
      first.severity report = second.severity report) ∧
    (first.MilderThan second →
      (first.severity report).rank ≤ (second.severity report).rank) := by
  refine ⟨fun quieter shown => quieter.shows shown, ?_, ?_⟩
  · intro warnings hints style
    have milder := MilderThan.of_eq warnings hints style
    have stricter := MilderThan.of_eq warnings.symm hints.symm style.symm
    exact severityOf_eq_of_milderThan milder stricter report.kind
  · intro milder
    exact milder.rank_severityOf report.kind

/-- A hint is made an error. At a higher level it stays shown and stays an error, and where style
checks fail as well no severity is lower. -/
theorem showing_and_grading_are_monotone_gcStats :
    let compilation := (Compilation.initial defaultManualUrl).adjustAll
      [.notes (.assignDefault .gcStats true), .notes (.assign .hintsAsErrors .gcStats true)]
    let first := compilation.switchVerbosity 0
    let second := compilation.switchVerbosity 3
    let third := second.adjust (.options fun options =>
      { options with globals := options.globals.insert .styleError })
    let report := Report.fresh .gcStats .unknown (.hint "collected" none)
    (first.shows report = true ∧ second.shows report = true) ∧
      first.severity report = second.severity report ∧
      (second.severity report).rank ≤ (third.severity report).rank := by
  intro compilation first second third report
  have shown : first.shows report = true := by decide
  have quieter : first.QuieterThan second :=
    (compilation.quieterNotes_switchVerbosity (Nat.zero_le 3)).quieterThan
  have milder : second.MilderThan third := second.milderThan_failStyle
  refine ⟨⟨shown, ?_⟩, ?_, ?_⟩
  · exact (showing_and_grading_are_monotone first second report).1 quieter shown
  · have kept := compilation.escalation_switchVerbosity
    exact (showing_and_grading_are_monotone first second report).2.1
      ((kept 0).1.trans (kept 3).1.symm) ((kept 0).2.1.trans (kept 3).2.1.symm)
      ((kept 0).2.2.trans (kept 3).2.2.symm)
  · exact (showing_and_grading_are_monotone second third report).2.2 milder

end Compilation

end Frontend
