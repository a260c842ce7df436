import Frontend.Compilation.Basic

/-!
# Which reports are shown, and how gravely

The first rule that claims a kind decides whether it is shown. A kind gated by a feature follows the
feature and a trace its switch; style checks follow the style options; hints and warnings need their
switch and their note; errors, fatal errors and stack traces are always shown; everything else needs
its note and may be muted while an editor is served. An expansion that was asked for by its symbol
is shown before any rule is consulted.

Severity is a separate matter: it is that of the kind, unless the kind is escalated to an error.
-/

namespace Frontend.Compilation

/-- The hint may be shown. A hint that concerns the whole compilation is looked up among the notes
of the main package in every module. -/
def allowsHint (compilation : Compilation) (kind : NoteKind) : Bool :=
  compilation.options.hintsOn &&
    if kind.concernsAll then compilation.notes.mainPackage.contains kind
    else compilation.notes.active.contains kind

/-- The warning may be shown. -/
def allowsWarning (compilation : Compilation) (kind : NoteKind) : Bool :=
  compilation.options.warningsOn && compilation.notes.active.contains kind

/-- The style check may be shown. Only checks of usages are left when the options ask for usages
alone. -/
def allowsLinter (compilation : Compilation) (kind : NoteKind) : Bool :=
  compilation.options.styleChecked &&
    (kind == .linterReportUse || !compilation.options.globals.contains .styleUsages)

/-- A severity that is shown whatever the policy says. -/
def alwaysShown (severity : Severity) : Bool :=
  severity == .error || severity == .fatal || severity == .trace

/-- Reports of the kind are shown. -/
def showsKind (compilation : Compilation) (kind : NoteKind) : Bool :=
  match kind.gatingFeature? with
  | some feature => compilation.options.features.contains feature
  | none =>
      match kind.traceFlag? with
      | some flag => compilation.options.debug.contains flag
      | none =>
          if kind.isLinter then compilation.allowsLinter kind
          else if kind.isHint then compilation.allowsHint kind
          else if kind.isWarning then compilation.allowsWarning kind
          else if alwaysShown kind.ownSeverity then true
          else compilation.notes.active.contains kind && !compilation.options.mutesNotes

/-- The expansion of the symbol that the report is about was asked for. -/
def isWatchedExpansion (compilation : Compilation) (report : Report) : Bool :=
  match report.symbol?, report.kind with
  | some symbol, .expandMacro => compilation.watchedMacros.contains symbol
  | some symbol, .expandArc => compilation.watchedArcs.contains symbol
  | _, _ => false

/-- The report is shown. -/
def shows (compilation : Compilation) (report : Report) : Bool :=
  compilation.isWatchedExpansion report || compilation.showsKind report.kind

/-- The kind is escalated to an error: a style check by the style options, a warning or a hint by
the axis of its severity. -/
def isEscalated (compilation : Compilation) (kind : NoteKind) : Bool :=
  (kind.isLinter && compilation.options.styleFails) ||
    match kind.ownSeverity with
    | .warning => compilation.notes.warningsAsErrors.contains kind
    | .hint => compilation.notes.hintsAsErrors.contains kind
    | _ => false

/-- The severity of a kind. -/
def severityOf (compilation : Compilation) (kind : NoteKind) : Severity :=
  if compilation.isEscalated kind then .error else kind.ownSeverity

/-- The severity of a report: that of its kind. -/
def severity (compilation : Compilation) (report : Report) : Severity :=
  compilation.severityOf report.kind

/-- The report counts as an error in the code. -/
def isError (compilation : Compilation) (report : Report) : Bool :=
  compilation.severity report == .error

end Frontend.Compilation
