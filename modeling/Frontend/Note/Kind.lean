import Frontend.Options

/-!
# Kinds of note

Every report has one of a closed list of kinds. A kind fixes its category, its severity unless a
policy escalates it, and the switch that gates it, if any. Nothing here depends on the state of a
compilation.
-/

namespace Frontend

/-- How grave a report is, mildest first. -/
inductive Severity where
  | debug
  | trace
  | hint
  | warning
  | error
  | fatal
deriving DecidableEq, Repr

namespace Severity

/-- The place of a severity on the scale, mildest first. -/
def rank (severity : Severity) : Nat :=
  severity.ctorIdx

instance : Named Severity where
  name
    | .debug => "Debug"
    | .trace => "Trace"
    | .hint => "Hint"
    | .warning => "Warning"
    | .error => "Error"
    | .fatal => "Fatal"

end Severity

/-- The family a kind belongs to, which decides the rule that enables it. -/
inductive Category where
  | error
  | fatal
  | warning
  | hint
  | internal
  | debug
  | linter
  | nilCheck
  | user
deriving DecidableEq, Repr

instance : Named Category where
  name
    | .error => "Error"
    | .fatal => "Fatal"
    | .warning => "Warning"
    | .hint => "Hint"
    | .internal => "Internal"
    | .debug => "Debug"
    | .linter => "Linter"
    | .nilCheck => "NilCheck"
    | .user => "User"

/-- Every kind of report that can be made. -/
inductive NoteKind where
  /-- No kind was given; such a report cannot be delivered. -/
  | unset
  | lexerError
  | syntaxError
  | undeclaredIdentifier
  | typeMismatch
  | cannotOpenFile
  | illFormedAst
  | fatalError
  | deprecated
  | unreachableCode
  | proveField
  | gcUnsafe
  | uninit
  | caseTransition
  | configDeprecated
  | success
  | successX
  | conf
  | processing
  | processingStmt
  | pattern
  | executing
  | linking
  | compilingExtraFile
  | path
  | dependency
  | globalVar
  | gcStats
  | vmStackTrace
  | extendedContext
  | declaredLoc
  | declaredButNotUsed
  | convToBaseNotNeeded
  | exprAlwaysX
  | expandMacro
  | expandArc
  | internalError
  | unreachableState
  | internalStackTrace
  | echoMessage
  | versionInfo
  | helpText
  | vmTrace
  | semTrace
  | parserTrace
  | codegenTrace
  | linterReport
  | linterReportUse
  | nilDereference
  | nilPossible
  | userHint
  | userWarning
  | userError
  | quitCalled
deriving DecidableEq, Repr

namespace NoteKind

/-- All kinds, in order. -/
def values : List NoteKind :=
  [ .unset, .lexerError, .syntaxError, .undeclaredIdentifier, .typeMismatch, .cannotOpenFile,
    .illFormedAst, .fatalError, .deprecated, .unreachableCode, .proveField, .gcUnsafe, .uninit,
    .caseTransition, .configDeprecated, .success, .successX, .conf, .processing, .processingStmt,
    .pattern, .executing, .linking, .compilingExtraFile, .path, .dependency, .globalVar, .gcStats,
    .vmStackTrace, .extendedContext, .declaredLoc, .declaredButNotUsed, .convToBaseNotNeeded,
    .exprAlwaysX, .expandMacro, .expandArc, .internalError, .unreachableState, .internalStackTrace,
    .echoMessage, .versionInfo, .helpText, .vmTrace, .semTrace, .parserTrace, .codegenTrace,
    .linterReport, .linterReportUse, .nilDereference, .nilPossible, .userHint, .userWarning,
    .userError, .quitCalled ]

instance : Enumerated NoteKind :=
  .ofValues values NoteKind.ctorIdx
    (by intro value; cases value <;> rfl) (by decide) (by decide)

instance : Named NoteKind where
  name
    | .unset => "Unset"
    | .lexerError => "LexerError"
    | .syntaxError => "SyntaxError"
    | .undeclaredIdentifier => "UndeclaredIdentifier"
    | .typeMismatch => "TypeMismatch"
    | .cannotOpenFile => "CannotOpenFile"
    | .illFormedAst => "IllFormedAst"
    | .fatalError => "FatalError"
    | .deprecated => "Deprecated"
    | .unreachableCode => "UnreachableCode"
    | .proveField => "ProveField"
    | .gcUnsafe => "GcUnsafe"
    | .uninit => "Uninit"
    | .caseTransition => "CaseTransition"
    | .configDeprecated => "ConfigDeprecated"
    | .success => "Success"
    | .successX => "SuccessX"
    | .conf => "Conf"
    | .processing => "Processing"
    | .processingStmt => "ProcessingStmt"
    | .pattern => "Pattern"
    | .executing => "Executing"
    | .linking => "Linking"
    | .compilingExtraFile => "CompilingExtraFile"
    | .path => "Path"
    | .dependency => "Dependency"
    | .globalVar => "GlobalVar"
    | .gcStats => "GcStats"
    | .vmStackTrace => "VmStackTrace"
    | .extendedContext => "ExtendedContext"
    | .declaredLoc => "DeclaredLoc"
    | .declaredButNotUsed => "XDeclaredButNotUsed"
    | .convToBaseNotNeeded => "ConvToBaseNotNeeded"
    | .exprAlwaysX => "ExprAlwaysX"
    | .expandMacro => "ExpandMacro"
    | .expandArc => "ExpandArc"
    | .internalError => "InternalError"
    | .unreachableState => "UnreachableState"
    | .internalStackTrace => "InternalStackTrace"
    | .echoMessage => "EchoMessage"
    | .versionInfo => "VersionInfo"
    | .helpText => "HelpText"
    | .vmTrace => "VmTrace"
    | .semTrace => "SemTrace"
    | .parserTrace => "ParserTrace"
    | .codegenTrace => "CodegenTrace"
    | .linterReport => "LinterReport"
    | .linterReportUse => "LinterReportUse"
    | .nilDereference => "NilDereference"
    | .nilPossible => "NilPossible"
    | .userHint => "UserHint"
    | .userWarning => "UserWarning"
    | .userError => "UserError"
    | .quitCalled => "QuitCalled"

/-! ## Category and severity -/

/-- The family of a kind. The missing kind counts as internal. -/
def category : NoteKind → Category
  | .lexerError | .syntaxError | .undeclaredIdentifier | .typeMismatch | .cannotOpenFile
  | .illFormedAst => .error
  | .fatalError => .fatal
  | .deprecated | .unreachableCode | .proveField | .gcUnsafe | .uninit | .caseTransition
  | .configDeprecated => .warning
  | .success | .successX | .conf | .processing | .processingStmt | .pattern | .executing
  | .linking | .compilingExtraFile | .path | .dependency | .globalVar | .gcStats | .vmStackTrace
  | .extendedContext | .declaredLoc | .declaredButNotUsed | .convToBaseNotNeeded | .exprAlwaysX
  | .expandMacro | .expandArc => .hint
  | .unset | .internalError | .unreachableState | .internalStackTrace | .echoMessage
  | .versionInfo | .helpText => .internal
  | .vmTrace | .semTrace | .parserTrace | .codegenTrace => .debug
  | .linterReport | .linterReportUse => .linter
  | .nilDereference | .nilPossible => .nilCheck
  | .userHint | .userWarning | .userError | .quitCalled => .user

/-- The severity of a kind that no policy has escalated. Internal and user-issued kinds have one
each; in every other category it follows from the category. -/
def ownSeverity (kind : NoteKind) : Severity :=
  match kind with
  | .unset => .debug
  | .internalError | .unreachableState => .fatal
  | .internalStackTrace => .trace
  | .echoMessage | .versionInfo | .helpText | .userHint | .quitCalled => .hint
  | .userWarning => .warning
  | .userError => .error
  | _ =>
      match kind.category with
      | .error => .error
      | .fatal => .fatal
      | .warning | .nilCheck => .warning
      | .hint | .linter | .internal | .user => .hint
      | .debug => .debug

/-! ## What gates a kind -/

/-- The experimental feature without which the kind stays silent. -/
def gatingFeature? (kind : NoteKind) : Option Feature :=
  if kind.category = .nilCheck then some .strictNotNil else none

/-- The tracing switch that turns the kind on. -/
def traceFlag? : NoteKind → Option TraceFlag
  | .vmTrace => some .vmTrace
  | .semTrace => some .semTrace
  | .parserTrace => some .parserTrace
  | .codegenTrace => some .codegenTrace
  | _ => none

/-- The kind is a style check. -/
def isLinter (kind : NoteKind) : Bool :=
  kind.category == .linter

/-- The kind is a hint, by category or issued by the user. -/
def isHint (kind : NoteKind) : Bool :=
  kind.category == .hint || kind == .userHint || kind == .quitCalled

/-- The kind is a warning, by category or issued by the user. -/
def isWarning (kind : NoteKind) : Bool :=
  kind.category == .warning || kind == .userWarning

/-- The hint concerns the whole compilation, so that the notes of the main package decide it in
every module. -/
def concernsAll (kind : NoteKind) : Bool :=
  kind == .conf || kind == .processing

/-- The kind shows what a definition expands to. -/
def isExpansion (kind : NoteKind) : Bool :=
  kind == .expandMacro || kind == .expandArc

/-- The hints, in order. -/
def hints : List NoteKind :=
  (Enumerated.all NoteKind).filter isHint

/-- The warnings, in order. -/
def warnings : List NoteKind :=
  (Enumerated.all NoteKind).filter isWarning

end NoteKind

/-- A set of kinds. -/
abbrev KindSet :=
  Selection NoteKind

end Frontend
