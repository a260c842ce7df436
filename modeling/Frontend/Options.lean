import Frontend.Selection.Basic

/-!
# Switches of a compilation

Global and local options, experimental features and tracing switches are four independent
selections, next to the command that is being run. Everything the report policy asks about them
is a predicate here.
-/

namespace Frontend

/-! ## The switches -/

/-- Switches that apply to the whole compilation. -/
inductive GlobalSwitch where
  /-- Style checks report as hints. -/
  | styleHint
  /-- Style checks report as errors. -/
  | styleError
  /-- Style checks only look at usages. -/
  | styleUsages
  /-- Other notes are still shown while an editor is served. -/
  | ideDebug
  /-- Locations show absolute paths. -/
  | listFullPaths
deriving DecidableEq, Repr

/-- Switches that can be toggled for a scope. -/
inductive LocalSwitch where
  | warnings
  | hints
deriving DecidableEq, Repr

/-- Experimental language features. -/
inductive Feature where
  | strictNotNil
  | strictFuncs
  | views
deriving DecidableEq, Repr

/-- Developer tracing switches. -/
inductive TraceFlag where
  | vmTrace
  | semTrace
  | parserTrace
  | codegenTrace
deriving DecidableEq, Repr

/-- What the front end was asked to do. -/
inductive Task where
  | compile
  | check
  | doc
  | dump
  /-- Serve an editor. -/
  | ideTools
deriving DecidableEq, Repr

instance : Enumerated GlobalSwitch :=
  .ofValues [.styleHint, .styleError, .styleUsages, .ideDebug, .listFullPaths]
    GlobalSwitch.ctorIdx (by intro value; cases value <;> rfl) (by decide) (by decide)

instance : Enumerated LocalSwitch :=
  .ofValues [.warnings, .hints]
    LocalSwitch.ctorIdx (by intro value; cases value <;> rfl) (by decide) (by decide)

instance : Enumerated Feature :=
  .ofValues [.strictNotNil, .strictFuncs, .views]
    Feature.ctorIdx (by intro value; cases value <;> rfl) (by decide) (by decide)

instance : Enumerated TraceFlag :=
  .ofValues [.vmTrace, .semTrace, .parserTrace, .codegenTrace]
    TraceFlag.ctorIdx (by intro value; cases value <;> rfl) (by decide) (by decide)

instance : Named GlobalSwitch where
  name
    | .styleHint => "StyleHint"
    | .styleError => "StyleError"
    | .styleUsages => "StyleUsages"
    | .ideDebug => "IdeDebug"
    | .listFullPaths => "ListFullPaths"

instance : Named LocalSwitch where
  name
    | .warnings => "Warnings"
    | .hints => "Hints"

instance : Named Feature where
  name
    | .strictNotNil => "StrictNotNil"
    | .strictFuncs => "StrictFuncs"
    | .views => "Views"

instance : Named TraceFlag where
  name
    | .vmTrace => "VmTrace"
    | .semTrace => "SemTrace"
    | .parserTrace => "ParserTrace"
    | .codegenTrace => "CodegenTrace"

instance : Named Task where
  name
    | .compile => "Compile"
    | .check => "Check"
    | .doc => "Doc"
    | .dump => "Dump"
    | .ideTools => "IdeTools"

/-! ## The state of all switches -/

/-- Which switches are on, and the command being run. -/
structure Options where
  globals : Selection GlobalSwitch
  locals : Selection LocalSwitch
  features : Selection Feature
  debug : Selection TraceFlag
  command : Task
deriving DecidableEq

namespace Options

/-- At the start warnings and hints are on, and everything else is off. -/
def initial : Options where
  globals := ∅
  locals := .ofList [.warnings, .hints]
  features := ∅
  debug := ∅
  command := .compile

/-- Hints may be shown at all. -/
def hintsOn (options : Options) : Bool :=
  options.locals.contains .hints

/-- Warnings may be shown at all. -/
def warningsOn (options : Options) : Bool :=
  options.locals.contains .warnings

/-- Style checks escalate to errors. -/
def styleFails (options : Options) : Bool :=
  options.globals.contains .styleError

/-- Style is checked, at hint or at error level. -/
def styleChecked (options : Options) : Bool :=
  options.globals.contains .styleHint || options.styleFails

/-- An editor is being served. -/
def servesEditor (options : Options) : Bool :=
  options.command == .ideTools

/-- Notes that are neither hints, warnings nor errors are held back while an editor is served,
unless editor debugging is on. -/
def mutesNotes (options : Options) : Bool :=
  options.servesEditor && !options.globals.contains .ideDebug

/-- Locations show absolute paths. -/
def fullPaths (options : Options) : Bool :=
  options.globals.contains .listFullPaths

/-- The switches as one line of text. -/
def debugText (options : Options) : String :=
  "Options \x7b global: " ++ options.globals.debugText ++
    ", local: " ++ options.locals.debugText ++
    ", features: " ++ options.features.debugText ++
    ", debug: " ++ options.debug.debugText ++
    ", command: " ++ Named.name options.command ++ " \x7d"

end Options

end Frontend
