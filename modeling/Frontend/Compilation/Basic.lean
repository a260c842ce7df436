import Frontend.Import.Search
import Frontend.Note.Policy
import Frontend.Note.Verbosity
import Frontend.Report.Ledger
import Frontend.Report.Outcome
import Frontend.Source.Table

/-!
# The state of a compilation

One value holds everything that outlives a phase of the front end: the note policy, the options, the
counters, the table of sources, the ledger of reports, the resolver of imports, and the symbols,
overrides and directories that were set. Every operation takes it and returns it.
-/

namespace Frontend

/-- Everything a compilation knows. -/
structure Compilation where
  manualUrl : String
  notes : NotePolicy
  options : Options
  counters : Tally
  sources : SourceTable
  ledger : Ledger
  resolver : Resolver
  /-- The defined symbols and their values. -/
  defines : Dictionary String String
  /-- The base names of overridden dynamic libraries. -/
  overriddenDylibs : List String
  /-- The macros whose expansion is to be shown. -/
  watchedMacros : List String
  /-- The procedures whose expanded memory management is to be shown. -/
  watchedArcs : List String
  chosenCacheDir : Option Path
  outputDir : Option Path
  verbosity : Nat

namespace Compilation

/-! ## Fixed values -/

/-- Where documentation is found unless another place is given. -/
def defaultManualUrl : String :=
  "https://nim-lang.org/docs"

/-- The version of the front end. -/
def version : String :=
  "0.1.0"

/-- The extension that source files have unless another is written. -/
def sourceExtension : String :=
  "nim"

/-- The subdirectories of the library that hold standard modules, in the order of search. -/
def standardDirs : List String :=
  [ "pure", "core", "arch", "pure/collections", "pure/concurrency", "pure/unidecode", "impure",
    "wrappers", "wrappers/linenoise", "windows", "posix", "js", "deprecated/pure" ]

/-- A text without the slashes at its end. -/
def withoutTrailingSlashes (text : String) : String :=
  String.ofList ((text.toList.reverse.dropWhile (· == '/')).reverse)

/-- A text without the slashes at its start. -/
def withoutLeadingSlashes (text : String) : String :=
  String.ofList (text.toList.dropWhile (· == '/'))

/-! ## Starting -/

/-- A compilation that has done nothing yet. -/
def initial (manualUrl : String) : Compilation where
  manualUrl := withoutTrailingSlashes manualUrl
  notes := .initial (Verbosity.preset Verbosity.defaultLevel) Verbosity.foreignPackage
  options := .initial
  counters := .initial
  sources := .empty
  ledger := .initial
  resolver := .initial standardDirs sourceExtension
  defines := .empty
  overriddenDylibs := []
  watchedMacros := []
  watchedArcs := []
  chosenCacheDir := none
  outputDir := none
  verbosity := Verbosity.defaultLevel

/-! ## Policy -/

/-- Changes the note policy. -/
def changeNotes (compilation : Compilation) (change : NotePolicy.Change) : Compilation :=
  { compilation with notes := compilation.notes.apply change }

/-- Switches to a verbosity level; levels above the highest saturate. -/
def switchVerbosity (compilation : Compilation) (level : Nat) : Compilation :=
  let level := min level Verbosity.maxLevel
  { compilation with
    verbosity := level
    notes := compilation.notes.adoptPreset (Verbosity.preset level) }

/-- Asks for the expansion of a macro to be shown. -/
def watchMacro (compilation : Compilation) (symbol : String) : Compilation :=
  { compilation with watchedMacros := symbol :: compilation.watchedMacros }

/-- Asks for the expanded memory management of a procedure to be shown. -/
def watchArc (compilation : Compilation) (symbol : String) : Compilation :=
  { compilation with watchedArcs := symbol :: compilation.watchedArcs }

/-- One operation on what decides which reports are shown. -/
inductive Adjustment where
  | notes (change : NotePolicy.Change)
  | verbosity (level : Nat)
  | options (change : Options → Options)
  | watchMacro (symbol : String)
  | watchArc (symbol : String)

/-- The compilation after one such operation. -/
def adjust (compilation : Compilation) : Adjustment → Compilation
  | .notes change => compilation.changeNotes change
  | .verbosity level => compilation.switchVerbosity level
  | .options change => { compilation with options := change compilation.options }
  | .watchMacro symbol => compilation.watchMacro symbol
  | .watchArc symbol => compilation.watchArc symbol

/-- The compilation after a list of such operations, first to last. -/
def adjustAll (compilation : Compilation) (adjustments : List Adjustment) : Compilation :=
  adjustments.foldl adjust compilation

/-! ## Sources and imports -/

/-- The text of a location, with absolute paths if the options ask for them. -/
def locationText (compilation : Compilation) (location : Location) : String :=
  compilation.sources.locationText location compilation.options.fullPaths

/-- Registers a source file, to be shown relative to the project. -/
def registerSource (compilation : Compilation) (path : Path) : FileIndex × Compilation :=
  let shown := path.relativeTo compilation.resolver.project
  let (index, sources) := compilation.sources.register path shown
  (index, { compilation with sources := sources })

/-- Resolves an import and registers the file that it names. -/
def importSource (compilation : Compilation) (tree : FileTree) (specifier : String)
    (importer : Path) : Option (Path × FileIndex) × Compilation :=
  let (found, resolver) := compilation.resolver.resolve tree specifier importer false
  let resolved := { compilation with resolver := resolver }
  match found with
  | none => (none, resolved)
  | some path =>
      let (index, registered) := resolved.registerSource path
      (some (path, index), registered)

/-! ## Symbols -/

/-- Defines a symbol, or gives it another value. -/
def define (compilation : Compilation) (name value : String) : Compilation :=
  { compilation with defines := compilation.defines.insert name value }

/-- Takes a symbol away, and says whether it was defined. -/
def undefine (compilation : Compilation) (name : String) : Bool × Compilation :=
  (compilation.defines.contains name,
    { compilation with defines := compilation.defines.erase name })

/-! ## Dynamic libraries -/

/-- The base name of a dynamic library: its file name without a leading `lib`, cut at the first
dot or parenthesis. -/
def dylibName (library : String) : String :=
  let file := ((Path.mk library).fileName?.getD library).toList
  let base := if ['l', 'i', 'b'].isPrefixOf file then file.drop 3 else file
  String.ofList (base.takeWhile fun c => c ≠ '(' && c ≠ ')' && c ≠ '.')

/-- Overrides a dynamic library. -/
def overrideDylib (compilation : Compilation) (library : String) : Compilation :=
  { compilation with overriddenDylibs := dylibName library :: compilation.overriddenDylibs }

/-- The dynamic library is overridden, under whatever file name. -/
def overridesDylib (compilation : Compilation) (library : String) : Bool :=
  compilation.overriddenDylibs.contains (dylibName library)

/-! ## Texts -/

/-- The address of a page of the documentation. -/
def pageUrl (compilation : Compilation) (page : String) : String :=
  compilation.manualUrl ++ "/" ++ withoutLeadingSlashes page

/-- The state in short, on one line. -/
def debugText (compilation : Compilation) (hookInstalled : Bool) : String :=
  "Config \x7b has_hook: " ++ toString hookInstalled ++
    ", options: " ++ compilation.options.debugText ++
    ", counters: " ++ compilation.counters.debugText ++
    ", verbosity: " ++ toString compilation.verbosity ++
    ", files: " ++ toString compilation.sources.size ++ ", .. \x7d"

end Compilation

end Frontend
