import Frontend.Compilation.Dump
import Frontend.Import.Name
import Frontend.Import.Project
import Frontend.Session.Basic

/-!
# Answering requests

Each request is answered by the part of the session that it concerns, through the operations of that
part. Only requests about reports can fail, by misusing ids, tokens or saved names.
-/

namespace Frontend.Session

/-! ## Reports -/

/-- Answers a request about reports. -/
def answerReport (session : Session) : ReportRequest → Except Fault (Answer × Session)
  | .postpone draft => do
      let report ← session.reportOf draft
      let (id, ledger) ← session.compilation.ledger.postpone report
      pure (.id id, session.setLedger ledger)
  | .identify draft saveAs => do
      let report ← session.reportOf draft
      let (id, report, ledger) ← session.compilation.ledger.identify report
      pure (.identified id report, (session.setLedger ledger).save saveAs report)
  | .inspect draft saveAs => do
      let report ← session.reportOf draft
      pure (.inspected report, session.save saveAs report)
  | .postponed id saveAs =>
      match session.compilation.ledger.postponed? id with
      | none => pure (.postponed none, session)
      | some report => pure (.postponed (some report), session.save saveAs report)
  | .isUnwritten id => pure (.flag (session.compilation.ledger.isUnwritten id), session)
  | .noteWritten id =>
      let (wasNew, ledger) := session.compilation.ledger.noteWritten id
      pure (.flag wasNew, session.setLedger ledger)
  | .ledger =>
      let ledger := session.compilation.ledger
      pure (.ledger ledger.written.length ledger.postponed.size ledger.context, session)
  | .openFrame frame name =>
      let (token, ledger) := session.compilation.ledger.openFrame frame
      pure (.number ledger.context.length,
        { session.setLedger ledger with tokens := session.tokens.insert name token })
  | .closeFrame name =>
      match session.tokens.find? name with
      | none => throw (.nothingSaved name)
      | some token => do
          let ledger ← session.compilation.ledger.closeFrame token
          pure (.number ledger.context.length,
            { session.setLedger ledger with tokens := session.tokens.erase name })
  | .requireBalanced => do
      session.compilation.ledger.requireBalanced
      pure (.balanced, session)
  | .trail draft => do
      let report ← session.reportOf draft
      pure (.texts (session.compilation.trailTexts report), session)
  | .counters => pure (.counters session.compilation.counters, session)
  | .limitErrors limit =>
      let counters := session.compilation.counters.limitErrors limit
      pure (.counters counters,
        { session with compilation := { session.compilation with counters := counters } })
  | .hookInstalled => pure (.flag session.hook.isSome, session)
  | .watchMacro symbol =>
      pure (.done, { session with compilation := session.compilation.watchMacro symbol })
  | .watchArc symbol =>
      pure (.done, { session with compilation := session.compilation.watchArc symbol })

/-! ## Options, notes and classification -/

/-- Turns a switch on or off. -/
def turn (options : Options) (on : Bool) : Switch → Options
  | .globalOption option => { options with globals := options.globals.set option on }
  | .localOption option => { options with locals := options.locals.set option on }
  | .feature feature => { options with features := options.features.set feature on }
  | .traceFlag flag => { options with debug := options.debug.set flag on }

/-- Replaces the options. -/
def setOptions (session : Session) (options : Options) : Answer × Session :=
  (.options options,
    { session with compilation := { session.compilation with options := options } })

/-- Replaces the note policy. -/
def setNotes (session : Session) (notes : NotePolicy) : Session :=
  { session with compilation := { session.compilation with notes := notes } }

/-- The classification of a kind. -/
def classify (compilation : Compilation) (kind : NoteKind) : Classification where
  shown := compilation.showsKind kind
  allowsHint := compilation.allowsHint kind
  allowsWarning := compilation.allowsWarning kind
  severity := compilation.severityOf kind

/-- Answers a request about options, notes and classification. -/
def answerPolicy (session : Session) : PolicyRequest → Except Fault (Answer × Session)
  | .switch switch on => pure (session.setOptions (turn session.compilation.options on switch))
  | .command command =>
      pure (session.setOptions { session.compilation.options with command := command })
  | .switchVerbosity level =>
      let compilation := session.compilation.switchVerbosity level
      pure (.verbosity compilation.verbosity compilation.notes,
        { session with compilation := compilation })
  | .change (.assign axis kind shown) =>
      let (accepted, notes) := session.compilation.notes.assign axis kind shown
      pure (.assigned accepted notes, session.setNotes notes)
  | .change change =>
      let notes := session.compilation.notes.apply change
      pure (.sizes notes, session.setNotes notes)
  | .restart shown foreign =>
      let notes := NotePolicy.initial shown foreign
      pure (.sizes notes, session.setNotes notes)
  | .contains axis kind =>
      pure (.flag ((session.compilation.notes.get axis).contains kind), session)
  | .axis axis => pure (.kinds (session.compilation.notes.get axis), session)
  | .notes => pure (.notes session.compilation.notes, session)
  | .classify kind => pure (.classified (classify session.compilation kind), session)
  | .classifyAll =>
      let compilation := session.compilation
      let kinds := Enumerated.all NoteKind
      pure (.classifiedAll (kinds.filter compilation.showsKind)
        (kinds.filter compilation.allowsHint) (kinds.filter compilation.allowsWarning)
        (kinds.filter fun kind => compilation.severityOf kind ≠ kind.ownSeverity), session)
  | .classifyReport draft => do
      let report ← session.reportOf draft
      let compilation := session.compilation
      pure (.classifiedReport (compilation.shows report) (compilation.severity report)
        (compilation.isError report), session)

/-! ## Locations and source files -/

/-- Asks a file something that may change what is kept of it. -/
def askFile {α : Type} (session : Session) (index : FileIndex)
    (ask : SourceFile → α × SourceFile) (answer : α → Answer) : Answer × Session :=
  match session.compilation.sources.modifyGet? index ask with
  | some (value, sources) => (answer value, session.setSources sources)
  | none => (.notRegistered (.notRegistered index), session)

/-- Answers a request about locations and source files. -/
def answerSource (session : Session) : SourceRequest → Answer × Session
  | .location location => (.location location, session)
  | .locationText location full =>
      let full := full.getD session.compilation.options.fullPaths
      (.text (session.compilation.sources.locationText location full), session)
  | .register path =>
      let (index, compilation) := session.compilation.registerSource path
      (.index index, { session with compilation := compilation })
  | .registerAs path shown =>
      let (index, sources) := session.compilation.sources.register path shown
      (.index index, session.setSources sources)
  | .indexOf path => (.lookedUp (session.compilation.sources.indexOf? path), session)
  | .listing => (.listing session.compilation.sources, session)
  | .file index => session.askFile index (fun file => (file, file)) .file
  | .lines index => session.askFile index (·.lines session.tree) .texts
  | .lineCount index =>
      session.askFile index (·.lines session.tree) fun lines => .number lines.length
  | .line index number => session.askFile index (·.line session.tree number) .optionalText
  | .digest index => session.askFile index (·.digest session.tree) .digest
  | .lineAt location =>
      let (line, sources) := session.compilation.sources.lineAt session.tree location
      (.optionalText line, session.setSources sources)
  | .digestAll =>
      (.done, session.setSources (session.compilation.sources.digestAll session.tree))
  | .setBuffer index content =>
      let change (file : SourceFile) := (content, file.setBuffer content)
      session.askFile index change .optionalText
  | .setDirty index path =>
      let change (file : SourceFile) := ((file.setDirty path).readPath, file.setDirty path)
      session.askFile index change fun path => .path (some path)
  | .share =>
      let sources := session.compilation.sources
      (.number sources.size, { session with sharedSources := sources })
  | .registerShared path shown =>
      let (index, sources) := session.sharedSources.register path shown
      (.registeredShared index sources, { session with sharedSources := sources })
  | .sharedIndexOf path =>
      let table := session.sharedSources
      (.lookedUpShared (table.indexOf? path) (table.size == 0), session)

/-! ## Imports, packages and projects -/

/-- Replaces the resolver after a change of its paths, and shows one of them. -/
def afterPaths (session : Session) (resolver : Resolver) (shown : Resolver → Answer) :
    Answer × Session :=
  (shown resolver, session.setResolver resolver)

/-- Answers a request about imports, packages and projects. -/
def answerImport (session : Session) : ImportRequest → Answer × Session
  | .restart standardDirs sourceExtension =>
      session.afterPaths (.initial standardDirs sourceExtension) .resolver
  | .setLib path =>
      session.afterPaths (session.compilation.resolver.withLibrary session.tree path)
        fun resolver => .path (some resolver.library)
  | .setProject path =>
      session.afterPaths (session.compilation.resolver.withProject session.tree path)
        fun resolver => .path (some resolver.project)
  | .addSearch path =>
      session.afterPaths (session.compilation.resolver.withSearchPath session.tree path)
        fun resolver => .paths resolver.searchPaths
  | .addLazy path =>
      session.afterPaths (session.compilation.resolver.withLazyPath session.tree path)
        fun resolver => .paths resolver.lazyPaths
  | .paths => (.resolver session.compilation.resolver, session)
  | .overrideModule package module replacement =>
      session.afterPaths (session.compilation.resolver.withOverride package module replacement)
        fun _ => .done
  | .resolve specifier importer outsideLibrary =>
      let (found, resolver) :=
        session.compilation.resolver.resolve session.tree specifier importer outsideLibrary
      (.found found resolver.lazyPaths, session.setResolver resolver)
  | .search name outsideLibrary =>
      let (found, resolver) :=
        session.compilation.resolver.search session.tree name outsideLibrary
      (.found found resolver.lazyPaths, session.setResolver resolver)
  | .importSource specifier importer =>
      let (imported, compilation) :=
        session.compilation.importSource session.tree specifier importer
      (.imported imported, { session with compilation := compilation })
  | .searchLibrary name =>
      (.path (session.compilation.resolver.searchLibrary? session.tree name), session)
  | .descriptorOf path =>
      let (found, resolver) := session.compilation.resolver.descriptorOf session.tree path
      (.path found, session.setResolver resolver)
  | .packageOf path =>
      let (name, resolver) := session.compilation.resolver.packageOf session.tree path
      (.text name, session.setResolver resolver)
  | .packageDirectoryOf path =>
      let (root, resolver) := session.compilation.resolver.packageDirectoryOf session.tree path
      (.path root, session.setResolver resolver)
  | .importPath path =>
      (.path (session.compilation.resolver.importPath? path), session)
  | .importName path =>
      let (name, resolver) := session.compilation.resolver.importName session.tree path
      (.text name, session.setResolver resolver)
  | .discoverProject directory => (.path (Project.discover session.tree directory), session)
  | .canonical path => (.path (some (session.tree.canonicalOr path)), session)

/-! ## Symbols, libraries and the cache directory -/

/-- Shows the cache directory after a change. -/
def showCacheDirectory (session : Session) (compilation : Compilation) : Answer × Session :=
  (.path (some compilation.cacheDirectory), { session with compilation := compilation })

/-- Answers a request about symbols, libraries, the cache directory and texts. -/
def answerSymbol (session : Session) : SymbolRequest → Answer × Session
  | .define name value =>
      (.done, { session with compilation := session.compilation.define name value })
  | .undefine name =>
      let (wasDefined, compilation) := session.compilation.undefine name
      (.flag wasDefined, { session with compilation := compilation })
  | .symbol name => (.symbol (session.compilation.defines.find? name), session)
  | .overrideDylib library =>
      (.done, { session with compilation := session.compilation.overrideDylib library })
  | .overridesDylib library =>
      (.flag (session.compilation.overridesDylib library), session)
  | .outputIn path => session.showCacheDirectory { session.compilation with outputDir := some path }
  | .cacheIn path =>
      session.showCacheDirectory { session.compilation with chosenCacheDir := some path }
  | .cacheDirectory => session.showCacheDirectory session.compilation
  | .generatedFile name create =>
      let (file, tree) := session.compilation.generatedFile session.tree name create
      (.generated file (tree.isDirectory session.compilation.cacheDirectory),
        { session with tree := tree })
  | .dump => (.text session.compilation.dump, session)
  | .debug => (.text (session.compilation.debugText session.hook.isSome), session)
  | .pageUrl page => (.text (session.compilation.pageUrl page), session)

/-! ## The file tree -/

/-- The tree after a request that may change it. -/
def treeAfter (tree : FileTree) : TreeRequest → FileTree
  | .write path content => tree.write path content
  | .makeDirectories path => (tree.makeDirectories path).2
  | .link path target => tree.link path target
  | .remove path => tree.remove path
  | .stat _ => tree

/-- Answers a request about the file tree. -/
def answerTree (session : Session) (request : TreeRequest) : Answer × Session :=
  let session := { session with tree := treeAfter session.tree request }
  match request with
  | .stat path => (.stat (session.tree.find? path), session)
  | _ => (.done, session)

/-! ## All requests -/

/-- Answers a request. -/
def answer (session : Session) : Request → Except Fault (Answer × Session)
  | .report request => session.answerReport request
  | .policy request => session.answerPolicy request
  | .source request => pure (session.answerSource request)
  | .imports request => pure (session.answerImport request)
  | .symbol request => pure (session.answerSymbol request)
  | .tree request => pure (session.answerTree request)

end Frontend.Session
