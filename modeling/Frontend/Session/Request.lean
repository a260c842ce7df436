import Frontend.Compilation.Basic

/-!
# What can be asked of a session

A session is a conversation with one compilation. Requests that neither report nor nest are sorted
by the part of the compilation they concern. A report is either written out in the request or was
saved under a name by an earlier one.
-/

namespace Frontend

/-- A report as a request names it. -/
inductive Draft where
  | saved (name : String)
  | made (report : Report)
deriving DecidableEq

/-- Requests about reports that deliver nothing. -/
inductive ReportRequest where
  | postpone (draft : Draft)
  /-- Identifies a report, and may save it. -/
  | identify (draft : Draft) (saveAs : Option String)
  /-- Shows a report, and may save it. -/
  | inspect (draft : Draft) (saveAs : Option String)
  /-- Shows the report kept under an id, and may save it. -/
  | postponed (id : ReportId) (saveAs : Option String)
  | isUnwritten (id : ReportId)
  | noteWritten (id : ReportId)
  /-- Shows how much has been written and postponed, and the open instantiations. -/
  | ledger
  | openFrame (frame : Frame) (token : String)
  | closeFrame (token : String)
  | requireBalanced
  | trail (draft : Draft)
  | counters
  | limitErrors (limit : Nat)
  | hookInstalled
  | watchMacro (symbol : String)
  | watchArc (symbol : String)
deriving DecidableEq

/-- A switch of the options. -/
inductive Switch where
  | globalOption (option : GlobalSwitch)
  | localOption (option : LocalSwitch)
  | feature (feature : Feature)
  | traceFlag (flag : TraceFlag)
deriving DecidableEq

/-- Requests about options, notes and classification. -/
inductive PolicyRequest where
  | switch (switch : Switch) (on : Bool)
  | command (command : Task)
  | switchVerbosity (level : Nat)
  | change (change : NotePolicy.Change)
  /-- Starts the note policy anew. -/
  | restart (shown foreign : KindSet)
  | contains (axis : Axis) (kind : NoteKind)
  | axis (axis : Axis)
  | notes
  | classify (kind : NoteKind)
  | classifyAll
  | classifyReport (draft : Draft)
deriving DecidableEq

/-- Requests about locations and source files. -/
inductive SourceRequest where
  | location (location : Location)
  /-- The text of a location; absolute paths are used as the options say unless `full` says. -/
  | locationText (location : Location) (full : Option Bool)
  | register (path : Path)
  /-- Registers a file with the path under which it is to be shown. -/
  | registerAs (path shown : Path)
  | indexOf (path : Path)
  | listing
  | file (index : FileIndex)
  | lines (index : FileIndex)
  | lineCount (index : FileIndex)
  | line (index : FileIndex) (number : Nat)
  | digest (index : FileIndex)
  | lineAt (location : Location)
  | digestAll
  | setBuffer (index : FileIndex) (content : Option String)
  | setDirty (index : FileIndex) (path : Option Path)
  /-- Lets the shared table begin as the table of the compilation. -/
  | share
  | registerShared (path shown : Path)
  | sharedIndexOf (path : Path)
deriving DecidableEq

/-- Requests about imports, packages and projects. -/
inductive ImportRequest where
  /-- Replaces the resolver by one to which nothing has been added. -/
  | restart (standardDirs : List String) (sourceExtension : String)
  | setLib (path : Path)
  | setProject (path : Path)
  | addSearch (path : Path)
  | addLazy (path : Path)
  | paths
  | overrideModule (package module : String) (replacement : Path)
  | resolve (specifier : String) (importer : Path) (outsideLibrary : Bool)
  | search (name : String) (outsideLibrary : Bool)
  | importSource (specifier : String) (importer : Path)
  | searchLibrary (name : String)
  | descriptorOf (path : Path)
  | packageOf (path : Path)
  | packageDirectoryOf (path : Path)
  | importPath (path : Path)
  | importName (path : Path)
  | discoverProject (directory : Path)
  | canonical (path : Path)
deriving DecidableEq

/-- Requests about symbols, libraries, the cache directory and texts about the compilation. -/
inductive SymbolRequest where
  | define (name value : String)
  | undefine (name : String)
  | symbol (name : String)
  | overrideDylib (library : String)
  | overridesDylib (library : String)
  | outputIn (path : Path)
  | cacheIn (path : Path)
  | cacheDirectory
  | generatedFile (name : String) (create : Bool)
  | dump
  | debug
  | pageUrl (page : String)
deriving DecidableEq

/-- Requests that change or show the file tree. -/
inductive TreeRequest where
  | write (path : Path) (content : List UInt8)
  | makeDirectories (path : Path)
  | link (path : Path) (target : String)
  | remove (path : Path)
  | stat (path : Path)
deriving DecidableEq

/-- A request that neither reports nor nests. -/
inductive Request where
  | report (request : ReportRequest)
  | policy (request : PolicyRequest)
  | source (request : SourceRequest)
  | imports (request : ImportRequest)
  | symbol (request : SymbolRequest)
  | tree (request : TreeRequest)
deriving DecidableEq

end Frontend
