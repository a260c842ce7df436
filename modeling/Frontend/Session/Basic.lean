import Frontend.Session.Answer
import Frontend.Session.Step

/-!
# The state of a session

Besides the compilation and the file tree a session holds the installed hook, what was saved under
names, a second table of sources that workers share, and the reports that have reached the hook
during the step that is running.
-/

namespace Frontend

/-- The state of a session. -/
structure Session where
  compilation : Compilation
  tree : FileTree
  hook : Option Hook
  savedReports : Dictionary String Report
  tokens : Dictionary String FrameToken
  sharedSources : SourceTable
  deliveries : List Delivery

namespace Session

/-- A session in which nothing has happened. -/
def initial (tree : FileTree) (manualUrl : String) (hook : Option Hook) : Session where
  compilation := .initial manualUrl
  tree := tree
  hook := hook
  savedReports := .empty
  tokens := .empty
  sharedSources := .empty
  deliveries := []

/-- Saves a report under a name, if one is given. -/
def save (session : Session) (name : Option String) (report : Report) : Session :=
  match name with
  | none => session
  | some name => { session with savedReports := session.savedReports.insert name report }

/-- The report that a draft stands for. -/
def reportOf (session : Session) : Draft → Except Fault Report
  | .made report => .ok report
  | .saved name =>
      match session.savedReports.find? name with
      | some report => .ok report
      | none => .error (.nothingSaved name)

/-- Replaces the ledger. -/
def setLedger (session : Session) (ledger : Ledger) : Session :=
  { session with compilation := { session.compilation with ledger := ledger } }

/-- Replaces the sources. -/
def setSources (session : Session) (sources : SourceTable) : Session :=
  { session with compilation := { session.compilation with sources := sources } }

/-- Replaces the resolver. -/
def setResolver (session : Session) (resolver : Resolver) : Session :=
  { session with compilation := { session.compilation with resolver := resolver } }

end Session

end Frontend
