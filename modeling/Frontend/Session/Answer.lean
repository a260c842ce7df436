import Frontend.Compilation.Cache
import Frontend.Compilation.Delivery

/-!
# Answers of a session

An answer holds domain values rather than text. The answer to a step that reports also lists the
reports that reached the hook while the step ran, each with the answers to the steps that the hook
ran for it.
-/

namespace Frontend

/-- How a kind is classified. -/
structure Classification where
  shown : Bool
  allowsHint : Bool
  allowsWarning : Bool
  severity : Severity
deriving DecidableEq, Repr

mutual

/-- The answer to one step. -/
inductive Answer where
  | done
  | flag (value : Bool)
  | number (value : Nat)
  | text (value : String)
  | optionalText (value : Option String)
  | texts (values : List String)
  | path (value : Option Path)
  | paths (values : List Path)
  | id (id : ReportId)
  | identified (id : ReportId) (report : Report)
  | inspected (report : Report)
  | postponed (report : Option Report)
  | ledger (written postponed : Nat) (context : List Frame)
  | balanced
  | counters (counters : Tally)
  | options (options : Options)
  | verbosity (level : Nat) (notes : NotePolicy)
  | assigned (accepted : Bool) (notes : NotePolicy)
  | sizes (notes : NotePolicy)
  | kinds (kinds : KindSet)
  | notes (notes : NotePolicy)
  | classified (classification : Classification)
  | classifiedAll (shown allowsHint allowsWarning escalated : List NoteKind)
  | classifiedReport (shown : Bool) (severity : Severity) (isError : Bool)
  | location (location : Location)
  | index (index : FileIndex)
  | lookedUp (index : Option FileIndex)
  | listing (table : SourceTable)
  | file (file : SourceFile)
  | digest (digest : Option (List UInt8))
  | notRegistered (error : SourceTable.LookupFailure)
  | registeredShared (index : FileIndex) (table : SourceTable)
  | lookedUpShared (index : Option FileIndex) (isEmpty : Bool)
  | resolver (resolver : Resolver)
  | found (path : Option Path) (lazyPaths : List Path)
  | imported (module : Option (Path × FileIndex))
  | symbol (value : Option String)
  | generated (file : Except CacheError Path) (directoryExists : Bool)
  | stat (entry : Option Entry)
  /-- A step that reported: how it ended, and what reached the hook. -/
  | reported (verdict : Verdict) (deliveries : List Delivery) (counters : Tally)
  /-- A step that handed a report to the hook directly. -/
  | delivered (directive : Directive) (deliveries : List Delivery) (counters : Tally)
  | inside (answers : List Answer) (depth : Nat)

/-- A report that reached the hook, and what the hook did if it ran steps. -/
inductive Delivery where
  | mk (notice : Notice) (nested : Option (List Answer))

end

namespace Delivery

/-- What the hook was shown. -/
def notice : Delivery → Notice
  | .mk notice _ => notice

/-- The answers to the steps that the hook ran. -/
def nested : Delivery → Option (List Answer)
  | .mk _ nested => nested

end Delivery

end Frontend
