import Frontend.Session.Admission
import Frontend.Session.Perform

/-!
# The books of a session

What a session knows about reports is its *books*: the ledger, the counters, and the tokens kept
under names. Of the many requests only six touch them. `Books.Turn` says how, request by request,
and `books_of_answer` that an answered request does nothing else to the books. Everything that is
proved of a session and its reports goes through this one relation.
-/

namespace Frontend

/-- What a session knows about reports. -/
structure Books where
  ledger : Ledger
  counters : Tally
  tokens : Dictionary String FrameToken

/-- The books of a session. -/
def Session.books (session : Session) : Books where
  ledger := session.compilation.ledger
  counters := session.compilation.counters
  tokens := session.tokens

/-- The request is none of those that touch the books. -/
def Request.KeepsBooks : Request → Prop
  | .report (.postpone _) | .report (.identify _ _) | .report (.noteWritten _)
  | .report (.openFrame _ _) | .report (.closeFrame _) | .report (.limitErrors _) => False
  | _ => True

/-- What a request does to the books. -/
inductive Books.Turn : Request → Books → Books → Prop where
  | postpone {draft} {books : Books} {report id ledger}
      (kept : books.ledger.postpone report = .ok (id, ledger)) :
      Turn (.report (.postpone draft)) books { books with ledger := ledger }
  | identify {draft saveAs} {books : Books} {report id identified ledger}
      (given : books.ledger.identify report = .ok (id, identified, ledger)) :
      Turn (.report (.identify draft saveAs)) books { books with ledger := ledger }
  | noteWritten {books} (id : ReportId) :
      Turn (.report (.noteWritten id)) books
        { books with ledger := (books.ledger.noteWritten id).2 }
  | openFrame {books} (frame : Frame) (name : String) :
      Turn (.report (.openFrame frame name)) books
        { books with
          ledger := (books.ledger.openFrame frame).2
          tokens := books.tokens.insert name (books.ledger.openFrame frame).1 }
  | closeFrame {books : Books} {name token ledger} (kept : books.tokens.find? name = some token)
      (closed : books.ledger.closeFrame token = .ok ledger) :
      Turn (.report (.closeFrame name)) books
        { books with ledger := ledger, tokens := books.tokens.erase name }
  | limitErrors {books} (limit : Nat) :
      Turn (.report (.limitErrors limit)) books
        { books with counters := books.counters.limitErrors limit }
  | keep {request books} (keeps : request.KeepsBooks) : Turn request books books

namespace Session

open Fault

variable {session after : Session} {answer : Answer}

@[simp]
theorem books_save (session : Session) (name : Option String) (report : Report) :
    (session.save name report).books = session.books := by
  cases name <;> rfl

/-! ## Requests -/

theorem books_of_answerReport {request : ReportRequest}
    (answered : session.answerReport request = .ok (answer, after)) :
    Books.Turn (.report request) session.books after.books := by
  cases request with
  | postpone draft =>
      simp only [answerReport, bind_eq_ok, pure_eq_ok, Prod.mk.injEq] at answered
      obtain ⟨report, -, ⟨id, ledger⟩, kept, -, rfl⟩ := answered
      exact .postpone kept
  | identify draft saveAs =>
      simp only [answerReport, bind_eq_ok, pure_eq_ok, Prod.mk.injEq] at answered
      obtain ⟨report, -, ⟨id, identified, ledger⟩, given, -, rfl⟩ := answered
      rw [books_save]
      exact .identify given
  | inspect draft saveAs =>
      simp only [answerReport, bind_eq_ok, pure_eq_ok, Prod.mk.injEq] at answered
      obtain ⟨report, -, -, rfl⟩ := answered
      rw [books_save]
      exact .keep trivial
  | postponed id saveAs =>
      simp only [answerReport] at answered
      split at answered
      · cases pure_eq_ok.mp answered
        exact .keep trivial
      · cases pure_eq_ok.mp answered
        rw [books_save]
        exact .keep trivial
  | noteWritten id =>
      cases pure_eq_ok.mp answered
      exact .noteWritten id
  | openFrame frame name =>
      cases pure_eq_ok.mp answered
      exact .openFrame frame name
  | closeFrame name =>
      simp only [answerReport] at answered
      split at answered
      · exact absurd answered throw_ne_ok
      · rename_i token kept
        simp only [bind_eq_ok, pure_eq_ok, Prod.mk.injEq] at answered
        obtain ⟨ledger, closed, -, rfl⟩ := answered
        exact .closeFrame kept closed
  | limitErrors limit =>
      cases pure_eq_ok.mp answered
      exact .limitErrors limit
  | requireBalanced =>
      simp only [answerReport, bind_eq_ok, pure_eq_ok, Prod.mk.injEq] at answered
      obtain ⟨-, -, -, rfl⟩ := answered
      exact .keep trivial
  | trail draft =>
      simp only [answerReport, bind_eq_ok, pure_eq_ok, Prod.mk.injEq] at answered
      obtain ⟨report, -, -, rfl⟩ := answered
      exact .keep trivial
  | isUnwritten | ledger | counters | hookInstalled | watchMacro | watchArc =>
      cases pure_eq_ok.mp answered
      exact .keep trivial

/-- What a session has of reports: the books, and the reports that are saved under names. -/
def reportState (session : Session) : Books × Dictionary String Report :=
  (session.books, session.savedReports)

theorem reportState_of_answerPolicy {request : PolicyRequest}
    (answered : session.answerPolicy request = .ok (answer, after)) :
    after.reportState = session.reportState := by
  cases request with
  | change change =>
      cases change <;>
      · cases pure_eq_ok.mp answered
        rfl
  | classifyReport draft =>
      simp only [answerPolicy, bind_eq_ok, pure_eq_ok, Prod.mk.injEq] at answered
      obtain ⟨report, -, -, rfl⟩ := answered
      rfl
  | switch | command | switchVerbosity | restart | contains | axis | notes | classify
  | classifyAll =>
      cases pure_eq_ok.mp answered
      rfl

theorem reportState_askFile {α : Type} (session : Session) (index : FileIndex)
    (ask : SourceFile → α × SourceFile) (answer : α → Answer) :
    (session.askFile index ask answer).2.reportState = session.reportState := by
  unfold askFile
  split <;> rfl

theorem reportState_answerSource (session : Session) (request : SourceRequest) :
    (session.answerSource request).2.reportState = session.reportState := by
  cases request with
  | file | lines | lineCount | line | digest | setBuffer | setDirty =>
      exact reportState_askFile ..
  | location | locationText | register | registerAs | indexOf | listing | lineAt | digestAll
  | share | registerShared | sharedIndexOf => rfl

/-- An import finds and registers a file, and has nothing to do with reports. -/
theorem importSource_keeps (compilation : Compilation) (tree : FileTree) (specifier : String)
    (importer : Path) :
    (compilation.importSource tree specifier importer).2.ledger = compilation.ledger ∧
      (compilation.importSource tree specifier importer).2.counters = compilation.counters := by
  rw [Compilation.importSource]
  rcases compilation.resolver.resolve tree specifier importer false with ⟨found, resolver⟩
  cases found with
  | none => exact ⟨rfl, rfl⟩
  | some path => exact ⟨rfl, rfl⟩

theorem reportState_setResolver (session : Session) (resolver : Resolver) :
    (session.setResolver resolver).reportState = session.reportState := by
  rfl

theorem reportState_answerImport (session : Session) (request : ImportRequest) :
    (session.answerImport request).2.reportState = session.reportState := by
  cases request with
  | importSource specifier importer =>
      obtain ⟨ledger, counters⟩ :=
        importSource_keeps session.compilation session.tree specifier importer
      simp only [answerImport, reportState, books, ledger, counters]
  -- Only the state after the search counts here; with `rfl` alone one would look into the search.
  | resolve | search | descriptorOf | packageOf | packageDirectoryOf | importName =>
      simp only [answerImport, reportState_setResolver]
  | restart | setLib | setProject | addSearch | addLazy | paths | overrideModule | searchLibrary
  | importPath | discoverProject | canonical => rfl

theorem reportState_answerSymbol (session : Session) (request : SymbolRequest) :
    (session.answerSymbol request).2.reportState = session.reportState := by
  cases request <;> rfl

theorem reportState_answerTree (session : Session) (request : TreeRequest) :
    (session.answerTree request).2.reportState = session.reportState := by
  cases request <;> rfl

/-- Only requests about reports change anything of what a session has of reports. -/
theorem reportState_of_answer {request : Request}
    (answered : session.answer request = .ok (answer, after))
    (other : ∀ about, request ≠ .report about) : after.reportState = session.reportState := by
  cases request with
  | report about => exact absurd rfl (other about)
  | policy request => exact reportState_of_answerPolicy answered
  | source request =>
      have changed : (session.answerSource request).2 = after :=
        congrArg Prod.snd (pure_eq_ok.mp answered)
      rw [← changed, reportState_answerSource]
  | imports request =>
      have changed : (session.answerImport request).2 = after :=
        congrArg Prod.snd (pure_eq_ok.mp answered)
      rw [← changed, reportState_answerImport]
  | symbol request =>
      have changed : (session.answerSymbol request).2 = after :=
        congrArg Prod.snd (pure_eq_ok.mp answered)
      rw [← changed, reportState_answerSymbol]
  | tree request =>
      have changed : (session.answerTree request).2 = after :=
        congrArg Prod.snd (pure_eq_ok.mp answered)
      rw [← changed, reportState_answerTree]

/-- An answered request turns the books as `Books.Turn` says. -/
theorem books_of_answer {request : Request}
    (answered : session.answer request = .ok (answer, after)) :
    Books.Turn request session.books after.books := by
  by_cases about : ∃ reports, request = .report reports
  · obtain ⟨reports, rfl⟩ := about
    exact books_of_answerReport answered
  · have other : ∀ reports, request ≠ .report reports := fun reports same => about ⟨reports, same⟩
    have same : after.books = session.books :=
      congrArg Prod.fst (reportState_of_answer answered other)
    rw [same]
    cases request with
    | report reports => exact absurd rfl (other reports)
    | policy | source | imports | symbol | tree => exact .keep trivial

end Session

/-! ## Calls that report -/

/-- The second ledger differs from the first at most in the ids that it has handed out. -/
structure Ledger.Continues (ledger later : Ledger) : Prop where
  postponed : later.postponed = ledger.postponed
  written : later.written = ledger.written
  context : later.context = ledger.context

theorem Ledger.Continues.isUnwritten {ledger later : Ledger} (continues : ledger.Continues later)
    (id : ReportId) : later.isUnwritten id = ledger.isUnwritten id := by
  rw [Ledger.isUnwritten, continues.written, Ledger.isUnwritten]

theorem Ledger.continues_identified (ledger : Ledger) (report : Report) :
    ledger.Continues (ledger.identified report).2.2 :=
  ⟨ledger.identified_postponed report, ledger.identified_written report,
    ledger.identified_context report⟩

theorem Ledger.continues_identify {ledger later : Ledger} {report identified : Report}
    {id : ReportId} (given : ledger.identify report = .ok (id, identified, later)) :
    ledger.Continues later ∧ identified.id = some id := by
  obtain ⟨-, same⟩ := identify_eq_ok.mp given
  have continues := ledger.continues_identified report
  have carries := ledger.identified_report_id report
  rw [same] at continues carries
  exact ⟨continues, carries⟩

/-- The report that is marked as written, if any. -/
def Admission.report? : Admission → Option Report
  | .repeated => none
  | .suppressed report => some report
  | .shown pending => some pending.report

/-- What receiving a call does to the books: at most an id is handed out and a report is marked as
written that has not been written before. -/
inductive Books.Receipt : Admission → Books → Books → Prop where
  | repeated {books : Books} {ledger} (continues : books.ledger.Continues ledger) :
      Receipt .repeated books { books with ledger := ledger }
  | accepted {admission : Admission} {books : Books} {ledger id report}
      (continues : books.ledger.Continues ledger) (about : admission.report? = some report)
      (carries : report.id = some id ∨ books.ledger.postponed? id = some report)
      (unwritten : books.ledger.isUnwritten id = true) :
      Receipt admission books { books with ledger := (ledger.noteWritten id).2 }

namespace Session

open Fault

variable {session after : Session} {call : Call} {admission : Admission} {pending : Pending}

theorem report?_accept (session : Session) (id : ReportId) (report : Report) (handling : OnError) :
    (session.accept id report handling).1.report? = some report := by
  unfold accept
  rcases session.compilation.accept id report with ⟨severity, compilation⟩
  cases severity <;> rfl

/-- Accepting a report that has just been identified completes its receipt. -/
theorem receipt_of_accept {books : Books} {ledger : Ledger} {id : ReportId} {report : Report}
    {handling : OnError} (accepted : session.accept id report handling = (admission, after))
    (identified : session.books = { books with ledger := ledger })
    (continues : books.ledger.Continues ledger)
    (carries : report.id = some id ∨ books.ledger.postponed? id = some report)
    (unwritten : books.ledger.isUnwritten id = true) :
    Books.Receipt admission books after.books := by
  have about := session.report?_accept id report handling
  have written : (session.accept id report handling).2.books =
      { session.books with ledger := (session.books.ledger.noteWritten id).2 } := rfl
  rw [accepted] at about written
  rw [written, identified]
  exact .accepted continues about carries unwritten

theorem books_of_receive (received : session.receive call = .ok (admission, after)) :
    Books.Receipt admission session.books after.books := by
  cases call with
  | report report handling =>
      simp only [receive, bind_eq_ok] at received
      obtain ⟨-, -, ⟨id, identified, ledger⟩, given, received⟩ := received
      obtain ⟨continues, carries⟩ := Ledger.continues_identify given
      split at received
      · rename_i unwritten
        refine receipt_of_accept (pure_eq_ok.mp received) rfl continues (Or.inl carries) ?_
        exact (continues.isUnwritten _).symm.trans unwritten
      · cases pure_eq_ok.mp received
        exact .repeated continues
  | replay id handling =>
      simp only [receive] at received
      split at received
      · rename_i unwritten
        split at received
        · exact absurd received throw_ne_ok
        · rename_i report found
          obtain ⟨-, -, received⟩ := bind_eq_ok.mp received
          exact receipt_of_accept (pure_eq_ok.mp received) rfl ⟨rfl, rfl, rfl⟩ (Or.inr found)
            unwritten
      · cases pure_eq_ok.mp received
        exact .repeated ⟨rfl, rfl, rfl⟩

/-- A report goes to the hook with the severity that it has in the state which the hook finds. -/
theorem severity_of_accept {id : ReportId} {report : Report} {handling : OnError}
    (accepted : session.accept id report handling = (.shown pending, after)) :
    pending.severity = after.compilation.severity pending.report := by
  simp only [accept, Compilation.accept, Prod.mk.injEq] at accepted
  obtain ⟨shown, rfl⟩ := accepted
  split at shown
  · cases shown
  · rename_i severity fixed
    cases shown
    split at fixed
    · exact (Option.some.inj fixed).symm
    · cases fixed

theorem severity_of_receive (received : session.receive call = .ok (.shown pending, after)) :
    pending.severity = after.compilation.severity pending.report := by
  cases call with
  | report report handling =>
      simp only [receive, bind_eq_ok] at received
      obtain ⟨-, -, _, -, received⟩ := received
      split at received
      · exact severity_of_accept (pure_eq_ok.mp received)
      · cases pure_eq_ok.mp received
  | replay id handling =>
      simp only [receive] at received
      split at received
      · split at received
        · exact absurd received throw_ne_ok
        · obtain ⟨-, -, received⟩ := bind_eq_ok.mp received
          exact severity_of_accept (pure_eq_ok.mp received)
      · cases pure_eq_ok.mp received

end Session

end Frontend
