import Frontend.Proofs.Session.Books
import Frontend.Proofs.Session.Course

/-!
# Instantiations nest

Closing an instantiation compares nothing but a number of frames. That it still takes away the right
frame is a matter of all tokens together: no two live tokens have the same depth, and each marks the
frame that was pushed with it. A token is live as long as it is kept under a name, or belongs to an
instantiation that steps are run inside. What is opened first can be closed only when everything
above it is gone, so the frames up to a live token never change, whatever is done above them.
-/

namespace Frontend

/-! ## Live tokens -/

/-- Where a live token is: kept under a name, or with the activity that has so many activities
around it. -/
inductive Holder where
  | name (name : String)
  | activity (level : Nat)
deriving DecidableEq

/-- The token of an instantiation that steps are run inside. -/
def Activity.token? : Activity → Option FrameToken
  | .inside _ token => some token
  | .dispatched _ | .direct _ => none

/-- The frame of an instantiation that steps are run inside. -/
def Activity.frame? : Activity → Option Frame
  | .inside frame _ => some frame
  | .dispatched _ | .direct _ => none

/-- The frame that is pushed when a token is put under the name. -/
def Event.opened? (name : String) : Event → Option Frame
  | .asked (.report (.openFrame frame given)) => if given = name then some frame else none
  | _ => none

/-- The open frames, and the live tokens with the frames that were pushed with them. -/
structure Instantiations where
  context : List Frame
  token? : Holder → Option FrameToken
  pushed? : Holder → Option Frame

/-- What is open according to the books, the activities, and the events so far. The token under a
name belongs to the frame that was pushed under it last. -/
def Instantiations.of (books : Books) (activities : List Activity) (log : List Event) :
    Instantiations where
  context := books.ledger.context
  token?
    | .name name => books.tokens.find? name
    | .activity level => activities.reverse[level]?.bind Activity.token?
  pushed?
    | .name name => log.findSome? (Event.opened? name)
    | .activity level => activities.reverse[level]?.bind Activity.frame?

/-- What is open at a moment. -/
def Moment.instantiations (now : Moment) (log : List Event) : Instantiations :=
  .of now.session.books now.activities log

namespace Instantiations

variable {before after : Instantiations}

/-- Whatever token the holder has, it had before, pushed with the same frame. -/
def Keeps (before after : Instantiations) (holder : Holder) : Prop :=
  ∀ {token}, after.token? holder = some token →
    before.token? holder = some token ∧ after.pushed? holder = before.pushed? holder

/-- One change of what is open: tokens may be dropped, an instantiation is opened, or the innermost
one is closed with its token. -/
inductive Shift (before after : Instantiations) : Prop where
  | keep (context : after.context = before.context) (kept : ∀ holder, before.Keeps after holder)
  | opened (holder : Holder) (frame : Frame) (context : after.context = before.context ++ [frame])
      (token : after.token? holder = some ⟨before.context.length + 1⟩)
      (pushed : after.pushed? holder = some frame)
      (others : ∀ other ≠ holder, before.Keeps after other)
  | closed (holder : Holder) (token : FrameToken) (held : before.token? holder = some token)
      (innermost : before.context.length = token.depth)
      (context : after.context = before.context.dropLast)
      (dropped : after.token? holder = none) (others : ∀ other, before.Keeps after other)

/-! ## Tokens mark their frames -/

/-- Live tokens mark different frames, each the one that was pushed with it. -/
structure Disciplined (instantiations : Instantiations) : Prop where
  positive : ∀ {holder token}, instantiations.token? holder = some token → 1 ≤ token.depth
  within : ∀ {holder token}, instantiations.token? holder = some token →
    token.depth ≤ instantiations.context.length
  own : ∀ {holder token}, instantiations.token? holder = some token →
    instantiations.context[token.depth - 1]? = instantiations.pushed? holder
  distinct : ∀ {holder other first second}, instantiations.token? holder = some first →
    instantiations.token? other = some second → first.depth = second.depth → holder = other

/-- A new token lies above all frames, so that it is another than every token from before. -/
theorem Disciplined.opened (disciplined : before.Disciplined) {holder : Holder} {frame : Frame}
    (context : after.context = before.context ++ [frame])
    (new : after.token? holder = some ⟨before.context.length + 1⟩)
    (pushed : after.pushed? holder = some frame)
    (others : ∀ other ≠ holder, before.Keeps after other) : after.Disciplined := by
  have length : after.context.length = before.context.length + 1 := by
    rw [context, List.length_append, List.length_singleton]
  have above : ∀ {token}, after.token? holder = some token →
      token.depth = before.context.length + 1 := by
    intro token held
    rw [new] at held
    cases held
    rfl
  have below : ∀ {other token}, other ≠ holder → after.token? other = some token →
      token.depth ≤ before.context.length := by
    intro other token differs held
    exact disciplined.within (others other differs held).1
  have new_iff : ∀ {other token}, after.token? other = some token →
      (other = holder ↔ token.depth = before.context.length + 1) := by
    intro other token held
    by_cases same : other = holder
    · subst same
      simp [above held]
    · have least := below same held
      simp only [same, false_iff]
      omega
  constructor
  · intro other token held
    by_cases same : other = holder
    · rw [(new_iff held).mp same]
      exact Nat.le_add_left 1 _
    · exact disciplined.positive (others other same held).1
  · intro other token held
    rw [length]
    by_cases same : other = holder
    · exact Nat.le_of_eq ((new_iff held).mp same)
    · exact Nat.le_succ_of_le (below same held)
  · intro other token held
    rw [context]
    by_cases same : other = holder
    · rw [(new_iff held).mp same, same, pushed, Nat.add_sub_cancel, List.getElem?_concat_length]
    · obtain ⟨heldBefore, pushedBefore⟩ := others other same held
      have positive := disciplined.positive heldBefore
      have least := below same held
      rw [List.getElem?_append_left (by omega), disciplined.own heldBefore, pushedBefore]
  · intro first second firstToken secondToken firstHeld secondHeld sameDepth
    by_cases firstNew : first = holder
    · have secondNew : second = holder := by
        rw [new_iff secondHeld, ← sameDepth]
        exact (new_iff firstHeld).mp firstNew
      rw [firstNew, secondNew]
    · have secondOld : second ≠ holder := by
        rw [Ne, new_iff secondHeld, ← sameDepth]
        exact mt (new_iff firstHeld).mpr firstNew
      exact disciplined.distinct (others first firstNew firstHeld).1
        (others second secondOld secondHeld).1 sameDepth

/-- When the innermost frame goes with its token, every other token marks a frame below it. -/
theorem Disciplined.closed (disciplined : before.Disciplined) {holder : Holder} {token : FrameToken}
    (held : before.token? holder = some token) (innermost : before.context.length = token.depth)
    (context : after.context = before.context.dropLast) (dropped : after.token? holder = none)
    (others : ∀ other, before.Keeps after other) : after.Disciplined := by
  have below : ∀ {other kept}, after.token? other = some kept →
      kept.depth < before.context.length := by
    intro other kept keptHeld
    have keptBefore := (others other keptHeld).1
    have within := disciplined.within keptBefore
    rcases Nat.lt_or_eq_of_le within with
      less |
      equal
    · exact less
    · have same := disciplined.distinct keptBefore held (equal.trans innermost)
      rw [same, dropped] at keptHeld
      cases keptHeld
  constructor
  · intro other kept keptHeld
    exact disciplined.positive (others other keptHeld).1
  · intro other kept keptHeld
    have less := below keptHeld
    rw [context, List.length_dropLast]
    omega
  · intro other kept keptHeld
    obtain ⟨keptBefore, pushedBefore⟩ := others other keptHeld
    have less := below keptHeld
    have positive := disciplined.positive keptBefore
    rw [context, List.getElem?_dropLast, if_pos (by omega), disciplined.own keptBefore,
      pushedBefore]
  · intro first second firstToken secondToken firstHeld secondHeld
    exact disciplined.distinct (others first firstHeld).1 (others second secondHeld).1

theorem Shift.disciplined (shift : Shift before after) (disciplined : before.Disciplined) :
    after.Disciplined := by
  cases shift with
  | keep context kept =>
      constructor
      · intro holder token held
        exact disciplined.positive (kept holder held).1
      · intro holder token held
        rw [context]
        exact disciplined.within (kept holder held).1
      · intro holder token held
        rw [context, (kept holder held).2]
        exact disciplined.own (kept holder held).1
      · intro first second firstToken secondToken firstHeld secondHeld
        exact disciplined.distinct (kept first firstHeld).1 (kept second secondHeld).1
  | opened holder frame context token pushed others =>
      exact disciplined.opened context token pushed others
  | closed holder token held innermost context dropped others =>
      exact disciplined.closed held innermost context dropped others

/-! ## Frames below a token stay -/

/-- The frames are those of `base` and more, and no live token marks the last frame of `base`. -/
structure Above (base : List Frame) (instantiations : Instantiations) : Prop where
  grown : base <+: instantiations.context
  foreign : ∀ {holder token}, instantiations.token? holder = some token →
    token.depth ≠ base.length

/-- Only the innermost frame can be closed, and not the last one of `base`. -/
theorem Shift.above {base : List Frame} (shift : Shift before after) (above : before.Above base) :
    after.Above base := by
  have length := above.grown.length_le
  cases shift with
  | keep context kept =>
      constructor
      · rw [context]
        exact above.grown
      · intro holder token held
        exact above.foreign (kept holder held).1
  | opened holder frame context new pushed others =>
      constructor
      · rw [context]
        exact above.grown.trans (List.prefix_append _ _)
      · intro other token held
        by_cases same : other = holder
        · rw [same, new] at held
          cases held
          exact Nat.ne_of_gt (Nat.lt_succ_of_le length)
        · exact above.foreign (others other same held).1
  | closed holder token held innermost context dropped others =>
      have foreign := above.foreign held
      constructor
      · rw [context]
        apply List.prefix_of_prefix_length_le above.grown (List.dropLast_prefix _)
        rw [List.length_dropLast]
        omega
      · intro other kept keptHeld
        exact above.foreign (others other keptHeld).1

end Instantiations

/-! ## What is open follows the moves -/

open Instantiations

section

variable {books later : Books} {activities : List Activity} {log : List Event}

/-- Books with the same frames and tokens keep everything open that is, as long as no activity with
a token begins and nothing is put under a name. -/
theorem Instantiations.Shift.of_eq {event : Event} {begun : List Activity}
    (context : later.ledger.context = books.ledger.context) (tokens : later.tokens = books.tokens)
    (names : ∀ name, event.opened? name = none)
    (levels : ∀ (level : Nat) token, begun.reverse[level]?.bind Activity.token? = some token →
      begun.reverse[level]? = activities.reverse[level]?) :
    Shift (.of books activities log) (.of later begun (event :: log)) := by
  apply Shift.keep context
  rintro (name | level) token held
  · refine ⟨?_, ?_⟩
    · simpa [of, tokens] using held
    · simp [of, names]
  · have same := levels level token held
    simp only [of] at held ⊢
    rw [same] at held ⊢
    exact ⟨held, rfl⟩

theorem Books.Turn.instantiations {request : Request} (turn : Books.Turn request books later) :
    Shift (.of books activities log) (.of later activities (.asked request :: log)) := by
  have kept : ∀ {request : Request} {later : Books},
      later.ledger.context = books.ledger.context → later.tokens = books.tokens →
        (∀ name, (Event.asked request).opened? name = none) →
          Shift (.of books activities log) (.of later activities (.asked request :: log)) := by
    intro request later context tokens names
    exact Shift.of_eq context tokens names (fun level token held => rfl)
  cases turn with
  | postpone postponed =>
      obtain ⟨-, -, rfl⟩ := Ledger.postpone_eq_ok.mp postponed
      exact kept (books.ledger.identified_context _) rfl (fun name => rfl)
  | identify given =>
      exact kept (Ledger.continues_identify given).1.context rfl (fun name => rfl)
  | noteWritten id => exact kept (books.ledger.noteWritten_context id) rfl (fun name => rfl)
  | limitErrors limit => exact kept rfl rfl (fun name => rfl)
  | keep keeps =>
      apply kept rfl rfl
      intro name
      unfold Event.opened?
      split
      · rename_i asks
        cases asks
        exact keeps.elim
      · rfl
  | openFrame frame name =>
      apply Shift.opened (.name name) frame rfl
      · simp [of, Ledger.openFrame]
      · simp [of, Event.opened?]
      · rintro (other | level) differs token held
        · have differs : name ≠ other := fun same => differs (same ▸ rfl)
          simpa [of, Event.opened?, differs] using held
        · exact ⟨held, rfl⟩
  | @closeFrame _ name token ledger held closed =>
      obtain ⟨innermost, rfl⟩ := Ledger.closeFrame_eq_ok.mp closed
      apply Shift.closed (.name name) token held innermost rfl
      · simp [of]
      · rintro (other | level) kept keptHeld
        · simp only [of, Dictionary.find?_erase] at keptHeld ⊢
          split at keptHeld
          · cases keptHeld
          · exact ⟨keptHeld, rfl⟩
        · exact ⟨keptHeld, rfl⟩

theorem Books.Receipt.keepsFrames {admission : Admission}
    (receipt : Books.Receipt admission books later) :
    later.ledger.context = books.ledger.context ∧ later.tokens = books.tokens := by
  cases receipt with
  | repeated continues => exact ⟨continues.context, rfl⟩
  | accepted continues about carries unwritten =>
      exact ⟨(Ledger.noteWritten_context _ _).trans continues.context, rfl⟩

/-- The activity that began last has the highest level. -/
theorem Activity.level_cons (activity : Activity) (activities : List Activity) (level : Nat) :
    (activity :: activities).reverse[level]? =
      if level = activities.length then some activity else activities.reverse[level]? := by
  rw [List.reverse_cons, List.getElem?_append]
  simp only [List.length_reverse, List.getElem?_singleton]
  split
  · rw [if_neg (by omega)]
  · rename_i notBelow
    rw [List.getElem?_eq_none (by simpa using notBelow)]
    simp only [Nat.sub_eq_zero_iff_le]
    split
    · rw [if_pos (by omega)]
    · rw [if_neg (by omega)]

/-- When an activity without a token begins or ends, nothing is opened or closed. -/
theorem Activity.keeps_levels {activity : Activity} (plain : activity.token? = none)
    (activities : List Activity) (level : Nat) {token : FrameToken} :
    ((activity :: activities).reverse[level]?.bind Activity.token? = some token →
        (activity :: activities).reverse[level]? = activities.reverse[level]?) ∧
      (activities.reverse[level]?.bind Activity.token? = some token →
        activities.reverse[level]? = (activity :: activities).reverse[level]?) := by
  rw [Activity.level_cons]
  by_cases last : level = activities.length
  · subst last
    simp [plain]
  · simp [last]

end

theorem Move.instantiations {now next : Moment} {event : Event} (move : Move now event next)
    (log : List Event) : Shift (now.instantiations log) (next.instantiations (event :: log)) := by
  cases move with
  | ask answered => exact (Session.books_of_answer answered).instantiations
  | install | collect => exact .of_eq rfl rfl (fun name => rfl) (fun level token held => rfl)
  | pass received hidden =>
      obtain ⟨context, tokens⟩ := (Session.books_of_receive received).keepsFrames
      exact .of_eq context tokens (fun name => rfl) (fun level token held => rfl)
  | @hand session after call pending hook activities received installed =>
      obtain ⟨context, tokens⟩ := (Session.books_of_receive received).keepsFrames
      exact .of_eq context tokens (fun name => rfl)
        (fun level token => (Activity.keeps_levels rfl activities level).1)
  | settle session activities pending directive =>
      have same := session.compilation.settle_ledger pending.severity directive pending.handling
      exact .of_eq (congrArg Ledger.context same) rfl (fun name => rfl)
        (fun level token => (Activity.keeps_levels rfl activities level).2)
  | deliver activities report kind installed =>
      exact .of_eq rfl rfl (fun name => rfl)
        (fun level token => (Activity.keeps_levels rfl activities level).1)
  | resume session activities report =>
      exact .of_eq rfl rfl (fun name => rfl)
        (fun level token => (Activity.keeps_levels rfl activities level).2)
  | enter session activities frame =>
      apply Shift.opened (.activity activities.length) frame rfl
      · simp [Moment.instantiations, of, Activity.token?, Ledger.openFrame, Session.books]
      · simp [Moment.instantiations, of, Activity.frame?]
      · rintro (name | level) differs token held
        · exact ⟨held, rfl⟩
        · have differs : level ≠ activities.length := fun same => differs (same ▸ rfl)
          simp only [Moment.instantiations, of, Activity.level_cons, if_neg differs] at held ⊢
          exact ⟨held, trivial⟩
  | @leave session ledger token activities frame closed =>
      obtain ⟨innermost, rfl⟩ := Ledger.closeFrame_eq_ok.mp closed
      apply Shift.closed (.activity activities.length) token ?_ innermost rfl
      · simp [Moment.instantiations, of]
      · rintro (name | level) kept held
        · exact ⟨held, rfl⟩
        · have below : level ≠ activities.length := by
            rintro rfl
            simp [Moment.instantiations, of] at held
          simp only [Moment.instantiations, of, Activity.level_cons, if_neg below] at held ⊢
          exact ⟨held, trivial⟩
      · simp [Moment.instantiations, of, Activity.token?]

/-! ## Courses -/

theorem Course.disciplined {start now : Moment} {log : List Event} (course : Course start log now)
    (disciplined : (start.instantiations []).Disciplined) :
    (now.instantiations log).Disciplined := by
  induction course with
  | refl => exact disciplined
  | move _ move ih => exact (move.instantiations _).disciplined ih

theorem Course.above {start now : Moment} {log : List Event} {base : List Frame}
    (course : Course start log now) (above : (start.instantiations []).Above base) :
    (now.instantiations log).Above base := by
  induction course with
  | refl => exact above
  | move _ move ih => exact (move.instantiations _).above ih

theorem disciplined_initial (tree : FileTree) (manualUrl : String) (hook : Option Hook) :
    ((Moment.initial tree manualUrl hook).instantiations []).Disciplined := by
  have nothing : ∀ {holder token},
      ((Moment.initial tree manualUrl hook).instantiations []).token? holder ≠ some token := by
    rintro (name | level) token held <;> cases held
  constructor
  · exact fun held => (nothing held).elim
  · exact fun held => (nothing held).elim
  · exact fun held => (nothing held).elim
  · exact fun held => (nothing held).elim

/-- Closing an instantiation with a live token takes away the frame that was pushed with it. -/
theorem Instantiations.Disciplined.closeFrame {books : Books} {activities : List Activity}
    {log : List Event} (disciplined : (Instantiations.of books activities log).Disciplined)
    {holder : Holder} {token : FrameToken} {ledger : Ledger}
    (held : (Instantiations.of books activities log).token? holder = some token)
    (closed : books.ledger.closeFrame token = .ok ledger) :
    ∃ frame, (Instantiations.of books activities log).pushed? holder = some frame ∧
      books.ledger.context = ledger.context ++ [frame] := by
  obtain ⟨innermost, rfl⟩ := Ledger.closeFrame_eq_ok.mp closed
  have positive := disciplined.positive held
  have nonempty : books.ledger.context ≠ [] := by
    intro empty
    rw [← innermost, empty] at positive
    contradiction
  refine ⟨books.ledger.context.getLast nonempty, ?_, ?_⟩
  · rw [← disciplined.own held, ← innermost, ← List.getLast?_eq_some_getLast nonempty,
      List.getLast?_eq_getElem?]
    rfl
  · exact (List.dropLast_concat_getLast nonempty).symm

/-- Whatever is done inside an instantiation, once it can be closed the frames are those from before
it was opened. -/
theorem Session.context_restored {session closing : Session} {frame : Frame} {log : List Event}
    {ledger : Ledger}
    (within : ∀ {name token}, session.tokens.find? name = some token →
      token.depth ≤ session.compilation.ledger.context.length)
    (body : Course ⟨session.setLedger (session.compilation.ledger.openFrame frame).2, []⟩ log
      ⟨closing, []⟩)
    (closed : closing.compilation.ledger.closeFrame
      (session.compilation.ledger.openFrame frame).1 = .ok ledger) :
    ledger.context = session.compilation.ledger.context := by
  obtain ⟨innermost, rfl⟩ := Ledger.closeFrame_eq_ok.mp closed
  have above : ((Moment.mk closing []).instantiations log).Above
      (session.compilation.ledger.context ++ [frame]) := by
    apply body.above
    constructor
    · exact List.prefix_rfl
    · rintro (name | level) token held
      · have least := within held
        rw [List.length_append]
        exact Nat.ne_of_lt (Nat.lt_succ_of_le least)
      · cases held
  have context := above.grown.eq_of_length innermost.symm
  exact (congrArg List.dropLast context.symm).trans List.dropLast_concat

/-- At every moment of a session, however hooks and instantiations are nested, the live tokens have
different depths, each that of a frame, and this frame is the one that was pushed with the token. So
a token that closes an instantiation takes away its own frame, and whatever is done inside an
instantiation, also by hooks, leaves the frames as they were once it is closed. -/
theorem live_tokens_mark_their_frames {tree : FileTree} {manualUrl : String} {hook : Option Hook}
    {log : List Event} {now : Moment} (course : Course (.initial tree manualUrl hook) log now) :
    let ledger := now.session.compilation.ledger
    let token? := (now.instantiations log).token?
    let pushed? := (now.instantiations log).pushed?
    (∀ holder token, token? holder = some token →
      1 ≤ token.depth ∧ token.depth ≤ ledger.context.length ∧
        ∃ frame, pushed? holder = some frame ∧ ledger.context[token.depth - 1]? = some frame) ∧
    (∀ holder other first second, token? holder = some first → token? other = some second →
      holder ≠ other → first.depth ≠ second.depth) ∧
    (∀ holder token closed, token? holder = some token → ledger.closeFrame token = .ok closed →
      ∃ frame, pushed? holder = some frame ∧ ledger.context = closed.context ++ [frame]) ∧
    (∀ frame body closing closed,
      Course ⟨now.session.setLedger (ledger.openFrame frame).2, []⟩ body ⟨closing, []⟩ →
        closing.compilation.ledger.closeFrame (ledger.openFrame frame).1 = .ok closed →
          closed.context = ledger.context) ∧
    ∀ (handle : Handler) frame steps answer after, handle.Acts →
      Session.runStep handle (.inside frame steps) now.session = .ok (answer, after) →
        after.compilation.ledger.context = ledger.context := by
  intro ledger token? pushed?
  have disciplined := course.disciplined (disciplined_initial tree manualUrl hook)
  have within : ∀ {name token}, now.session.tokens.find? name = some token →
      token.depth ≤ ledger.context.length := by
    intro name token held
    exact disciplined.within (show token? (.name name) = some token from held)
  refine ⟨?_, ?_, ?_, ?_, ?_⟩
  · intro holder token held
    have positive := disciplined.positive held
    have least : token.depth ≤ ledger.context.length := disciplined.within held
    have present : token.depth - 1 < ledger.context.length := by omega
    have own := disciplined.own held
    exact ⟨positive, least, ledger.context[token.depth - 1],
      own.symm.trans (List.getElem?_eq_getElem present), List.getElem?_eq_getElem present⟩
  · intro holder other first second firstHeld secondHeld differ sameDepth
    exact differ (disciplined.distinct firstHeld secondHeld sameDepth)
  · intro holder token closed held closes
    exact disciplined.closeFrame held closes
  · intro frame body closing closed course closes
    exact Session.context_restored within course closes
  · intro handle frame steps answer after acts ran
    obtain ⟨answers, closing, closed, body, closes, rfl⟩ := Session.runStep_inside_of_ok ran
    obtain ⟨inner, course⟩ := Session.runSteps_leads acts steps body
    exact Session.context_restored within course closes

/-- With one token kept under a name and another one held by steps that are run, the second marks
the inner frame, and takes away no other. -/
theorem live_tokens_mark_their_frames_nested :
    let outer : Frame := ⟨.unknown, "outer"⟩
    let inner : Frame := ⟨.unknown, "inner"⟩
    let log : List Event := [.entered inner, .asked (.report (.openFrame outer "kept"))]
    ∃ now, Course (.initial (.ofWorkdir []) "" none) log now ∧
      (now.instantiations log).context = [outer, inner] ∧
      (now.instantiations log).token? (.name "kept") = some ⟨1⟩ ∧
      (now.instantiations log).token? (.activity 0) = some ⟨2⟩ ∧
      ∀ closed, now.session.compilation.ledger.closeFrame ⟨2⟩ = .ok closed →
        closed.context = [outer] := by
  intro outer inner log
  have answered : ∃ after, (Session.initial (.ofWorkdir []) "" none).answer
      (.report (.openFrame outer "kept")) = .ok (.number 1, after) ∧
      after.compilation.ledger.context = [outer] ∧ after.tokens.find? "kept" = some ⟨1⟩ :=
    ⟨_, rfl, rfl, rfl⟩
  obtain ⟨after, answered, context, kept⟩ := answered
  have course : Course (.initial (.ofWorkdir []) "" none) log _ :=
    .move (.single (.ask answered)) (.enter after [] inner)
  have marks := live_tokens_mark_their_frames course
  have frames : (after.compilation.ledger.openFrame inner).2.context = [outer, inner] := by
    simp [Ledger.openFrame, context]
  have token : (after.compilation.ledger.openFrame inner).1 = ⟨2⟩ := by
    simp [Ledger.openFrame, context]
  refine ⟨_, course, frames, kept, congrArg some token, ?_⟩
  intro closed closes
  obtain ⟨frame, pushed, whole⟩ := marks.2.2.1 (.activity 0) ⟨2⟩ closed (congrArg some token) closes
  cases pushed
  exact (List.append_cancel_right (whole.symm.trans frames : _ = [outer] ++ [inner]))

end Frontend
