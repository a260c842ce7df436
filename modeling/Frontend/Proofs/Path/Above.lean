import Mathlib.Data.String.Basic
import Frontend.Path.Join
import Frontend.Path.Name
import Frontend.Proofs.Path.Steps

/-!
# What the steps of a path decide

Ancestors, file names and joined paths are cut from texts, but the steps of a path decide the steps
of all of them: two spellings of one path have, one after the other, spellings of the same ancestors.
The text of an ancestor is left over from the text of the path, so that it is never longer.
-/

namespace Frontend.Path

/-! ## Parts and steps -/

@[simp]
theorem textOfPieces_pieces (path : Path) : textOfPieces path.pieces = path.text := by
  simp [textOfPieces, pieces, Function.comp_def]

/-- No text is lost when a path is cut into its parts. -/
@[simp]
theorem ofParts_parts (path : Path) : ofParts path.parts = path := by
  have text := path.textOfPieces_pieces
  rw [parts]
  cases cut : path.pieces with
  | nil => simp [pieces, splitSlash_ne_nil] at cut
  | cons first rest =>
      rw [cut] at text
      by_cases rooted : first = ""
      · cases rest with
        | nil =>
            rw [rooted] at text
            simp only [rooted, List.isEmpty_nil, if_true, ofParts]
            exact congrArg Path.mk text
        | cons second others =>
            rw [rooted] at text
            simp only [rooted, List.isEmpty_cons, if_true, ofParts]
            exact congrArg Path.mk text
      · by_cases dotted : first = "."
        · rw [dotted] at text
          simp only [dotted, if_true, ofParts]
          exact congrArg Path.mk text
        · simp only [rooted, dotted, if_false, ofParts]
          exact congrArg Path.mk text

/-- The steps after the anchor. -/
def innerSteps (path : Path) : List Component :=
  path.parts.body.filterMap Component.ofPiece?

theorem components_eq (path : Path) :
    path.components = path.parts.anchor.components ++ path.innerSteps :=
  rfl

theorem isInner_of_mem_innerSteps (path : Path) :
    ∀ step ∈ path.innerSteps, step.IsInner :=
  isInner_of_mem_filterMap path.wellCut_parts.whole

/-- What a path starts from can be told from its steps. -/
theorem anchor_components_append_inj {anchor other : Anchor} {inner rest : List Component}
    (isInner : ∀ step ∈ inner, step.IsInner) (isRest : ∀ step ∈ rest, step.IsInner)
    (same : anchor.components ++ inner = other.components ++ rest) :
    anchor = other ∧ inner = rest := by
  cases anchor <;> cases other <;> grind [Anchor.components, Component.IsInner]

theorem parts_of_same {first second : Path} (same : first.components = second.components) :
    first.parts.anchor = second.parts.anchor ∧ first.innerSteps = second.innerSteps :=
  anchor_components_append_inj first.isInner_of_mem_innerSteps second.isInner_of_mem_innerSteps same

/-- The inner steps of a path that is written from its parts. -/
theorem innerSteps_ofParts {anchor : Anchor} {body : List String}
    (cut : Parts.WellCut ⟨anchor, body⟩) :
    (ofParts ⟨anchor, body⟩).innerSteps = body.filterMap Component.ofPiece? := by
  have read := (ofParts ⟨anchor, body⟩).components_eq.symm.trans (components_ofParts cut)
  exact (anchor_components_append_inj (isInner_of_mem_innerSteps _)
    (isInner_of_mem_filterMap cut.whole) read).2

/-! ## Ancestors -/

/-- The steps of the proper ancestors, nearest first, of a path with this anchor whose inner steps are
given from the last one backwards. -/
def stepsAbove (anchor : Anchor) : List Component → List (List Component)
  | [] => if anchor = .here then [[]] else []
  | _ :: before => (anchor.components ++ before.reverse) :: stepsAbove anchor before

/-- Nothing superfluous trails the last step of the path. -/
def Tidy (path : Path) : Prop :=
  ∃ parts : Parts, path = ofParts parts ∧ parts.WellCut ∧
    ∀ piece ∈ parts.body.getLast?, silent piece = false

/-- A path written from parts without trailing slashes and dots is tidy. -/
theorem tidy_ofParts {anchor : Anchor} {backwards : List String}
    (cut : Parts.WellCut ⟨anchor, backwards.reverse⟩)
    (loud : ∀ piece ∈ backwards.head?, silent piece = false) :
    (ofParts ⟨anchor, backwards.reverse⟩).Tidy := by
  refine ⟨_, rfl, cut, ?_⟩
  rwa [List.getLast?_reverse]

namespace Parts.WellCut

/-- Parts stay cut as from a text when the last piece is taken away. -/
theorem init {anchor : Anchor} {piece : String} {before : List String}
    (cut : WellCut ⟨anchor, (piece :: before).reverse⟩) : WellCut ⟨anchor, before.reverse⟩ := by
  constructor
  · intro other member
    apply cut.whole other
    rw [List.reverse_cons]
    exact List.mem_append_left [piece] member
  · intro free other first
    apply cut.loud free other
    rw [Option.mem_def] at first ⊢
    rw [List.reverse_cons, List.head?_append, first]
    rfl

theorem dropTrailing {anchor : Anchor} {backwards : List String}
    (cut : WellCut ⟨anchor, backwards.reverse⟩) :
    WellCut ⟨anchor, (backwards.dropWhile silent).reverse⟩ := by
  induction backwards with
  | nil => exact cut
  | cons piece before ih =>
      rw [List.dropWhile_cons]
      split
      · exact ih cut.init
      · exact cut

end Parts.WellCut

/-- What passes over a silent piece passes over all of them. -/
theorem apply_dropWhile_silent {β : Type} {f : List String → β}
    (passesOver : ∀ piece before, silent piece = true → f (piece :: before) = f before)
    (backwards : List String) : f (backwards.dropWhile silent) = f backwards := by
  induction backwards with
  | nil => rfl
  | cons piece before ih =>
      rw [List.dropWhile_cons]
      split
      · rename_i quiet
        rw [ih, passesOver piece before quiet]
      · rfl

theorem filterMap_ofPiece?_dropWhile (backwards : List String) :
    (backwards.dropWhile silent).filterMap Component.ofPiece? =
      backwards.filterMap Component.ofPiece? := by
  apply apply_dropWhile_silent (f := List.filterMap Component.ofPiece?)
  intro piece before quiet
  rw [List.filterMap_cons_none (by simp [Component.ofPiece?, quiet])]

/-- The steps of what is left of a path that is cut after some of its pieces. -/
theorem components_cut {anchor : Anchor} {backwards : List String}
    (cut : Parts.WellCut ⟨anchor, backwards.reverse⟩) :
    (ofParts ⟨anchor, (backwards.dropWhile silent).reverse⟩).components =
      anchor.components ++ (backwards.filterMap Component.ofPiece?).reverse := by
  rw [components_ofParts cut.dropTrailing, List.filterMap_reverse, filterMap_ofPiece?_dropWhile]

theorem map_components_aboveOf {anchor : Anchor} {backwards : List String}
    (cut : Parts.WellCut ⟨anchor, backwards.reverse⟩) :
    (aboveOf anchor backwards).map components =
      stepsAbove anchor (backwards.filterMap Component.ofPiece?) := by
  induction backwards with
  | nil =>
      rw [aboveOf, List.filterMap_nil, stepsAbove]
      split <;> rfl
  | cons piece before ih =>
      rw [aboveOf]
      split
      · rename_i quiet
        rw [ih cut.init, List.filterMap_cons_none (by simp [Component.ofPiece?, quiet])]
      · rename_i loud
        obtain ⟨step, read⟩ : ∃ step, Component.ofPiece? piece = some step := by
          rw [Component.ofPiece?, if_neg loud]
          split
          · exact ⟨_, rfl⟩
          · exact ⟨_, rfl⟩
        rw [List.map_cons, ih cut.init, components_cut cut.init, List.filterMap_cons_some read,
          stepsAbove]

/-- The steps of the ancestors of a path follow from its own. -/
theorem map_components_above (path : Path) :
    path.above.map components = stepsAbove path.parts.anchor path.innerSteps.reverse := by
  have cut : Parts.WellCut ⟨path.parts.anchor, path.parts.body.reverse.reverse⟩ := by
    rw [List.reverse_reverse]
    exact path.wellCut_parts
  rw [above, map_components_aboveOf cut, List.filterMap_reverse]
  rfl

theorem map_components_above_of_eq {path : Path} {anchor : Anchor} {inner : List Component}
    (isInner : ∀ step ∈ inner, step.IsInner)
    (steps : path.components = anchor.components ++ inner) :
    path.above.map components = stepsAbove anchor inner.reverse := by
  obtain ⟨rfl, rfl⟩ := anchor_components_append_inj path.isInner_of_mem_innerSteps isInner
    (path.components_eq.symm.trans steps)
  exact path.map_components_above

theorem map_components_above_of_same {first second : Path}
    (same : first.components = second.components) :
    first.above.map components = second.above.map components :=
  map_components_above_of_eq second.isInner_of_mem_innerSteps same |>.trans
    second.map_components_above.symm

/-- Each directory in the list is tidy, and those after it are spellings of its ancestors. -/
def IsChain : List Path → Prop
  | [] => True
  | directory :: above =>
      directory.Tidy ∧ directory.above.map components = above.map components ∧ IsChain above

theorem isChain_aboveOf {anchor : Anchor} {backwards : List String}
    (cut : Parts.WellCut ⟨anchor, backwards.reverse⟩) : IsChain (aboveOf anchor backwards) := by
  induction backwards with
  | nil =>
      rw [aboveOf]
      split
      · refine ⟨⟨⟨.free, []⟩, rfl, ?_, ?_⟩, rfl, trivial⟩
        · constructor <;> simp
        · simp
      · trivial
  | cons piece before ih =>
      rw [aboveOf]
      split
      · exact ih cut.init
      · refine ⟨tidy_ofParts cut.init.dropTrailing ?_, ?_, ih cut.init⟩
        · intro other first
          have notDropped := List.head?_dropWhile_not silent before
          rwa [first] at notDropped
        · have isInner : ∀ step ∈ (before.filterMap Component.ofPiece?).reverse, step.IsInner := by
            rw [← List.filterMap_reverse]
            exact isInner_of_mem_filterMap cut.init.whole
          rw [map_components_above_of_eq isInner (components_cut cut.init), List.reverse_reverse,
            map_components_aboveOf cut.init]

theorem isChain_above (path : Path) : IsChain path.above := by
  apply isChain_aboveOf
  rw [List.reverse_reverse]
  exact path.wellCut_parts

theorem isChain_ancestors {path : Path} (tidy : path.Tidy) : IsChain path.ancestors :=
  And.intro tidy (And.intro rfl path.isChain_above)

theorem aboveOf_dropWhile (anchor : Anchor) (backwards : List String) :
    aboveOf anchor (backwards.dropWhile silent) = aboveOf anchor backwards := by
  apply apply_dropWhile_silent (f := aboveOf anchor)
  intro piece before quiet
  rw [aboveOf, if_pos quiet]

theorem above_ofParts {anchor : Anchor} {backwards : List String}
    (cut : Parts.WellCut ⟨anchor, backwards.reverse⟩) :
    (ofParts ⟨anchor, backwards.reverse⟩).above = aboveOf anchor backwards := by
  cases backwards with
  | nil => cases anchor <;> rfl
  | cons piece before => rw [above, parts_ofParts cut (by simp), List.reverse_reverse]

/-- After the nearest ancestor come the ancestors of that one. -/
theorem aboveOf_eq_cons {anchor : Anchor} {backwards : List String} {nearest : Path}
    {others : List Path} (cut : Parts.WellCut ⟨anchor, backwards.reverse⟩)
    (ancestors : aboveOf anchor backwards = nearest :: others) : others = nearest.above := by
  induction backwards with
  | nil =>
      rw [aboveOf] at ancestors
      split at ancestors
      · cases ancestors
        rfl
      · cases ancestors
  | cons piece before ih =>
      rw [aboveOf] at ancestors
      split at ancestors
      · exact ih cut.init ancestors
      · cases ancestors
        rw [above_ofParts cut.init.dropTrailing, aboveOf_dropWhile]

/-- The ancestors of a path are its successive parents. -/
theorem ancestors_of_parent? {path parent : Path} (isParent : path.parent? = some parent) :
    path.ancestors = path :: parent.ancestors := by
  obtain ⟨others, above⟩ := List.head?_eq_some_iff.mp isParent
  have cut : Parts.WellCut ⟨path.parts.anchor, path.parts.body.reverse.reverse⟩ := by
    rw [List.reverse_reverse]
    exact path.wellCut_parts
  rw [ancestors, above, aboveOf_eq_cons cut above]
  rfl

/-- The shortest spelling of a path: its steps with single slashes between them. -/
def shortest (path : Path) : Path :=
  ofComponents path.components

theorem shortest_eq (path : Path) :
    path.shortest = ofParts ⟨path.parts.anchor, path.innerSteps.map Component.text⟩ :=
  ofComponents_eq_ofParts path.parts.anchor path.isInner_of_mem_innerSteps

@[simp]
theorem components_shortest (path : Path) : path.shortest.components = path.components :=
  components_ofComponents path.writable_components

theorem tidy_shortest (path : Path) : path.shortest.Tidy := by
  refine ⟨_, path.shortest_eq, wellCut_of_isInner _ path.isInner_of_mem_innerSteps, ?_⟩
  intro piece last
  obtain ⟨step, isLast, rfl⟩ := Option.map_eq_some_iff.mp (List.getLast?_map ▸ last)
  exact Component.silent_text (path.isInner_of_mem_innerSteps step (List.mem_of_getLast? isLast))

/-! ## Lengths -/

theorem joinSlash_cons_of_ne_nil (first : List Char) {rest : List (List Char)} (more : rest ≠ []) :
    joinSlash (first :: rest) = first ++ '/' :: joinSlash rest := by
  cases rest with
  | nil => exact absurd rfl more
  | cons second others => rfl

/-- Leaving pieces out leaves characters out. -/
theorem joinSlash_sublist {pieces others : List (List Char)} (left : pieces.Sublist others) :
    (joinSlash pieces).Sublist (joinSlash others) := by
  induction left with
  | slnil => exact List.Sublist.slnil
  | @cons pieces others first left ih =>
      by_cases more : others = []
      · subst more
        rw [List.eq_nil_of_sublist_nil left]
        exact List.nil_sublist _
      · rw [joinSlash_cons_of_ne_nil first more]
        exact (ih.trans (List.sublist_cons_self '/' _)).trans (List.sublist_append_right first _)
  | @cons_cons pieces others first left ih =>
      by_cases more : pieces = []
      · subst more
        by_cases none : others = []
        · subst none
          exact List.Sublist.refl _
        · rw [joinSlash_cons_of_ne_nil first none]
          exact List.sublist_append_left first _
      · have others' : others ≠ [] := by
          rintro rfl
          exact more (List.eq_nil_of_sublist_nil left)
        rw [joinSlash_cons_of_ne_nil first more, joinSlash_cons_of_ne_nil first others']
        exact (List.Sublist.refl first).append (ih.cons_cons '/')

theorem text_ofParts_root (body : List String) :
    (ofParts ⟨.root, body⟩).text = String.ofList ('/' :: joinSlash (body.map String.toList)) := by
  cases body with
  | nil => rfl
  | cons first rest => rfl

/-- Leaving pieces out of a path does not make its text longer. -/
theorem utf8ByteSize_ofParts_le {anchor : Anchor} {body other : List String}
    (left : body.Sublist other) :
    (ofParts ⟨anchor, body⟩).text.utf8ByteSize ≤ (ofParts ⟨anchor, other⟩).text.utf8ByteSize := by
  have joined {chars others : List Char} (left : chars.Sublist others) :
      (String.ofList chars).utf8ByteSize ≤ (String.ofList others).utf8ByteSize := by
    rw [String.utf8ByteSize_ofList, String.utf8ByteSize_ofList]
    exact String.utf8Len_le_of_sublist left
  cases anchor with
  | free => exact joined (joinSlash_sublist (left.map String.toList))
  | here => exact joined (joinSlash_sublist ((left.cons_cons ".").map String.toList))
  | root =>
      rw [text_ofParts_root, text_ofParts_root]
      exact joined ((joinSlash_sublist (left.map String.toList)).cons_cons '/')

/-- Every ancestor of a path was cut from it. -/
theorem mem_aboveOf {anchor : Anchor} {backwards : List String} {directory : Path}
    (member : directory ∈ aboveOf anchor backwards) :
    directory = ⟨""⟩ ∨
      ∃ body, body.Sublist backwards.reverse ∧ directory = ofParts ⟨anchor, body⟩ := by
  induction backwards with
  | nil =>
      rw [aboveOf] at member
      split at member
      · exact Or.inl (List.mem_singleton.mp member)
      · cases member
  | cons piece before ih =>
      have shorter : before.reverse.Sublist (piece :: before).reverse := by
        rw [List.reverse_cons]
        exact List.sublist_append_left before.reverse [piece]
      have later (member : directory ∈ aboveOf anchor before) :
          directory = ⟨""⟩ ∨ ∃ body, body.Sublist (piece :: before).reverse ∧
            directory = ofParts ⟨anchor, body⟩ := by
        rcases ih member with empty | ⟨body, left, isCut⟩
        · exact Or.inl empty
        · exact Or.inr ⟨body, left.trans shorter, isCut⟩
      rw [aboveOf] at member
      split at member
      · exact later member
      · rcases List.mem_cons.mp member with nearest | above
        · exact Or.inr ⟨_, (List.dropWhile_sublist silent).reverse.trans shorter, nearest⟩
        · exact later above

/-- No ancestor of a path has a longer text. -/
theorem utf8ByteSize_le_of_mem_above {path directory : Path} (member : directory ∈ path.above) :
    directory.text.utf8ByteSize ≤ path.text.utf8ByteSize := by
  rcases mem_aboveOf member with rfl | ⟨body, left, rfl⟩
  · exact Nat.zero_le _
  · rw [List.reverse_reverse] at left
    have shorter := @utf8ByteSize_ofParts_le path.parts.anchor _ _ left
    rwa [ofParts_parts] at shorter

namespace Component

theorem ofPiece?_eq_none_iff {piece : String} : ofPiece? piece = none ↔ silent piece = true := by
  unfold ofPiece?
  cases silent piece with
  | true => simp
  | false => by_cases up : piece = ".." <;> simp [up]

theorem text_of_ofPiece? {piece : String} {step : Component} (read : ofPiece? piece = some step) :
    step.text = piece := by
  unfold ofPiece? at read
  split at read
  · cases read
  · split at read
    · rename_i up
      cases read
      exact up.symm
    · cases read
      rfl

end Component

/-- The steps are written as the pieces that are not silent. -/
theorem map_text_filterMap_ofPiece? (pieces : List String) :
    (pieces.filterMap Component.ofPiece?).map Component.text =
      pieces.filter fun piece => !silent piece := by
  induction pieces with
  | nil => rfl
  | cons piece rest ih =>
      cases read : Component.ofPiece? piece with
      | none =>
          have quiet := Component.ofPiece?_eq_none_iff.mp read
          rw [List.filterMap_cons_none read, ih, List.filter_cons_of_neg (by simp [quiet])]
      | some step =>
          have loud : silent piece = false := by
            rw [Bool.eq_false_iff]
            intro quiet
            rw [Component.ofPiece?_eq_none_iff.mpr quiet] at read
            cases read
          rw [List.filterMap_cons_some read, List.map_cons, ih, Component.text_of_ofPiece? read,
            List.filter_cons_of_pos (by simp [loud])]

theorem utf8ByteSize_shortest_le (path : Path) :
    path.shortest.text.utf8ByteSize ≤ path.text.utf8ByteSize := by
  have left : (path.innerSteps.map Component.text).Sublist path.parts.body := by
    rw [innerSteps, map_text_filterMap_ofPiece?]
    exact List.filter_sublist
  have shorter := @utf8ByteSize_ofParts_le path.parts.anchor _ _ left
  rwa [ofParts_parts, ← shortest_eq] at shorter

/-! ## Shortest spellings -/

theorem shortest_ofParts {anchor : Anchor} {body : List String}
    (cut : Parts.WellCut ⟨anchor, body⟩) :
    (ofParts ⟨anchor, body⟩).shortest =
      ofParts ⟨anchor, body.filter fun piece => !silent piece⟩ := by
  rw [shortest, components_ofParts cut,
    ofComponents_eq_ofParts anchor (isInner_of_mem_filterMap cut.whole),
    map_text_filterMap_ofPiece?]

/-- Where nothing can be left out of a path, nothing can be left out of its ancestors. -/
theorem shortest_of_mem_above {steps : List Component} (writable : Writable steps)
    {directory : Path} (member : directory ∈ (ofComponents steps).above) :
    directory.shortest = directory := by
  obtain ⟨anchor, inner, rfl, isInner⟩ := writable
  rw [ofComponents_eq_ofParts anchor isInner] at member
  by_cases none : inner = []
  · subst none
    cases anchor with
    | free | root => exact absurd member List.not_mem_nil
    | here => rw [List.mem_singleton.mp (show directory ∈ [⟨""⟩] from member)]; rfl
  · have cut := wellCut_of_isInner anchor isInner
    have parts : (ofParts ⟨anchor, inner.map Component.text⟩).parts =
        ⟨anchor, inner.map Component.text⟩ :=
      parts_ofParts cut (by simpa using none)
    rw [above, parts] at member
    rcases mem_aboveOf member with rfl | ⟨body, left, rfl⟩
    · rfl
    · rw [List.reverse_reverse] at left
      have loud : ∀ piece ∈ body, silent piece = false := by
        intro piece isPiece
        obtain ⟨step, isStep, rfl⟩ := List.mem_map.mp (left.subset isPiece)
        exact Component.silent_text (isInner step isStep)
      have cutBody : Parts.WellCut ⟨anchor, body⟩ := by
        constructor
        · exact fun piece isPiece => cut.whole piece (left.subset isPiece)
        · exact fun _ piece first => loud piece (List.mem_of_head? first)
      have kept : body.filter (fun piece => !silent piece) = body := by
        rw [List.filter_eq_self]
        intro piece isPiece
        rw [loud piece isPiece]
        rfl
      rw [shortest_ofParts cutBody, kept]

/-! ## Characters -/

theorem mem_joinSlash_iff {c : Char} (other : c ≠ '/') {pieces : List (List Char)} :
    c ∈ joinSlash pieces ↔ ∃ piece ∈ pieces, c ∈ piece := by
  induction pieces with
  | nil => simp [joinSlash]
  | cons first rest ih =>
      by_cases more : rest = []
      · simp [more, joinSlash]
      · simp [joinSlash_cons_of_ne_nil first more, ih, other]

/-- A character that neither parts nor anchors a text is found in its steps. -/
theorem mem_text_iff {c : Char} (notSlash : c ≠ '/') (notDot : c ≠ '.') (path : Path) :
    c ∈ path.text.toList ↔ ∃ step ∈ path.innerSteps, c ∈ step.text.toList := by
  have inPieces : c ∈ path.text.toList ↔ ∃ piece ∈ path.pieces, c ∈ piece.toList := by
    rw [← joinSlash_splitSlash path.text.toList, mem_joinSlash_iff notSlash]
    simp [pieces]
  have notQuiet {piece : String} (quiet : silent piece = true) : c ∉ piece.toList := by
    simp only [silent, Bool.or_eq_true, beq_iff_eq] at quiet
    rcases quiet with rfl | rfl <;> simp [notDot]
  have inBody : (∃ piece ∈ path.pieces, c ∈ piece.toList) ↔
      ∃ piece ∈ path.parts.body, c ∈ piece.toList := by
    rw [parts]
    cases path.pieces with
    | nil => rfl
    | cons first rest =>
        by_cases rooted : first = ""
        · cases rest <;> simp [rooted]
        · by_cases dotted : first = "." <;> simp [rooted, dotted, notDot]
  have inSteps : (∃ step ∈ path.innerSteps, c ∈ step.text.toList) ↔
      ∃ piece ∈ path.innerSteps.map Component.text, c ∈ piece.toList := by
    simp
  rw [inPieces, inBody, inSteps, innerSteps, map_text_filterMap_ofPiece?]
  constructor
  · rintro ⟨piece, member, inside⟩
    refine ⟨piece, List.mem_filter.mpr ⟨member, ?_⟩, inside⟩
    rw [Bool.not_eq_true', Bool.eq_false_iff]
    exact fun quiet => notQuiet quiet inside
  · rintro ⟨piece, member, inside⟩
    exact ⟨piece, List.mem_of_mem_filter member, inside⟩

/-! ## What is read off the last step -/

theorem head?_filterMap_ofPiece? (backwards : List String) :
    (backwards.filterMap Component.ofPiece?).head? =
      (backwards.dropWhile silent).head?.bind Component.ofPiece? := by
  induction backwards with
  | nil => rfl
  | cons piece before ih =>
      rw [List.dropWhile_cons]
      cases read : Component.ofPiece? piece with
      | none =>
          rw [List.filterMap_cons_none read, if_pos (Component.ofPiece?_eq_none_iff.mp read), ih]
      | some step =>
          have loud : ¬ silent piece = true := by
            rw [← Component.ofPiece?_eq_none_iff, read]
            exact Option.some_ne_none step
          rw [List.filterMap_cons_some read, if_neg loud]
          exact read.symm

/-- The file name is the last step, if that is a name. -/
theorem fileName?_eq (path : Path) :
    path.fileName? = path.innerSteps.getLast?.bind fun step =>
      match step with
      | .name text => some text
      | _ => none := by
  have last : path.innerSteps.getLast? =
      (trimEnd path.parts.body).getLast?.bind Component.ofPiece? := by
    rw [trimEnd, List.getLast?_reverse, ← head?_filterMap_ofPiece?, List.filterMap_reverse,
      List.head?_reverse]
    rfl
  have loud : ∀ piece ∈ (trimEnd path.parts.body).getLast?, silent piece = false := by
    intro piece isLast
    have notDropped := List.head?_dropWhile_not silent path.parts.body.reverse
    rw [trimEnd, List.getLast?_reverse, Option.mem_def] at isLast
    rwa [isLast] at notDropped
  rw [last, fileName?]
  cases named : (trimEnd path.parts.body).getLast? with
  | none => rfl
  | some piece =>
      by_cases up : piece = ".."
      · subst up
        rfl
      · simp [up, Component.ofPiece?, loud piece named]

/-- Spellings of one path have the same stem. -/
theorem stem?_of_same {first second : Path} (same : first.components = second.components) :
    first.stem? = second.stem? := by
  rw [stem?, stem?, fileName?_eq, fileName?_eq, (parts_of_same same).2]

/-- A path is absolute when it is anchored at the root. -/
theorem isAbsolute_iff (path : Path) : path.isAbsolute = true ↔ path.parts.anchor = .root := by
  rw [isAbsolute, parts, pieces]
  cases path.text.toList with
  | nil => simp [splitSlash]
  | cons c rest =>
      by_cases slash : c = '/'
      · simp [splitSlash, slash, splitSlash_ne_nil]
      · cases cut : splitSlash rest with
        | nil => exact absurd cut (splitSlash_ne_nil rest)
        | cons first others =>
            simp only [splitSlash, if_neg slash, cut, List.map_cons, String.ofList_eq_empty_iff,
              List.cons_ne_nil, if_false]
            split <;> simp [slash]

theorem isAbsolute_of_same {first second : Path} (same : first.components = second.components) :
    first.isAbsolute = second.isAbsolute := by
  rw [Bool.eq_iff_iff, isAbsolute_iff, isAbsolute_iff, (parts_of_same same).1]

/-- Spellings of one path have parents that are spellings of one path. -/
theorem parent?_of_same {first second : Path} (same : first.components = second.components) :
    first.parent?.map components = second.parent?.map components := by
  rw [parent?, parent?, ← List.head?_map, ← List.head?_map, map_components_above_of_same same]

/-- What depends on the steps of a path alone is the same for paths that are found under two
spellings. -/
theorem bind_of_same {α : Type} {read : Path → Option α}
    (respects : ∀ {path other : Path}, path.components = other.components → read path = read other)
    {first second : Option Path} (same : first.map components = second.map components) :
    first.bind read = second.bind read := by
  cases first with
  | none =>
      cases second with
      | none => rfl
      | some other => cases same
  | some path =>
      cases second with
      | none => cases same
      | some other => exact respects (Option.some.inj same)

/-! ## Joined paths -/

/-- Only the empty text has no steps. -/
theorem isEmpty_iff (path : Path) : path.isEmpty = true ↔ path.components = [] := by
  constructor
  · intro empty
    have isEmpty : path = ⟨""⟩ := congrArg Path.mk (String.isEmpty_iff.mp empty)
    rw [isEmpty]
    rfl
  · intro none
    obtain ⟨free, noSteps⟩ := List.append_eq_nil_iff.mp (path.components_eq ▸ none)
    have anchor : path.parts.anchor = .free := by
      cases isAnchor : path.parts.anchor with
      | free => rfl
      | root | here => simp [isAnchor, Anchor.components] at free
    have body : path.parts.body = [] := by
      cases isBody : path.parts.body with
      | nil => rfl
      | cons first rest =>
          have loud := path.wellCut_parts.loud anchor first (by simp [isBody])
          rw [innerSteps, List.filterMap_eq_nil_iff] at noSteps
          have quiet := noSteps first (by simp [isBody])
          rw [Component.ofPiece?_eq_none_iff, loud] at quiet
          cases quiet
    have written : path = ofParts ⟨.free, []⟩ := by
      rw [← path.ofParts_parts, ← anchor, ← body]
    rw [written]
    rfl

theorem pieces_ne_nil (path : Path) : path.pieces ≠ [] := by
  simp [pieces, splitSlash_ne_nil]

/-- The inner steps can be read from all pieces: a piece that anchors a path is silent. -/
theorem innerSteps_eq (path : Path) :
    path.innerSteps = path.pieces.filterMap Component.ofPiece? := by
  have quiet : ∀ rest : List String,
      ("" :: rest).filterMap Component.ofPiece? = rest.filterMap Component.ofPiece? ∧
        ("." :: rest).filterMap Component.ofPiece? = rest.filterMap Component.ofPiece? :=
    fun _ => ⟨rfl, rfl⟩
  rw [innerSteps, parts]
  cases cut : path.pieces with
  | nil => rfl
  | cons first rest =>
      by_cases rooted : first = ""
      · cases rest with
        | nil => simp [rooted, quiet]
        | cons second others => simp only [rooted, quiet, List.isEmpty_cons, if_true,
            Bool.false_eq_true, if_false]
      · by_cases dotted : first = "."
        · simp [dotted, quiet]
        · simp only [if_neg rooted, if_neg dotted]

theorem pieces_append_slash (front back : List Char) :
    (Path.mk (String.ofList (front ++ '/' :: back))).pieces =
      (Path.mk (String.ofList front)).pieces ++ (Path.mk (String.ofList back)).pieces := by
  simp [pieces, splitSlash_append_slash]

/-- What stands after a slash does not anchor a path, unless nothing stands before it. -/
theorem anchor_append_slash {front : List Char} (some : front ≠ []) (back : List Char) :
    (Path.mk (String.ofList (front ++ '/' :: back))).parts.anchor =
      (Path.mk (String.ofList front)).parts.anchor := by
  have more := (Path.mk (String.ofList back)).pieces_ne_nil
  cases cut : (Path.mk (String.ofList front)).pieces with
  | nil => exact absurd cut (pieces_ne_nil _)
  | cons first rest =>
      simp only [parts, pieces_append_slash, cut, List.cons_append]
      by_cases rooted : first = ""
      · have others : rest ≠ [] := by
          rintro rfl
          have text := textOfPieces_pieces (Path.mk (String.ofList front))
          rw [cut, rooted] at text
          exact some (String.ofList_eq_empty_iff.mp text.symm)
        simp [rooted, more, others]
      · by_cases dotted : first = "."
        · simp [dotted]
        · simp only [if_neg rooted, if_neg dotted]

theorem anchor_slash (back : List Char) :
    (Path.mk (String.ofList ('/' :: back))).parts.anchor = .root := by
  have more := (Path.mk (String.ofList back)).pieces_ne_nil
  have cut : (Path.mk (String.ofList ('/' :: back))).pieces =
      "" :: (Path.mk (String.ofList back)).pieces :=
    pieces_append_slash [] back
  rw [parts, cut]
  simp [more]

theorem innerSteps_append_slash (front back : List Char) :
    (Path.mk (String.ofList (front ++ '/' :: back))).innerSteps =
      (Path.mk (String.ofList front)).innerSteps ++
        (Path.mk (String.ofList back)).pieces.filterMap Component.ofPiece? := by
  rw [innerSteps_eq, innerSteps_eq, pieces_append_slash, List.filterMap_append]

theorem innerSteps_concat_slash (front : List Char) :
    (Path.mk (String.ofList (front ++ ['/']))).innerSteps =
      (Path.mk (String.ofList front)).innerSteps := by
  have nothing : (Path.mk (String.ofList [])).pieces.filterMap Component.ofPiece? = [] := rfl
  rw [innerSteps_append_slash, nothing, List.append_nil]

/-- What stands before a slash and what stands after it contribute their steps in that order. -/
theorem components_append_slash (front back : List Char) :
    (Path.mk (String.ofList (front ++ '/' :: back))).components =
      (Path.mk (String.ofList (front ++ ['/']))).components ++
        (Path.mk (String.ofList back)).pieces.filterMap Component.ofPiece? := by
  have anchor : (Path.mk (String.ofList (front ++ '/' :: back))).parts.anchor =
      (Path.mk (String.ofList (front ++ ['/']))).parts.anchor := by
    by_cases nothing : front = []
    · rw [nothing]
      exact (anchor_slash back).trans (anchor_slash []).symm
    · rw [anchor_append_slash nothing, anchor_append_slash nothing]
  rw [components_eq, components_eq, anchor, innerSteps_append_slash, innerSteps_concat_slash,
    List.append_assoc]

/-- A slash at the end of a text adds no step. -/
theorem components_concat_slash {front : List Char} (some : front ≠ []) :
    (Path.mk (String.ofList (front ++ ['/']))).components =
      (Path.mk (String.ofList front)).components := by
  rw [components_eq, components_eq, anchor_append_slash some, innerSteps_concat_slash]

/-- The steps of a relative path are those that it adds to a directory. -/
theorem components_join {directory path : Path} (some : directory.isEmpty = false)
    (relative : path.isAbsolute = false) :
    (directory.join path).components =
      directory.components ++ path.pieces.filterMap Component.ofPiece? := by
  obtain ⟨text⟩ := directory
  obtain ⟨added⟩ := path
  have nonempty : text.toList ≠ [] := by
    rw [Ne, String.toList_eq_nil_iff]
    rintro rfl
    cases some
  rw [join, if_neg (by simp [relative]), some, Bool.false_or]
  split
  · rename_i slash
    obtain ⟨front, split⟩ := List.getLast?_eq_some_iff.mp (beq_iff_eq.mp slash)
    have written : text ++ added = String.ofList (front ++ '/' :: added.toList) := by
      apply String.ext
      simp [split]
    have before : text = String.ofList (front ++ ['/']) := by
      rw [← split, String.ofList_toList]
    rw [written, components_append_slash, ← before, String.ofList_toList]
  · have written : text ++ "/" ++ added = String.ofList (text.toList ++ '/' :: added.toList) := by
      apply String.ext
      simp
    rw [written, components_append_slash, components_concat_slash nonempty, String.ofList_toList,
      String.ofList_toList]

/-- Spellings of one directory, joined with one path, are spellings of one path. -/
theorem components_join_of_same {first second : Path} (same : first.components = second.components)
    (path : Path) : (first.join path).components = (second.join path).components := by
  cases absolute : path.isAbsolute with
  | true => simp [join, absolute]
  | false =>
      cases empty : first.isEmpty with
      | true =>
          have none := first.isEmpty_iff.mp empty
          have empty' : second.isEmpty = true := second.isEmpty_iff.mpr (same ▸ none)
          have isFirst : first = ⟨""⟩ := congrArg Path.mk (String.isEmpty_iff.mp empty)
          have isSecond : second = ⟨""⟩ := congrArg Path.mk (String.isEmpty_iff.mp empty')
          rw [isFirst, isSecond]
      | false =>
          have some : second.isEmpty = false := by
            rw [Bool.eq_false_iff] at empty ⊢
            rwa [Ne, isEmpty_iff, ← same, ← isEmpty_iff]
          rw [components_join empty absolute, components_join some absolute, same]

end Frontend.Path
