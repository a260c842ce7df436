import Frontend.Path.Basic

/-!
# Steps, written and read back

The text of a path says more than its steps: slashes can be doubled, and dots stand where they mean
nothing. Writing the steps anew gives a text without any of this, from which the same steps are read.
Steps that were read from a text can always be written: the root and the current directory only
start a path, and names hold no slash and are not mistaken for dots.
-/

namespace Frontend.Path

/-! ## Texts cut at slashes -/

theorem slash_notMem_of_mem_splitSlash (text : List Char) :
    ∀ piece ∈ splitSlash text, '/' ∉ piece := by
  induction text with
  | nil => simp [splitSlash]
  | cons c rest ih =>
      by_cases slash : c = '/'
      · simpa [splitSlash, slash] using ih
      · cases cut : splitSlash rest with
        | nil => exact absurd cut (splitSlash_ne_nil rest)
        | cons first pieces =>
            rw [cut] at ih
            have other : '/' ≠ c := Ne.symm slash
            simpa [splitSlash, slash, cut, other] using ih

/-- A slash ends one piece and begins another. -/
theorem splitSlash_append_slash (front back : List Char) :
    splitSlash (front ++ '/' :: back) = splitSlash front ++ splitSlash back := by
  induction front with
  | nil => simp [splitSlash]
  | cons c rest ih =>
      by_cases slash : c = '/'
      · simp [splitSlash, slash, ih]
      · cases cut : splitSlash rest with
        | nil => exact absurd cut (splitSlash_ne_nil rest)
        | cons first pieces => simp [splitSlash, slash, ih, cut]

theorem splitSlash_of_notMem {text : List Char} (whole : '/' ∉ text) :
    splitSlash text = [text] := by
  induction text with
  | nil => rfl
  | cons c rest ih =>
      rw [List.mem_cons, not_or] at whole
      simp [splitSlash, Ne.symm whole.1, ih whole.2]

theorem splitSlash_joinSlash {pieces : List (List Char)} (nonempty : pieces ≠ [])
    (whole : ∀ piece ∈ pieces, '/' ∉ piece) : splitSlash (joinSlash pieces) = pieces := by
  induction pieces with
  | nil => exact absurd rfl nonempty
  | cons first rest ih =>
      have firstWhole := splitSlash_of_notMem (whole first List.mem_cons_self)
      cases rest with
      | nil => exact firstWhole
      | cons second others =>
          have restWhole : ∀ piece ∈ second :: others, '/' ∉ piece := by
            intro piece member
            exact whole piece (List.mem_cons_of_mem first member)
          rw [joinSlash, splitSlash_append_slash, firstWhole, ih (by simp) restWhole]
          · rfl
          · simp

theorem slash_notMem_of_mem_pieces (path : Path) :
    ∀ piece ∈ path.pieces, '/' ∉ piece.toList := by
  intro piece member
  obtain ⟨chars, isPiece, rfl⟩ := List.mem_map.mp member
  rw [String.toList_ofList]
  exact slash_notMem_of_mem_splitSlash _ chars isPiece

theorem pieces_textOfPieces {pieces : List String} (nonempty : pieces ≠ [])
    (whole : ∀ piece ∈ pieces, '/' ∉ piece.toList) :
    (Path.mk (textOfPieces pieces)).pieces = pieces := by
  have cut : splitSlash (joinSlash (pieces.map String.toList)) = pieces.map String.toList := by
    apply splitSlash_joinSlash
    · simpa using nonempty
    · simpa using whole
  simp [Path.pieces, textOfPieces, cut, Function.comp_def]

/-! ## Parts -/

/-- The parts could have been cut from a text: no piece holds a slash, and a free path does not
begin with a piece that would anchor it. -/
structure Parts.WellCut (parts : Parts) : Prop where
  whole : ∀ piece ∈ parts.body, '/' ∉ piece.toList
  loud : parts.anchor = .free → ∀ piece ∈ parts.body.head?, silent piece = false

theorem wellCut_parts (path : Path) : path.parts.WellCut := by
  have whole := path.slash_notMem_of_mem_pieces
  rw [parts]
  cases cut : path.pieces with
  | nil => exact ⟨by simp, by simp⟩
  | cons first rest =>
      rw [cut, List.forall_mem_cons] at whole
      by_cases rooted : first = ""
      · by_cases nothing : rest.isEmpty = true
        · simp only [rooted, nothing, if_true]
          exact ⟨by simp, by simp⟩
        · simp only [rooted, nothing, if_true]
          exact ⟨whole.2, by simp⟩
      · by_cases dotted : first = "."
        · simp only [dotted, if_true, if_neg (show ¬"." = "" by decide)]
          exact ⟨whole.2, by simp⟩
        · simp only [rooted, dotted, if_false]
          refine ⟨List.forall_mem_cons.mpr whole, ?_⟩
          simp [silent, rooted, dotted]

/-- A path that is written from its parts is cut into them again. The root alone has an empty piece
behind its slash. -/
theorem parts_ofParts {parts : Parts} (cut : parts.WellCut) (some : parts.body ≠ []) :
    (ofParts parts).parts = parts := by
  obtain ⟨whole, loud⟩ := cut
  obtain ⟨anchor, body⟩ := parts
  cases body with
  | nil => exact absurd rfl some
  | cons first rest =>
      cases anchor with
      | free =>
          have pieces := pieces_textOfPieces (by simp) whole
          have firstLoud : silent first = false := loud rfl first rfl
          simp only [silent, Bool.or_eq_false_iff, beq_eq_false_iff_ne] at firstLoud
          simp [ofParts, Path.parts, pieces, firstLoud]
      | root =>
          have rootWhole : ∀ piece ∈ "" :: first :: rest, '/' ∉ piece.toList := by
            simpa using whole
          have pieces := pieces_textOfPieces (by simp) rootWhole
          simp [ofParts, Path.parts, pieces]
      | here =>
          have hereWhole : ∀ piece ∈ "." :: first :: rest, '/' ∉ piece.toList := by
            simpa using whole
          have pieces := pieces_textOfPieces (by simp) hereWhole
          simp [ofParts, Path.parts, pieces]

/-- The steps of a path that is written from its parts. -/
theorem components_ofParts {parts : Parts} (cut : parts.WellCut) :
    (ofParts parts).components =
      parts.anchor.components ++ parts.body.filterMap Component.ofPiece? := by
  by_cases none : parts.body = []
  · obtain ⟨anchor, body⟩ := parts
    subst none
    cases anchor <;> rfl
  · rw [components, parts_ofParts cut none]

/-! ## Steps -/

/-- A text by which a directory can hold an entry. -/
def IsName (text : String) : Prop :=
  silent text = false ∧ text ≠ ".." ∧ '/' ∉ text.toList

instance (text : String) : Decidable (IsName text) :=
  inferInstanceAs (Decidable (_ ∧ _ ∧ _))

/-- The step can stand after the start of a path. -/
def Component.IsInner : Component → Prop
  | .root | .current => False
  | .parent => True
  | .name text => IsName text

namespace Component

theorem ofPiece?_text {step : Component} (inner : step.IsInner) :
    ofPiece? step.text = some step := by
  cases step with
  | root | current => exact inner.elim
  | parent => rfl
  | name text =>
      obtain ⟨loud, notParent, -⟩ := inner
      simp [ofPiece?, Component.text, loud, notParent]

theorem slash_notMem_text {step : Component} (inner : step.IsInner) : '/' ∉ step.text.toList := by
  cases step with
  | root | current => exact inner.elim
  | parent => decide
  | name text => exact inner.2.2

theorem silent_text {step : Component} (inner : step.IsInner) : silent step.text = false := by
  cases step with
  | root | current => exact inner.elim
  | parent => rfl
  | name text => exact inner.1

theorem isInner_of_ofPiece? {piece : String} {step : Component} (whole : '/' ∉ piece.toList)
    (read : ofPiece? piece = some step) : step.IsInner := by
  unfold ofPiece? at read
  split at read
  · cases read
  · rename_i loud
    split at read
    · cases read
      trivial
    · rename_i notParent
      cases read
      exact ⟨Bool.eq_false_iff.mpr loud, notParent, whole⟩

end Component

/-- The steps can be read from a text: they start with what an anchor stands for, and then go on
with inner steps. -/
def Writable (steps : List Component) : Prop :=
  ∃ (anchor : Anchor) (inner : List Component),
    steps = anchor.components ++ inner ∧ ∀ step ∈ inner, step.IsInner

/-- The pieces between slashes stand for inner steps. -/
theorem isInner_of_mem_filterMap {pieces : List String}
    (whole : ∀ piece ∈ pieces, '/' ∉ piece.toList) :
    ∀ step ∈ pieces.filterMap Component.ofPiece?, step.IsInner := by
  intro step member
  obtain ⟨piece, isPiece, read⟩ := List.mem_filterMap.mp member
  exact Component.isInner_of_ofPiece? (whole piece isPiece) read

theorem writable_components (path : Path) : Writable path.components :=
  ⟨path.parts.anchor, path.parts.body.filterMap Component.ofPiece?, rfl,
    isInner_of_mem_filterMap path.wellCut_parts.whole⟩

/-- Inner steps are written as one piece each. -/
theorem wellCut_of_isInner (anchor : Anchor) {inner : List Component}
    (isInner : ∀ step ∈ inner, step.IsInner) :
    Parts.WellCut ⟨anchor, inner.map Component.text⟩ := by
  constructor
  · intro piece member
    obtain ⟨step, isStep, rfl⟩ := List.mem_map.mp member
    exact Component.slash_notMem_text (isInner step isStep)
  · intro _ piece first
    obtain ⟨step, isFirst, rfl⟩ := Option.map_eq_some_iff.mp (List.head?_map ▸ first)
    exact Component.silent_text (isInner step (List.mem_of_head? isFirst))

theorem filterMap_ofPiece?_text {inner : List Component}
    (isInner : ∀ step ∈ inner, step.IsInner) :
    (inner.map Component.text).filterMap Component.ofPiece? = inner := by
  induction inner with
  | nil => rfl
  | cons step rest ih =>
      rw [List.forall_mem_cons] at isInner
      rw [List.map_cons, List.filterMap_cons_some (Component.ofPiece?_text isInner.1),
        ih isInner.2]

theorem ofComponents_eq_ofParts (anchor : Anchor) {inner : List Component}
    (isInner : ∀ step ∈ inner, step.IsInner) :
    ofComponents (anchor.components ++ inner) = ofParts ⟨anchor, inner.map Component.text⟩ := by
  cases anchor with
  | root => rfl
  | here => rfl
  | free =>
      cases inner with
      | nil => rfl
      | cons step rest =>
          cases step with
          | root => exact (isInner .root List.mem_cons_self).elim
          | current | parent | name => rfl

/-- What is written from steps is read as these steps. -/
theorem components_ofComponents {steps : List Component} (writable : Writable steps) :
    (ofComponents steps).components = steps := by
  obtain ⟨anchor, inner, rfl, isInner⟩ := writable
  rw [ofComponents_eq_ofParts anchor isInner,
    components_ofParts (wellCut_of_isInner anchor isInner), filterMap_ofPiece?_text isInner]

end Frontend.Path
