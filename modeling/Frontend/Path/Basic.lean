/-!
# Paths as texts, and their components

A path is kept exactly as it was written: doubled and trailing slashes are part of its text and
show up wherever the path is printed. What a path *means* is its list of components, and two
paths are the same when their components agree. A text is read by cutting it at the slashes into
pieces. A first piece may anchor the path, at the root or at a written current directory; of the
pieces after the anchor, empty ones and single dots are silent.
-/

namespace Frontend

/-- A path, as the text that was written. -/
structure Path where
  text : String
deriving DecidableEq, Repr, Inhabited

namespace Path

/-! ## Pieces between slashes -/

/-- The pieces of a text between its slashes; there is one more piece than there are slashes. -/
def splitSlash : List Char → List (List Char)
  | [] => [[]]
  | c :: rest =>
      if c = '/' then [] :: splitSlash rest
      else
        match splitSlash rest with
        | [] => [[c]]
        | piece :: pieces => (c :: piece) :: pieces

/-- Puts one slash between neighbouring pieces, so that it undoes `splitSlash`. -/
def joinSlash : List (List Char) → List Char
  | [] => []
  | [piece] => piece
  | piece :: pieces => piece ++ '/' :: joinSlash pieces

theorem splitSlash_ne_nil (text : List Char) : splitSlash text ≠ [] := by
  induction text with
  | nil => simp [splitSlash]
  | cons c rest ih =>
      simp only [splitSlash]
      split
      · simp
      · split <;> simp

/-- Cutting at the slashes loses nothing. -/
@[simp]
theorem joinSlash_splitSlash (text : List Char) : joinSlash (splitSlash text) = text := by
  induction text with
  | nil => rfl
  | cons c rest ih =>
      by_cases slash : c = '/'
      · cases cut : splitSlash rest with
        | nil => exact absurd cut (splitSlash_ne_nil rest)
        | cons piece pieces =>
            rw [cut] at ih
            simp [splitSlash, slash, cut, joinSlash, ih]
      · cases cut : splitSlash rest with
        | nil => exact absurd cut (splitSlash_ne_nil rest)
        | cons piece pieces =>
            rw [cut] at ih
            cases pieces with
            | nil => simpa [splitSlash, slash, cut, joinSlash] using ih
            | cons next pieces => simpa [splitSlash, slash, cut, joinSlash] using ih

/-- The pieces of a path between its slashes. -/
def pieces (path : Path) : List String :=
  (splitSlash path.text.toList).map String.ofList

/-- The text with the given pieces between its slashes. -/
def textOfPieces (pieces : List String) : String :=
  String.ofList (joinSlash (pieces.map String.toList))

/-- An empty piece or a single dot stands for nothing, unless it anchors the path. -/
def silent (piece : String) : Bool :=
  piece == "" || piece == "."

/-! ## Anchor and body -/

/-- What a path starts from: nothing in particular, the root, or a written `.`. -/
inductive Anchor where
  | free
  | root
  | here
deriving DecidableEq, Repr

/-- A path cut into its anchor and the pieces after it. -/
structure Parts where
  anchor : Anchor
  body : List String
deriving DecidableEq, Repr

/-- A leading slash anchors at the root and a leading `.` at the current directory; the empty
text has neither anchor nor pieces. -/
def parts (path : Path) : Parts :=
  match path.pieces with
  | [] => ⟨.free, []⟩
  | first :: rest =>
      if first = "" then
        if rest.isEmpty then ⟨.free, []⟩ else ⟨.root, rest⟩
      else if first = "." then ⟨.here, rest⟩
      else ⟨.free, first :: rest⟩

/-- Writes an anchor and the pieces after it. -/
def ofParts (parts : Parts) : Path :=
  match parts.anchor with
  | .free => ⟨textOfPieces parts.body⟩
  | .root => ⟨textOfPieces ("" :: if parts.body.isEmpty then [""] else parts.body)⟩
  | .here => ⟨textOfPieces ("." :: parts.body)⟩

/-- Drops silent pieces at the end. -/
def trimEnd (body : List String) : List String :=
  (body.reverse.dropWhile silent).reverse

/-! ## Components -/

/-- One step of a path. -/
inductive Component where
  | root
  | current
  | parent
  | name (text : String)
deriving DecidableEq, Repr

/-- The step that a piece after the anchor stands for. -/
def Component.ofPiece? (piece : String) : Option Component :=
  if silent piece then none
  else if piece = ".." then some .parent
  else some (.name piece)

/-- The step that an anchor stands for. -/
def Anchor.components : Anchor → List Component
  | .free => []
  | .root => [.root]
  | .here => [.current]

/-- The steps of a path. Doubled slashes, trailing slashes and dots after the start leave no
trace. -/
def components (path : Path) : List Component :=
  path.parts.anchor.components ++ path.parts.body.filterMap Component.ofPiece?

/-- Two spellings of one path: their components agree. -/
def same (left right : Path) : Bool :=
  left.components == right.components

theorem same_iff {left right : Path} :
    left.same right = true ↔ left.components = right.components := by
  simp [same]

/-- The text of a step. -/
def Component.text : Component → String
  | .root => "/"
  | .current => "."
  | .parent => ".."
  | .name text => text

/-- Writes steps with single slashes between them. -/
def ofComponents : List Component → Path
  | .root :: rest => ofParts ⟨.root, rest.map Component.text⟩
  | steps => ⟨textOfPieces (steps.map Component.text)⟩

/-- A path is absolute when it starts with a slash. -/
def isAbsolute (path : Path) : Bool :=
  path.text.toList.head? == some '/'

/-- The path has no text at all. -/
def isEmpty (path : Path) : Bool :=
  path.text.isEmpty

end Path

end Frontend
