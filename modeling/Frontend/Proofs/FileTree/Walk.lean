import Frontend.FileTree.Walk
import Frontend.Proofs.Path.Above

/-!
# Spellings that lead to one place

A walk passes over silent pieces without a look at the tree, so that two spellings of one path lead
to the same place. There are two exceptions. A slash that trails a file asks for a directory, which
is why only tidy paths are compared. And a text can be too long to be looked up while another
spelling of the same path is not.

A walk that starts at proper names collects nothing but proper names on its way.
-/

namespace Frontend.FileTree

open Frontend.Path

/-! ## Silent pieces -/

/-- A list of pieces that is empty or ends with one that is not silent. -/
def EndsLoud (pieces : List String) : Prop :=
  ∀ piece ∈ pieces.getLast?, silent piece = false

/-- The pieces that are not silent. -/
def loud (pieces : List String) : List String :=
  pieces.filter fun piece => !silent piece

theorem EndsLoud.tail {piece : String} {rest : List String} (ends : EndsLoud (piece :: rest)) :
    EndsLoud rest := by
  intro last isLast
  apply ends last
  rw [Option.mem_def] at isLast ⊢
  rw [List.getLast?_cons, isLast]
  rfl

/-- Where the last piece is not silent, only the empty list has nothing but silent ones. -/
theorem EndsLoud.isEmpty_loud {pieces : List String} (ends : EndsLoud pieces) :
    (loud pieces).isEmpty = pieces.isEmpty := by
  cases last : pieces.getLast? with
  | none => rw [List.getLast?_eq_none_iff.mp last]; rfl
  | some piece =>
      have member : piece ∈ loud pieces :=
        List.mem_filter.mpr ⟨List.mem_of_getLast? last, by simp [ends piece last]⟩
      have nonempty : pieces ≠ [] := List.ne_nil_of_mem (List.mem_of_getLast? last)
      rw [List.isEmpty_eq_false_iff.mpr (List.ne_nil_of_mem member),
        List.isEmpty_eq_false_iff.mpr nonempty]

variable (tree : FileTree) (fits : Place → Bool) (followLast : Bool)

/-- A walk may leave out silent pieces, if those who follow the links may. -/
theorem walkPieces_loud
    {follow : Place → Path → List String → Except FileError Place}
    (passesOver : ∀ here target rest, EndsLoud rest →
      follow here target rest = follow here target (loud rest))
    {pieces : List String} (ends : EndsLoud pieces) (here : Place) :
    walkPieces tree fits followLast follow here pieces =
      walkPieces tree fits followLast follow here (loud pieces) := by
  induction pieces generalizing here with
  | nil => rfl
  | cons piece rest ih =>
      cases quiet : silent piece with
      | true =>
          have dropped : loud (piece :: rest) = loud rest := by simp [loud, quiet]
          rw [walkPieces, if_pos quiet, ih ends.tail, dropped]
      | false =>
          have kept : loud (piece :: rest) = piece :: loud rest := by simp [loud, quiet]
          rw [kept, walkPieces, walkPieces]
          simp only [quiet, Bool.false_eq_true, if_false, ends.tail.isEmpty_loud, ih ends.tail,
            passesOver _ _ _ ends.tail]

theorem EndsLoud.append {pieces rest : List String} (nonempty : rest ≠ []) (ends : EndsLoud rest) :
    EndsLoud (pieces ++ rest) := by
  intro last isLast
  apply ends last
  rwa [List.getLast?_append_of_ne_nil pieces nonempty] at isLast

theorem endsLoud_loud (pieces : List String) : EndsLoud (loud pieces) := by
  intro piece last
  simpa using (List.mem_filter.mp (List.mem_of_getLast? last)).2

theorem walkWithin_loud (links : Nat) {pieces : List String} (ends : EndsLoud pieces)
    (start : Place) :
    walkWithin tree fits followLast links start pieces =
      walkWithin tree fits followLast links start (loud pieces) := by
  induction links generalizing start pieces with
  | zero => exact walkPieces_loud tree fits followLast (fun _ _ _ _ => rfl) ends start
  | succ links ih =>
      apply walkPieces_loud tree fits followLast _ ends
      intro here target rest endsRest
      by_cases nothing : rest = []
      · rw [nothing]
        rfl
      · have some : loud rest ≠ [] := by
          rw [Ne, ← List.isEmpty_iff, endsRest.isEmpty_loud, List.isEmpty_iff]
          exact nothing
        rw [ih (endsRest.append nothing), ih ((endsLoud_loud rest).append some)]
        simp [loud]

/-! ## Tidy spellings -/

theorem walkWithin_cons_of_silent (links : Nat) {piece : String} (quiet : silent piece = true)
    (start : Place) (rest : List String) :
    walkWithin tree fits followLast links start (piece :: rest) =
      walkWithin tree fits followLast links start rest := by
  cases links with
  | zero | succ => rw [walkWithin, walkPieces, if_pos quiet]

/-- Only silent pieces stand before the body of a path. -/
theorem walkWithin_ofParts (links : Nat) {anchor : Anchor} {body : List String}
    (cut : Parts.WellCut ⟨anchor, body⟩) (start : Place) :
    walkWithin tree fits followLast links start (ofParts ⟨anchor, body⟩).pieces =
      walkWithin tree fits followLast links start body := by
  have nothing : walkWithin tree fits followLast links start [""] =
      walkWithin tree fits followLast links start [] :=
    walkWithin_cons_of_silent tree fits followLast links rfl start []
  cases anchor with
  | free =>
      cases body with
      | nil => exact nothing
      | cons first rest => rw [ofParts, pieces_textOfPieces (List.cons_ne_nil first rest) cut.whole]
  | root =>
      cases body with
      | nil =>
          have pieces : (ofParts ⟨.root, []⟩).pieces = ["", ""] := rfl
          rw [pieces, walkWithin_cons_of_silent tree fits followLast links rfl, nothing]
      | cons first rest =>
          have whole : ∀ piece ∈ "" :: first :: rest, '/' ∉ piece.toList := by
            simpa using cut.whole
          simp only [ofParts, List.isEmpty_cons, Bool.false_eq_true, if_false]
          rw [pieces_textOfPieces (List.cons_ne_nil _ _) whole,
            walkWithin_cons_of_silent tree fits followLast links rfl]
  | here =>
      have whole : ∀ piece ∈ "." :: body, '/' ∉ piece.toList := by
        simpa using cut.whole
      rw [ofParts, pieces_textOfPieces (List.cons_ne_nil _ _) whole,
        walkWithin_cons_of_silent tree fits followLast links rfl]

/-- A tidy path is walked like its steps. -/
theorem walkWithin_of_tidy (links : Nat) {path : Path} (tidy : path.Tidy) (start : Place) :
    walkWithin tree fits followLast links start path.pieces =
      walkWithin tree fits followLast links start (path.innerSteps.map Component.text) := by
  obtain ⟨⟨anchor, body⟩, rfl, cut, ends⟩ := tidy
  rw [walkWithin_ofParts tree fits followLast links cut,
    walkWithin_loud tree fits followLast links ends, innerSteps_ofParts cut,
    map_text_filterMap_ofPiece?]
  rfl

theorem spellingFault?_of_same {first second : Path} (same : first.components = second.components) :
    spellingFault? first = spellingFault? second := by
  have empty : first.isEmpty = second.isEmpty := by
    rw [Bool.eq_iff_iff, Path.isEmpty_iff, Path.isEmpty_iff, same]
  have invalid : first.text.toList.contains '\x00' = second.text.toList.contains '\x00' := by
    rw [Bool.eq_iff_iff, List.contains_iff_mem, List.contains_iff_mem,
      mem_text_iff (by decide) (by decide), mem_text_iff (by decide) (by decide),
      (parts_of_same same).2]
  rw [spellingFault?, spellingFault?, empty, invalid]

/-- Tidy spellings of one path lead to one place, unless one of them alone is too long. -/
theorem locate_of_same {first second : Path} (tidy : first.Tidy) (tidy' : second.Tidy)
    (same : first.components = second.components)
    (short : first.text.utf8ByteSize < pathLimitBytes ↔
      second.text.utf8ByteSize < pathLimitBytes) :
    tree.locate followLast first = tree.locate followLast second := by
  have fault : textFault? first = textFault? second := by
    rw [textFault?, textFault?, spellingFault?_of_same same]
    simp only [ge_iff_le, ← Nat.not_lt, short]
  have start : origin tree.workdir first = origin tree.workdir second := by
    rw [origin, origin, isAbsolute_of_same same]
  rw [locate, locate, fault, start, walk, walk, walkWithin_of_tidy _ _ _ _ tidy,
    walkWithin_of_tidy _ _ _ _ tidy', (parts_of_same same).2]

/-- The text of the path is too long to be looked up only if its shortest spelling is. -/
def Unpadded (path : Path) : Prop :=
  path.shortest.text.utf8ByteSize < pathLimitBytes → path.text.utf8ByteSize < pathLimitBytes

/-- No directory above the path is written so that it cannot be looked up, while it could be under
its shortest spelling. -/
def UnpaddedAbove (path : Path) : Prop :=
  ∀ directory ∈ path.above, Unpadded directory

/-- No ancestor of a path has a text that is too long if the path itself has not. -/
theorem unpaddedAbove_of_short {path : Path} (short : path.text.utf8ByteSize < pathLimitBytes) :
    UnpaddedAbove path :=
  fun _ member _ => Nat.lt_of_le_of_lt (utf8ByteSize_le_of_mem_above member) short

/-- Nothing is found in a directory whose text is too long. -/
theorem regularFiles_of_long {directory : Path}
    (long : pathLimitBytes ≤ directory.text.utf8ByteSize) : tree.regularFiles directory = [] := by
  rw [regularFiles, locate, textFault?]
  cases spellingFault? directory with
  | some fault => rfl
  | none => simp only [ge_iff_le, if_pos long]

/-- A directory holds the same files under its shortest spelling. -/
theorem regularFiles_shortest {directory : Path} (tidy : directory.Tidy)
    (unpadded : Unpadded directory) :
    tree.regularFiles directory.shortest = tree.regularFiles directory := by
  have short : directory.shortest.text.utf8ByteSize < pathLimitBytes ↔
      directory.text.utf8ByteSize < pathLimitBytes :=
    ⟨unpadded, Nat.lt_of_le_of_lt directory.utf8ByteSize_shortest_le⟩
  rw [regularFiles, regularFiles,
    locate_of_same tree true directory.tidy_shortest tidy directory.components_shortest short]

/-! ## One piece of a walk -/

/-- How a walk that ends at `place` gets past a piece. -/
inductive GetsPast (follow : Place → Path → List String → Except FileError Place)
    (here place : Place) (piece : String) (rest : List String) : Prop where
  | silent (quiet : Component.ofPiece? piece = none)
      (further : walkPieces tree fits followLast follow here rest = .ok place)
  | parent (up : Component.ofPiece? piece = some .parent)
      (further : walkPieces tree fits followLast follow here.dropLast rest = .ok place)
  | directory (down : Component.ofPiece? piece = some (.name piece))
      (found : tree.lookup? (here ++ [piece]) = some .directory)
      (further : walkPieces tree fits followLast follow (here ++ [piece]) rest = .ok place)
  | file (down : Component.ofPiece? piece = some (.name piece)) {content : List UInt8}
      (found : tree.lookup? (here ++ [piece]) = some (.file content)) (last : rest = [])
      (arrived : place = here ++ [piece])
  | lastLink (down : Component.ofPiece? piece = some (.name piece)) {target : String}
      (found : tree.lookup? (here ++ [piece]) = some (.link target))
      (last : rest = [] ∧ followLast = false) (arrived : place = here ++ [piece])
  | link (down : Component.ofPiece? piece = some (.name piece)) {target : String}
      (found : tree.lookup? (here ++ [piece]) = some (.link target))
      (followed : follow here ⟨target⟩ rest = .ok place)

theorem getsPast_of_walkPieces {follow : Place → Path → List String → Except FileError Place}
    {here place : Place} {piece : String} {rest : List String}
    (reached : walkPieces tree fits followLast follow here (piece :: rest) = .ok place) :
    GetsPast tree fits followLast follow here place piece rest := by
  rw [walkPieces] at reached
  split at reached
  · rename_i quiet
    exact .silent (Component.ofPiece?_eq_none_iff.mpr quiet) reached
  · rename_i loud
    split at reached
    · rename_i isParent
      exact .parent (by rw [Component.ofPiece?, if_neg loud, if_pos isParent]) reached
    · rename_i notParent
      have down : Component.ofPiece? piece = some (.name piece) := by
        rw [Component.ofPiece?, if_neg loud, if_neg notParent]
      split at reached
      · cases reached
      · simp only at reached
        split at reached
        · cases reached
        · split at reached
          · cases reached
          · exact .directory down ‹_› reached
          · split at reached
            · cases reached
              exact .file down ‹_› (List.isEmpty_iff.mp ‹_›) rfl
            · cases reached
          · split at reached
            · rename_i last
              cases reached
              exact .lastLink down ‹_› (by simpa using last) rfl
            · exact .link down ‹_› reached

/-- A path that has a canonical one leads somewhere. -/
theorem exists_place_of_canonical? {path canonical : Path}
    (found : tree.canonical? path = some canonical) :
    ∃ place, walkWithin tree isNameable true maxLinks (origin tree.workdir path) path.pieces =
      .ok place ∧ canonical = pathTo place := by
  unfold canonical? at found
  split at found
  · cases found
  · split at found
    · rename_i place reached
      cases found
      exact ⟨place, reached, rfl⟩
    · cases found

/-! ## Proper names -/

/-- Every step to the place is a name that an entry can have. -/
def IsNamed (place : Place) : Prop :=
  ∀ name ∈ place, IsName name

instance (place : Place) : Decidable (IsNamed place) :=
  inferInstanceAs (Decidable (∀ name ∈ place, IsName name))

theorem IsNamed.dropLast {place : Place} (named : IsNamed place) : IsNamed place.dropLast :=
  fun name member => named name (List.dropLast_subset place member)

theorem IsNamed.concat {place : Place} (named : IsNamed place) {name : String}
    (isName : IsName name) : IsNamed (place ++ [name]) := by
  intro other member
  rcases List.mem_append.mp member with before | last
  · exact named other before
  · rwa [List.mem_singleton.mp last]

theorem isNamed_of_walkPieces {follow : Place → Path → List String → Except FileError Place}
    (followed : ∀ here target rest place, IsNamed here → (∀ piece ∈ rest, '/' ∉ piece.toList) →
      follow here target rest = .ok place → IsNamed place)
    {pieces : List String} (whole : ∀ piece ∈ pieces, '/' ∉ piece.toList) {here place : Place}
    (named : IsNamed here)
    (reached : walkPieces tree fits followLast follow here pieces = .ok place) :
    IsNamed place := by
  induction pieces generalizing here with
  | nil =>
      cases reached
      exact named
  | cons piece rest ih =>
      rw [List.forall_mem_cons] at whole
      have further (down : Component.ofPiece? piece = some (.name piece)) :
          IsNamed (here ++ [piece]) :=
        named.concat (Component.isInner_of_ofPiece? whole.1 down)
      cases getsPast_of_walkPieces tree fits followLast reached with
      | silent _ reached => exact ih whole.2 named reached
      | parent _ reached => exact ih whole.2 named.dropLast reached
      | directory down _ reached => exact ih whole.2 (further down) reached
      | file down _ _ arrived | lastLink down _ _ arrived => exact arrived ▸ further down
      | link _ _ reached => exact followed _ _ _ _ named whole.2 reached

theorem isNamed_origin {here : Place} (named : IsNamed here) (path : Path) :
    IsNamed (origin here path) := by
  rw [origin]
  split
  · exact fun _ member => absurd member List.not_mem_nil
  · exact named

/-- A walk ends at proper names, wherever the links on its way lead. -/
theorem isNamed_of_walkWithin (links : Nat) {pieces : List String}
    (whole : ∀ piece ∈ pieces, '/' ∉ piece.toList) {start place : Place} (named : IsNamed start)
    (reached : walkWithin tree fits followLast links start pieces = .ok place) :
    IsNamed place := by
  induction links generalizing start pieces place with
  | zero =>
      refine isNamed_of_walkPieces tree fits followLast ?_ whole named reached
      intro here target rest place _ _ followed
      cases followed
  | succ links ih =>
      refine isNamed_of_walkPieces tree fits followLast ?_ whole named reached
      intro here target rest place namedHere wholeRest followed
      refine ih ?_ (isNamed_origin namedHere target) followed
      intro piece member
      rcases List.mem_append.mp member with ofTarget | left
      · exact target.slash_notMem_of_mem_pieces piece ofTarget
      · exact wholeRest piece left

/-- A canonical path is the path to a place with proper names. -/
theorem exists_of_canonical?_eq_some (named : IsNamed tree.workdir) {path canonical : Path}
    (found : tree.canonical? path = some canonical) :
    ∃ place, IsNamed place ∧ canonical = pathTo place := by
  obtain ⟨place, reached, isCanonical⟩ := exists_place_of_canonical? tree found
  exact ⟨place, isNamed_of_walkWithin tree isNameable true maxLinks
    path.slash_notMem_of_mem_pieces (isNamed_origin named path) reached, isCanonical⟩

/-- The text of a path to a regular file is not too long. -/
theorem utf8ByteSize_lt_of_isFile {path : Path} (isFile : tree.isFile path = true) :
    path.text.utf8ByteSize < pathLimitBytes := by
  unfold FileTree.isFile find? locate textFault? at isFile
  by_contra long
  cases fault : spellingFault? path <;> simp [fault, Nat.not_lt.mp long] at isFile

end Frontend.FileTree
