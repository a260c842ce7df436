import Frontend.Path.Basic

/-!
# Parents, file names, stems and extensions

All of these read the last step of a path. Taking a parent keeps the text in front of that step
as it was written, less the slashes and dots that would now trail.
-/

namespace Frontend.Path

/-! ## Parents -/

/-- The proper ancestors, nearest first, of the path with this anchor whose pieces are given from
the last one backwards. -/
def aboveOf (anchor : Anchor) : List String → List Path
  | [] => if anchor = .here then [⟨""⟩] else []
  | piece :: before =>
      if silent piece then aboveOf anchor before
      else ofParts ⟨anchor, (before.dropWhile silent).reverse⟩ :: aboveOf anchor before

/-- The proper ancestors of a path, nearest first. A relative path ends at the empty path, an
absolute one at the root. -/
def above (path : Path) : List Path :=
  aboveOf path.parts.anchor path.parts.body.reverse

/-- The path without its last step; the root and the empty path have none. -/
def parent? (path : Path) : Option Path :=
  path.above.head?

/-- A path and its proper ancestors, nearest first. -/
def ancestors (path : Path) : List Path :=
  path :: path.above

/-! ## File name, stem and extension -/

/-- The last step, when it is a name. -/
def fileName? (path : Path) : Option String :=
  match (trimEnd path.parts.body).getLast? with
  | none => none
  | some piece => if piece = ".." then none else some piece

/-- Cuts a list at the last of its marks: what stands before it, and what stands behind it. It is not
cut at its first element. -/
def cutAtLast {α : Type} [DecidableEq α] (mark : α) (list : List α) : List α × Option (List α) :=
  let backwards := list.reverse
  match backwards.dropWhile (· ≠ mark) with
  | [] => (list, none)
  | [_] => (list, none)
  | _ :: before => (before.reverse, some (backwards.takeWhile (· ≠ mark)).reverse)

/-- Splits a file name at its last dot. A name whose only dot is its first character has no
extension, and neither has `..`. -/
def splitExtension (name : String) : String × Option String :=
  if name = ".." then (name, none)
  else
    let (stem, extension) := cutAtLast '.' name.toList
    (String.ofList stem, extension.map String.ofList)

/-- The file name without its extension. -/
def stem? (path : Path) : Option String :=
  path.fileName?.map fun name => (splitExtension name).1

/-- What follows the last dot of the file name. -/
def extension? (path : Path) : Option String :=
  path.fileName?.bind fun name => (splitExtension name).2

/-- What stays of the last name of a path when its extension is taken away: the stem. A stem that is
a single dot keeps the dot before the extension, provided that nothing trails the name. -/
def nameWithoutExtension (stem : String) (nothingTrails : Bool) : String :=
  if stem = "." && nothingTrails then ".." else stem

/-- The path cut before its extension, which also drops what trails the file name; a path without a
file name stays as it is. -/
def withoutExtension (path : Path) : Path :=
  match path.stem? with
  | none => path
  | some stem =>
      let body := path.parts.body
      let named := trimEnd body
      let last := nameWithoutExtension stem (named.length == body.length)
      ofParts ⟨path.parts.anchor, named.dropLast ++ [last]⟩

/-- The path named by `name`, with the extension added when the name has none. -/
def ofName (name extension : String) : Path :=
  if (Path.mk name).extension?.isSome then ⟨name⟩ else ⟨name ++ "." ++ extension⟩

end Frontend.Path
