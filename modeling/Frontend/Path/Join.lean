import Frontend.Path.Basic

/-!
# Joining paths and making them relative

Joining is on texts: an absolute right side replaces the left, otherwise the two texts meet at
exactly one separating slash if the left one does not end in one already. Making a path relative
to a base is on components, and returns the rest of the text as it was written.
-/

namespace Frontend.Path

/-- `base` followed by `path`; an absolute `path` stands alone. Joining the empty path leaves a
trailing slash. -/
def join (base path : Path) : Path :=
  if path.isAbsolute then path
  else if base.isEmpty || base.text.toList.getLast? == some '/' then ⟨base.text ++ path.text⟩
  else ⟨base.text ++ "/" ++ path.text⟩

/-- The path begins with all components of `base`. -/
def startsWith (path base : Path) : Bool :=
  base.components.isPrefixOf path.components

/-- Drops the first `count` pieces that stand for a step, and the silent ones among them. -/
def dropSteps : Nat → List String → List String
  | 0, body => body
  | _ + 1, [] => []
  | count + 1, piece :: body =>
      if silent piece then dropSteps (count + 1) body else dropSteps count body

/-- The text of a path after its first `count` components. With nothing dropped only what trails
is trimmed, otherwise also the slashes and dots that would now lead. -/
def dropComponents (count : Nat) (path : Path) : Path :=
  if count = 0 then ofParts ⟨path.parts.anchor, trimEnd path.parts.body⟩
  else
    let steps := count - path.parts.anchor.components.length
    ⟨textOfPieces (trimEnd ((dropSteps steps path.parts.body).dropWhile silent))⟩

/-- The rest of a path that begins with `base`. -/
def relativeTo? (path base : Path) : Option Path :=
  if path.startsWith base then some (path.dropComponents base.components.length) else none

/-- The rest of a path inside `base`, and the path itself when it lies elsewhere. -/
def relativeTo (path base : Path) : Path :=
  (path.relativeTo? base).getD path

end Frontend.Path
