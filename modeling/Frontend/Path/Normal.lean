import Frontend.Path.Basic

/-!
# Lexical normal form

A path is put in normal form by looking at its text alone: current-directory steps vanish and a
parent step cancels the name before it. A parent step with no name to cancel stays at the front
of a relative path and vanishes at the root.
-/

namespace Frontend.Path

/-- Takes one more step from the place reached by `trail`, a list of steps with the last one
first. -/
def stepFrom (trail : List Component) : Component → List Component
  | .root => [.root]
  | .current => trail
  | .name text => .name text :: trail
  | .parent =>
      match trail with
      | .name _ :: rest => rest
      | .root :: rest => .root :: rest
      | _ => .parent :: trail

/-- The steps of the normal form. -/
def normalSteps (steps : List Component) : List Component :=
  (steps.foldl stepFrom []).reverse

/-- The lexical normal form of a path; it never looks at the file tree. -/
def normal (path : Path) : Path :=
  ofComponents (normalSteps path.components)

/-- The text of a path with every backslash turned into a slash. -/
def forwardSlashes (path : Path) : String :=
  String.ofList (path.text.toList.map fun c => if c = '\\' then '/' else c)

end Frontend.Path
