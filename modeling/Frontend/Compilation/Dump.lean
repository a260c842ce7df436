import Frontend.Compilation.Basic
import Frontend.Text.Json

/-!
# The dump

What an editor asks about a compilation is written as indented JSON: version, paths, defined symbols
in the order of their names, search paths, and the active notes in the order of their kinds.
-/

namespace Frontend.Compilation

open Text

/-- The defined symbols in the order of their names. -/
def sortedDefines (compilation : Compilation) : List (String × String) :=
  compilation.defines.entries.mergeSort fun left right => left.1 ≤ right.1

/-- Paths as texts with forward slashes, in a list at the first depth. -/
def dumpPaths (paths : List Path) : String :=
  Json.list 1 (paths.map fun path => Json.quote path.forwardSlashes)

/-- The dump of a compilation. -/
def dump (compilation : Compilation) : String :=
  let resolver := compilation.resolver
  Json.record 0
    [ ("version", Json.quote version),
      ("project_path", Json.quote resolver.project.forwardSlashes),
      ("lib_path", Json.quote resolver.library.forwardSlashes),
      ("defined_symbols", Json.list 1 (compilation.sortedDefines.map fun symbol =>
        Json.record 2 [("name", Json.quote symbol.1), ("value", Json.quote symbol.2)])),
      ("search_paths", dumpPaths resolver.searchPaths),
      ("lazy_paths", dumpPaths resolver.lazyPaths),
      ("active_notes", Json.list 1 (compilation.notes.active.toList.map fun kind =>
        Json.quote (Named.name kind))) ]

end Frontend.Compilation
