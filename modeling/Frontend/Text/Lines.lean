/-!
# Lines of a text

A line ends at a line feed, which is not part of it, and neither is a carriage return right before
the line feed. A last line without a line feed counts when it is not empty, and keeps a carriage
return at its end.
-/

namespace Frontend.Text

/-- The lines of a text of which `begun`, last character first, has been read since the last line
feed. -/
def linesFrom (begun : List Char) : List Char → List (List Char)
  | [] => if begun.isEmpty then [] else [begun.reverse]
  | c :: rest =>
      if c = '\n' then
        let line := if begun.head? = some '\r' then begun.tail else begun
        line.reverse :: linesFrom [] rest
      else linesFrom (c :: begun) rest

/-- The lines of a text. -/
def lines (text : String) : List String :=
  (linesFrom [] text.toList).map String.ofList

end Frontend.Text
