import Frontend.Text.Lowercase.Table

/-!
# Lowercase texts

Every character is replaced by its lowercase form. Two characters need more than a table: the
capital I with a dot above becomes two characters, and a capital sigma becomes a final sigma at the
end of a word, which is when a letter with case comes before it and none comes after it, passing
over marks in both directions.
-/

namespace Frontend.Text.Lowercase

/-- The lowercase partner of a character with a single one, and any other character itself. -/
def partner (c : Char) : Char :=
  let code := c.toNat
  match runs.find? fun run =>
      run.first ≤ code && code ≤ run.last && (code - run.first) % run.step == 0 with
  | some run => Char.ofNat (code + run.distance).toNat
  | none => c

/-- The code lies in one of the ranges. -/
def inRanges (ranges : List (Nat × Nat)) (c : Char) : Bool :=
  ranges.any fun range => range.1 ≤ c.toNat && c.toNat ≤ range.2

/-- The character is a letter that has case. -/
def isCased (c : Char) : Bool :=
  inRanges casedRanges c

/-- The character is passed over when looking for the neighbouring letter. -/
def isIgnorable (c : Char) : Bool :=
  inRanges ignorableRanges c

/-- The nearest character that is not passed over is a letter that has case. -/
def meetsCased (neighbours : List Char) : Bool :=
  match neighbours.dropWhile isIgnorable with
  | [] => false
  | c :: _ => isCased c

/-- The lowercase form of a character, given what stands before it, last character first, and what
follows it. -/
def form (before : List Char) (c : Char) (after : List Char) : List Char :=
  if c = 'Σ' then
    if meetsCased before && !meetsCased after then ['ς'] else ['σ']
  else if c = 'İ' then ['i', '\u0307']
  else [partner c]

/-- The lowercase form of the rest of a text that began with `before`, last character first. -/
def lowerFrom (before : List Char) : List Char → List Char
  | [] => []
  | c :: after => form before c after ++ lowerFrom (c :: before) after

end Lowercase

/-- The lowercase form of a text. -/
def lowercase (text : String) : String :=
  String.ofList (Lowercase.lowerFrom [] text.toList)

end Frontend.Text
