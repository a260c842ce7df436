/-!
# Reading bytes as text

Bytes are decoded as UTF-8, and what is not UTF-8 is replaced: the longest beginning of a character
that cannot be completed becomes one replacement character, and so does a byte that can begin
nothing. The byte that breaks a character off is read again as the start of the next one.
-/

namespace Frontend.Text.Utf8

/-- The character that stands for bytes that are not UTF-8. -/
def replacement : Char :=
  '\uFFFD'

/-- A character that has begun: the bits read so far, how many bytes are still owed, and the range
in which the next byte must lie. -/
structure Begun where
  bits : Nat
  owed : Nat
  low : Nat
  high : Nat
deriving DecidableEq, Repr

/-- What a byte does where a character may begin: the characters it completes, and the character it
begins. After some first bytes the range of the second is narrower, which keeps out overlong forms,
surrogates and codes that are too large. -/
def start (byte : Nat) : List Char × Option Begun :=
  if byte < 0x80 then ([Char.ofNat byte], none)
  else if 0xC2 ≤ byte ∧ byte ≤ 0xDF then ([], some ⟨byte - 0xC0, 1, 0x80, 0xBF⟩)
  else if byte = 0xE0 then ([], some ⟨0, 2, 0xA0, 0xBF⟩)
  else if byte = 0xED then ([], some ⟨0xD, 2, 0x80, 0x9F⟩)
  else if 0xE1 ≤ byte ∧ byte ≤ 0xEF then ([], some ⟨byte - 0xE0, 2, 0x80, 0xBF⟩)
  else if byte = 0xF0 then ([], some ⟨0, 3, 0x90, 0xBF⟩)
  else if 0xF1 ≤ byte ∧ byte ≤ 0xF3 then ([], some ⟨byte - 0xF0, 3, 0x80, 0xBF⟩)
  else if byte = 0xF4 then ([], some ⟨4, 3, 0x80, 0x8F⟩)
  else ([replacement], none)

/-- What a byte does after a character has begun. -/
def resume (begun : Begun) (byte : Nat) : List Char × Option Begun :=
  if begun.low ≤ byte ∧ byte ≤ begun.high then
    let bits := begun.bits * 64 + (byte - 0x80)
    if begun.owed ≤ 1 then ([Char.ofNat bits], none)
    else ([], some ⟨bits, begun.owed - 1, 0x80, 0xBF⟩)
  else
    let (chars, next) := start byte
    (replacement :: chars, next)

/-- Decodes the rest of a text, with or without a character that has begun. -/
def decodeFrom : Option Begun → List UInt8 → List Char
  | none, [] => []
  | some _, [] => [replacement]
  | none, byte :: bytes =>
      let (chars, next) := start byte.toNat
      chars ++ decodeFrom next bytes
  | some begun, byte :: bytes =>
      let (chars, next) := resume begun byte.toNat
      chars ++ decodeFrom next bytes

/-- The text of the bytes. -/
def decode (bytes : List UInt8) : String :=
  String.ofList (decodeFrom none bytes)

/-- The bytes of a text. -/
def encode (text : String) : List UInt8 :=
  text.toUTF8.toList

end Frontend.Text.Utf8
