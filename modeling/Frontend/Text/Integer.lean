/-!
# Integer literals

A literal is an optional sign and at least one decimal digit, and its value must fit in 64 bits
with a sign. Blanks around it are those of the Unicode white-space property.
-/

namespace Frontend.Text

/-- The white-space characters. -/
def isBlank (c : Char) : Bool :=
  let code := c.toNat
  (0x09 ≤ code && code ≤ 0x0D) || code == 0x20 || code == 0x85 || code == 0xA0 ||
    code == 0x1680 || (0x2000 ≤ code && code ≤ 0x200A) || code == 0x2028 || code == 0x2029 ||
    code == 0x202F || code == 0x205F || code == 0x3000

/-- The characters without the blanks at both ends. -/
def trimBlanks (chars : List Char) : List Char :=
  ((chars.dropWhile isBlank).reverse.dropWhile isBlank).reverse

namespace Integer

/-- The value of a decimal digit. -/
def digit? (c : Char) : Option Nat :=
  if '0' ≤ c ∧ c ≤ '9' then some (c.toNat - '0'.toNat) else none

/-- Reads on with more digits after those worth `value`. -/
def digitsFrom? (value : Nat) : List Char → Option Nat
  | [] => some value
  | c :: rest => (digit? c).bind fun digit => digitsFrom? (value * 10 + digit) rest

/-- The value of a non-empty list of digits. -/
def magnitude? : List Char → Option Nat
  | [] => none
  | chars => digitsFrom? 0 chars

/-- The value of a literal of any size. -/
def value? : List Char → Option Int
  | '-' :: digits => (magnitude? digits).map fun magnitude => -(magnitude : Int)
  | '+' :: digits => (magnitude? digits).map Int.ofNat
  | digits => (magnitude? digits).map Int.ofNat

/-- The least integer of 64 bits with a sign. -/
def least : Int := -9223372036854775808

/-- The greatest integer of 64 bits with a sign. -/
def greatest : Int := 9223372036854775807

/-- The value of a literal that fits in 64 bits with a sign. -/
def parse? (chars : List Char) : Option Int :=
  (value? chars).filter fun value => least ≤ value && value ≤ greatest

end Integer

end Frontend.Text
