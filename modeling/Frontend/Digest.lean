/-!
# SHA-256

The digest of a list of bytes. The message is padded with one bit, zeros and its length in bits to
a multiple of 64 bytes; each block of sixteen words is stretched to sixty-four and mixed into eight
running words, which together are the digest.
-/

namespace Frontend.Digest

/-- Rotates a word to the right. -/
def rotate (word : UInt32) (count : UInt32) : UInt32 :=
  (word >>> count) ||| (word <<< (32 - count))

/-- The round constants: the fractions of the cube roots of the first primes. -/
def roundConstants : List UInt32 :=
  [ 0x428a2f98, 0x71374491, 0xb5c0fbcf, 0xe9b5dba5, 0x3956c25b, 0x59f111f1, 0x923f82a4, 0xab1c5ed5,
    0xd807aa98, 0x12835b01, 0x243185be, 0x550c7dc3, 0x72be5d74, 0x80deb1fe, 0x9bdc06a7, 0xc19bf174,
    0xe49b69c1, 0xefbe4786, 0x0fc19dc6, 0x240ca1cc, 0x2de92c6f, 0x4a7484aa, 0x5cb0a9dc, 0x76f988da,
    0x983e5152, 0xa831c66d, 0xb00327c8, 0xbf597fc7, 0xc6e00bf3, 0xd5a79147, 0x06ca6351, 0x14292967,
    0x27b70a85, 0x2e1b2138, 0x4d2c6dfc, 0x53380d13, 0x650a7354, 0x766a0abb, 0x81c2c92e, 0x92722c85,
    0xa2bfe8a1, 0xa81a664b, 0xc24b8b70, 0xc76c51a3, 0xd192e819, 0xd6990624, 0xf40e3585, 0x106aa070,
    0x19a4c116, 0x1e376c08, 0x2748774c, 0x34b0bcb5, 0x391c0cb3, 0x4ed8aa4a, 0x5b9cca4f, 0x682e6ff3,
    0x748f82ee, 0x78a5636f, 0x84c87814, 0x8cc70208, 0x90befffa, 0xa4506ceb, 0xbef9a3f7, 0xc67178f2 ]

/-- The eight running words. -/
structure Words where
  a : UInt32
  b : UInt32
  c : UInt32
  d : UInt32
  e : UInt32
  f : UInt32
  g : UInt32
  h : UInt32

/-- The words before the first block: the fractions of the square roots of the first primes. -/
def Words.initial : Words where
  a := 0x6a09e667
  b := 0xbb67ae85
  c := 0x3c6ef372
  d := 0xa54ff53a
  e := 0x510e527f
  f := 0x9b05688c
  g := 0x1f83d9ab
  h := 0x5be0cd19

/-- One round with a message word and a round constant. -/
def Words.round (words : Words) (messageWord constant : UInt32) : Words :=
  let s1 := rotate words.e 6 ^^^ rotate words.e 11 ^^^ rotate words.e 25
  let choice := (words.e &&& words.f) ^^^ (~~~words.e &&& words.g)
  let t1 := words.h + s1 + choice + constant + messageWord
  let s0 := rotate words.a 2 ^^^ rotate words.a 13 ^^^ rotate words.a 22
  let majority := (words.a &&& words.b) ^^^ (words.a &&& words.c) ^^^ (words.b &&& words.c)
  { a := t1 + (s0 + majority), b := words.a, c := words.b, d := words.c,
    e := words.d + t1, f := words.e, g := words.f, h := words.g }

/-- Adds word by word. -/
def Words.add (left right : Words) : Words where
  a := left.a + right.a
  b := left.b + right.b
  c := left.c + right.c
  d := left.d + right.d
  e := left.e + right.e
  f := left.f + right.f
  g := left.g + right.g
  h := left.h + right.h

/-- Adds `count` words to a message schedule that is given last word first. -/
def extend : Nat → List UInt32 → List UInt32
  | 0, backwards => backwards
  | count + 1, backwards =>
      let w2 := backwards.getD 1 0
      let w7 := backwards.getD 6 0
      let w15 := backwards.getD 14 0
      let w16 := backwards.getD 15 0
      let s0 := rotate w15 7 ^^^ rotate w15 18 ^^^ (w15 >>> 3)
      let s1 := rotate w2 17 ^^^ rotate w2 19 ^^^ (w2 >>> 10)
      extend count ((w16 + s0 + w7 + s1) :: backwards)

/-- The sixty-four words of a block of sixteen. -/
def schedule (block : List UInt32) : List UInt32 :=
  (extend 48 block.reverse).reverse

/-- Mixes one block of sixteen words into the running words. -/
def mix (words : Words) (block : List UInt32) : Words :=
  let rounds := (schedule block).zip roundConstants
  words.add (rounds.foldl (fun mixed round => mixed.round round.1 round.2) words)

/-- The bytes of a number below 2^(8 * count), most significant first. -/
def bigEndian (count value : Nat) : List UInt8 :=
  (List.range count).map fun i => (value >>> (8 * (count - 1 - i))).toUInt8

/-- The message with its padding. -/
def pad (message : List UInt8) : List UInt8 :=
  let zeros := (119 - message.length % 64) % 64
  message ++ 0x80 :: List.replicate zeros 0 ++ bigEndian 8 (8 * message.length)

/-- The words of a list of bytes, most significant byte first. -/
def toWords : List UInt8 → List UInt32
  | b0 :: b1 :: b2 :: b3 :: rest =>
      (b0.toUInt32 <<< 24 ||| b1.toUInt32 <<< 16 ||| b2.toUInt32 <<< 8 ||| b3.toUInt32) ::
        toWords rest
  | _ => []

/-- Mixes `count` blocks of sixteen words from the front of a list. -/
def mixBlocks : Nat → Words → List UInt32 → Words
  | 0, words, _ => words
  | count + 1, words, rest => mixBlocks count (mix words (rest.take 16)) (rest.drop 16)

/-- The digest of a message: thirty-two bytes. -/
def sha256 (message : List UInt8) : List UInt8 :=
  let padded := toWords (pad message)
  let words := mixBlocks (padded.length / 16) Words.initial padded
  [words.a, words.b, words.c, words.d, words.e, words.f, words.g, words.h].flatMap
    fun word => bigEndian 4 word.toNat

/-- Bytes as lower-case hexadecimal digits. -/
def hex (bytes : List UInt8) : String :=
  String.ofList (bytes.flatMap fun byte =>
    [Nat.digitChar (byte.toNat / 16), Nat.digitChar (byte.toNat % 16)])

end Frontend.Digest
