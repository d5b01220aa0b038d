/-!
The SHA-256 digest of a message of bytes: the message is padded to whole blocks of sixty-four bytes, and each block
is worked into eight words of thirty-two bits.
-/

namespace Reconcile.Digest

def roundConstants : List UInt32 :=
  [
    0x428a2f98, 0x71374491, 0xb5c0fbcf, 0xe9b5dba5, 0x3956c25b, 0x59f111f1, 0x923f82a4, 0xab1c5ed5,
    0xd807aa98, 0x12835b01, 0x243185be, 0x550c7dc3, 0x72be5d74, 0x80deb1fe, 0x9bdc06a7, 0xc19bf174,
    0xe49b69c1, 0xefbe4786, 0x0fc19dc6, 0x240ca1cc, 0x2de92c6f, 0x4a7484aa, 0x5cb0a9dc, 0x76f988da,
    0x983e5152, 0xa831c66d, 0xb00327c8, 0xbf597fc7, 0xc6e00bf3, 0xd5a79147, 0x06ca6351, 0x14292967,
    0x27b70a85, 0x2e1b2138, 0x4d2c6dfc, 0x53380d13, 0x650a7354, 0x766a0abb, 0x81c2c92e, 0x92722c85,
    0xa2bfe8a1, 0xa81a664b, 0xc24b8b70, 0xc76c51a3, 0xd192e819, 0xd6990624, 0xf40e3585, 0x106aa070,
    0x19a4c116, 0x1e376c08, 0x2748774c, 0x34b0bcb5, 0x391c0cb3, 0x4ed8aa4a, 0x5b9cca4f, 0x682e6ff3,
    0x748f82ee, 0x78a5636f, 0x84c87814, 0x8cc70208, 0x90befffa, 0xa4506ceb, 0xbef9a3f7, 0xc67178f2
  ]

structure Words where
  a : UInt32
  b : UInt32
  c : UInt32
  d : UInt32
  e : UInt32
  f : UInt32
  g : UInt32
  h : UInt32

def initialWords : Words where
  a := 0x6a09e667
  b := 0xbb67ae85
  c := 0x3c6ef372
  d := 0xa54ff53a
  e := 0x510e527f
  f := 0x9b05688c
  g := 0x1f83d9ab
  h := 0x5be0cd19

def rotateRight (word : UInt32) (count : UInt32) : UInt32 :=
  (word >>> count) ||| (word <<< (32 - count))

def round (words : Words) (constant message : UInt32) : Words :=
  let mixE := rotateRight words.e 6 ^^^ rotateRight words.e 11 ^^^ rotateRight words.e 25
  let choice := (words.e &&& words.f) ^^^ (~~~ words.e &&& words.g)
  let first := words.h + mixE + choice + constant + message
  let mixA := rotateRight words.a 2 ^^^ rotateRight words.a 13 ^^^ rotateRight words.a 22
  let majority := (words.a &&& words.b) ^^^ (words.a &&& words.c) ^^^ (words.b &&& words.c)
  { a := first + (mixA + majority), b := words.a, c := words.b, d := words.c,
    e := words.d + first, f := words.e, g := words.f, h := words.g }

/-- Extends the words of a message, latest first, by `count` more: each comes from the words two, seven, fifteen and
sixteen places before it. -/
def extend : Nat → List UInt32 → List UInt32
  | 0, words => words
  | count + 1, words =>
    let near := words.getD 1 0
    let far := words.getD 14 0
    let mixNear := rotateRight near 17 ^^^ rotateRight near 19 ^^^ (near >>> 10)
    let mixFar := rotateRight far 7 ^^^ rotateRight far 18 ^^^ (far >>> 3)
    extend count ((mixNear + words.getD 6 0 + mixFar + words.getD 15 0) :: words)

def wordOf (bytes : List UInt8) : UInt32 :=
  bytes.foldl (fun word byte => (word <<< 8) ||| byte.toUInt32) 0

def wordsOf : Nat → List UInt8 → List UInt32
  | 0, _ => []
  | count + 1, bytes => wordOf (bytes.take 4) :: wordsOf count (bytes.drop 4)

def addWords (left right : Words) : Words where
  a := left.a + right.a
  b := left.b + right.b
  c := left.c + right.c
  d := left.d + right.d
  e := left.e + right.e
  f := left.f + right.f
  g := left.g + right.g
  h := left.h + right.h

def absorb (words : Words) (block : List UInt8) : Words :=
  let schedule := (extend 48 (wordsOf 16 block).reverse).reverse
  addWords words ((roundConstants.zip schedule).foldl (fun words (constant, message) =>
    round words constant message) words)

/-- How many zeros complete the last block behind a message, the mark after it, and its length. -/
def paddingZeros (length : Nat) : Nat :=
  (64 - (length + 9) % 64) % 64

theorem padded_length_mod (length : Nat) : (length + 1 + paddingZeros length + 8) % 64 = 0 := by
  unfold paddingZeros
  omega

def bytesOf : Nat → Nat → List UInt8
  | 0, _ => []
  | count + 1, number => UInt8.ofNat (number / Nat.pow 256 count) :: bytesOf count number

def pad (message : List UInt8) : List UInt8 :=
  message ++ 128 :: List.replicate (paddingZeros message.length) 0 ++ bytesOf 8 (8 * message.length)

def absorbAll : Nat → Words → List UInt8 → Words
  | 0, words, _ => words
  | count + 1, words, bytes => absorbAll count (absorb words (bytes.take 64)) (bytes.drop 64)

def sha256 (message : List UInt8) : List UInt8 :=
  let padded := pad message
  let words := absorbAll (padded.length / 64) initialWords padded
  [words.a, words.b, words.c, words.d, words.e, words.f, words.g, words.h].flatMap fun word => bytesOf 4 word.toNat

end Reconcile.Digest
