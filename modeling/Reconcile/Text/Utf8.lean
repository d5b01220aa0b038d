/-!
Characters from bytes. Where the bytes are no text, every longest beginning of a character, or else the single
byte, is replaced by one replacement character.
-/

namespace Reconcile.Text

def replacement : Char := Char.ofNat 65533

/-- What the first byte of a character says: its bits, how many bytes follow, and which second bytes are allowed. -/
def leadByte (byte : Nat) : Option (Nat × Nat × Nat × Nat) :=
  if byte < 128 then some (byte, 0, 128, 191)
  else if byte < 194 then none
  else if byte < 224 then some (byte - 192, 1, 128, 191)
  else if byte = 224 then some (0, 2, 160, 191)
  else if byte = 237 then some (13, 2, 128, 159)
  else if byte < 240 then some (byte - 224, 2, 128, 191)
  else if byte = 240 then some (0, 3, 144, 191)
  else if byte < 244 then some (byte - 240, 3, 128, 191)
  else if byte = 244 then some (4, 3, 128, 143)
  else none

/-- Reads the bytes, given the bits of a character begun, how many bytes it lacks and the range of the next one. -/
def decodeFrom (bits lacking least most : Nat) : List Nat → List Char
  | [] => if lacking = 0 then [] else [replacement]
  | byte :: rest =>
    if lacking ≠ 0 ∧ least ≤ byte ∧ byte ≤ most then
      let bits := bits * 64 + (byte - 128)
      if lacking = 1 then Char.ofNat bits :: decodeFrom 0 0 128 191 rest
      else decodeFrom bits (lacking - 1) 128 191 rest
    else
      let broken := if lacking = 0 then [] else [replacement]
      match leadByte byte with
      | none => broken ++ replacement :: decodeFrom 0 0 128 191 rest
      | some (bits, 0, _, _) => broken ++ Char.ofNat bits :: decodeFrom 0 0 128 191 rest
      | some (bits, lacking, least, most) => broken ++ decodeFrom bits lacking least most rest

def decodeUtf8 (bytes : List Nat) : List Char :=
  decodeFrom 0 0 128 191 bytes

end Reconcile.Text
