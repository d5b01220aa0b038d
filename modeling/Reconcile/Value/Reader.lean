import Reconcile.Text.Digit
import Reconcile.Value.Basic

/-!
Reading JSON text. A number without point and exponent is an integer of any size, any other is a fraction in
double precision. Of a key that is written twice the last value counts, at the place of the first.
-/

namespace Reconcile

namespace Value

def isJsonBlank (c : Char) : Bool :=
  c = ' ' || c = '\n' || c = '\r' || c = '\t'

def readUnit : List Char → Option (Nat × List Char)
  | a :: b :: c :: d :: rest => do
    return (((← Text.hexValue? a) * 16 + (← Text.hexValue? b)) * 256 + (← Text.hexValue? c) * 16 + (← Text.hexValue? d), rest)
  | _ => none

def readEscape : Char → Option Char
  | '"' => some '"'
  | '\\' => some '\\'
  | '/' => some '/'
  | 'b' => some (Char.ofNat 8)
  | 'f' => some (Char.ofNat 12)
  | 'n' => some '\n'
  | 'r' => some '\r'
  | 't' => some '\t'
  | _ => none

/-- The rest of a string after its opening quote; two units of a pair become one character. -/
def readString : Nat → List Char → List Char → Option (String × List Char)
  | 0, _, _ => none
  | _, _, [] => none
  | fuel + 1, seen, c :: rest =>
    if c = '"' then some (String.ofList seen.reverse, rest)
    else if c = '\\' then
      match rest with
      | 'u' :: digits =>
        match readUnit digits with
        | none => none
        | some (unit, rest) =>
          if 55296 ≤ unit ∧ unit < 56320 then
            match rest with
            | '\\' :: 'u' :: digits =>
              match readUnit digits with
              | some (low, rest) =>
                readString fuel (Char.ofNat (65536 + (unit - 55296) * 1024 + (low - 56320)) :: seen) rest
              | none => none
            | _ => readString fuel (Char.ofNat 65533 :: seen) rest
          else readString fuel (Char.ofNat unit :: seen) rest
      | escape :: rest =>
        match readEscape escape with
        | some c => readString fuel (c :: seen) rest
        | none => none
      | [] => none
    else if c.toNat < 32 then none
    else readString fuel (c :: seen) rest

def digitsOf (input : List Char) : List Char × List Char :=
  input.span fun c => '0' ≤ c && c ≤ '9'

def decimalOf (digits : List Char) : Nat :=
  digits.foldl (fun number c => number * 10 + (c.toNat - 48)) 0

def readFraction : List Char → Option (Option (List Char) × List Char)
  | '.' :: rest =>
    match digitsOf rest with
    | ([], _) => none
    | (digits, rest) => some (some digits, rest)
  | rest => some (none, rest)

def readExponent : List Char → Option (Option Int × List Char)
  | [] => some (none, [])
  | c :: rest =>
    if c = 'e' ∨ c = 'E' then
      let (negative, rest) := match rest with
        | '-' :: rest => (true, rest)
        | '+' :: rest => (false, rest)
        | rest => (false, rest)
      match digitsOf rest with
      | ([], _) => none
      | (digits, rest) =>
        let size : Int := decimalOf digits
        some (some (if negative then -size else size), rest)
    else some (none, c :: rest)

def readNumber (input : List Char) : Option (Value × List Char) := do
  let (negative, input) := match input with
    | '-' :: rest => (true, rest)
    | rest => (false, rest)
  let (whole, input) := digitsOf input
  if whole.isEmpty ∨ (1 < whole.length ∧ whole.head? = some '0') then failure
  let (fraction, input) ← readFraction input
  let (exponent, input) ← readExponent input
  match fraction, exponent with
  | none, none =>
    let size : Int := decimalOf whole
    return (.int (if negative then -size else size), input)
  | fraction, exponent =>
    let digits := fraction.getD []
    let power := exponent.getD 0 - digits.length
    return (.real (.ofDecimal negative (decimalOf (whole ++ digits)) power), input)

def skipBlanks (input : List Char) : List Char :=
  input.dropWhile isJsonBlank

mutual

/-- A value at the head of the text, blanks before it skipped. The first argument bounds the number of steps. -/
def readValue : Nat → List Char → Option (Value × List Char)
  | 0, _ => none
  | fuel + 1, input =>
    match skipBlanks input with
    | 'n' :: 'u' :: 'l' :: 'l' :: rest => some (.null, rest)
    | 't' :: 'r' :: 'u' :: 'e' :: rest => some (.bool true, rest)
    | 'f' :: 'a' :: 'l' :: 's' :: 'e' :: rest => some (.bool false, rest)
    | '"' :: rest => (readString (rest.length + 1) [] rest).map fun (content, rest) => (.text content, rest)
    | '[' :: rest =>
      match skipBlanks rest with
      | ']' :: rest => some (.list [], rest)
      | rest => (readItems fuel [] rest).map fun (items, rest) => (.list items, rest)
    | '\x7b' :: rest =>
      match skipBlanks rest with
      | '\x7d' :: rest => some (.object [], rest)
      | rest => (readFields fuel [] rest).map fun (fields, rest) => (.object fields, rest)
    | input => readNumber input

def readItems : Nat → List Value → List Char → Option (List Value × List Char)
  | 0, _, _ => none
  | fuel + 1, seen, input =>
    match readValue fuel input with
    | none => none
    | some (value, rest) =>
      match skipBlanks rest with
      | ',' :: rest => readItems fuel (value :: seen) rest
      | ']' :: rest => some ((value :: seen).reverse, rest)
      | _ => none

def readFields : Nat → Fields → List Char → Option (Fields × List Char)
  | 0, _, _ => none
  | fuel + 1, seen, input =>
    match skipBlanks input with
    | '"' :: rest =>
      match readString (rest.length + 1) [] rest with
      | none => none
      | some (name, rest) =>
        match skipBlanks rest with
        | ':' :: rest =>
          match readValue fuel rest with
          | none => none
          | some (value, rest) =>
            let seen := Assoc.put seen (.named name) value
            match skipBlanks rest with
            | ',' :: rest => readFields fuel seen rest
            | '\x7d' :: rest => some (seen, rest)
            | _ => none
        | _ => none
    | _ => none

end

def ofJson? (source : String) : Option Value :=
  let letters := source.toList
  match readValue (letters.length + 1) letters with
  | some (value, rest) => if (skipBlanks rest).isEmpty then some value else none
  | none => none

end Value

end Reconcile
