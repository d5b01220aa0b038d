import Reconcile.Text.Blank
import Reconcile.Text.Digit

/-!
Integers written in text, in the decimal digits of any script. A numeral may be surrounded by blanks and have single
underscores between digits, but no more digits than a limit that keeps reading it cheap. A text can also start with a
numeral, with blanks before it and anything behind.
-/

namespace Reconcile.Text

/-- The number that decimal digits spell; characters that are no digits are passed over. -/
def digitsValue (digits : List Char) : Nat :=
  digits.foldl (fun number c =>
    match decimalValue? c with
    | some digit => number * 10 + digit
    | none => number) 0

def readSign : List Char → Bool × List Char
  | '-' :: rest => (true, rest)
  | '+' :: rest => (false, rest)
  | rest => (false, rest)

def signed (negative : Bool) (size : Nat) : Int :=
  if negative then -(size : Int) else size

/-- The numeral at the head of a text: at most one sign, and the digits after it. -/
def leadingNumeral? (content : List Char) : Option (List Char) :=
  let rest := content.dropWhile isBlank
  let sign := (rest.take 1).filter fun c => c = '-' || c = '+'
  let digits := (rest.drop sign.length).takeWhile isDecimal
  if digits.isEmpty then none else some (sign ++ digits)

def isGrouped : List Char → Bool
  | [] => false
  | [c] => isDecimal c
  | c :: '_' :: rest => isDecimal c && isGrouped rest
  | c :: rest => isDecimal c && isGrouped rest

def digitLimit : Nat := 4300

def integer? (content : List Char) : Option Int :=
  let (negative, digits) := readSign (trimBlanks content)
  if isGrouped digits && digits.countP isDecimal ≤ digitLimit then some (signed negative (digitsValue digits))
  else none

end Reconcile.Text
