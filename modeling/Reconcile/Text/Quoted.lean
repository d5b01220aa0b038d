import Reconcile.Text.Printable

/-!
Quoted text: a single line between quotes, with unprintable characters escaped by their code point.
-/

namespace Reconcile.Text

def hexDigit (value : Nat) : Char :=
  (Nat.toDigits 16 (value % 16)).headD '0'

def hex (count value : Nat) : List Char :=
  match count with
  | 0 => []
  | count + 1 => hexDigit (value / Nat.pow 16 count) :: hex count value

/-- A character between quotes; the shortest escape that fits its code point, and names for line end and tab. -/
def quoteChar (quote c : Char) : List Char :=
  if c = quote ∨ c = '\\' then ['\\', c]
  else if c = '\n' then ['\\', 'n']
  else if c = '\r' then ['\\', 'r']
  else if c = '\t' then ['\\', 't']
  else if isPrintable c then [c]
  else if c.toNat < 256 then '\\' :: 'x' :: hex 2 c.toNat
  else if c.toNat < 65536 then '\\' :: 'u' :: hex 4 c.toNat
  else '\\' :: 'U' :: hex 8 c.toNat

/-- Single quotes, unless the text holds a single quote and no double one. -/
def quoteFor (content : List Char) : Char :=
  if '\'' ∈ content ∧ '"' ∉ content then '"' else '\''

def quoted (content : String) : String :=
  let letters := content.toList
  let quote := quoteFor letters
  String.ofList (quote :: letters.flatMap (quoteChar quote) ++ [quote])

end Reconcile.Text
