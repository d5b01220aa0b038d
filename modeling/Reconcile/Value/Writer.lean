import Reconcile.Text.Quoted
import Reconcile.Value.Compare

/-!
Values as JSON text. The writer keeps the order of fields; the canonical text sorts them at every depth, so
that two objects with the same fields have the same text.
-/

namespace Reconcile

namespace Value

/-- A character inside a JSON string: quotes, backslashes and controls are escaped, and everything beyond ASCII
is written in UTF-16 units. -/
def jsonChar (c : Char) : List Char :=
  if c = '"' then ['\\', '"']
  else if c = '\\' then ['\\', '\\']
  else if c = '\n' then ['\\', 'n']
  else if c = '\r' then ['\\', 'r']
  else if c = '\t' then ['\\', 't']
  else if c.toNat = 8 then ['\\', 'b']
  else if c.toNat = 12 then ['\\', 'f']
  else if 32 ≤ c.toNat ∧ c.toNat < 127 then [c]
  else if c.toNat < 65536 then '\\' :: 'u' :: Text.hex 4 c.toNat
  else
    let above := c.toNat - 65536
    '\\' :: 'u' :: Text.hex 4 (55296 + above / 1024) ++ '\\' :: 'u' :: Text.hex 4 (56320 + above % 1024)

def jsonString (content : String) : String :=
  String.ofList ('"' :: content.toList.flatMap jsonChar ++ ['"'])

def jsonReal (number : Binary64) : String :=
  if number.isInfinite then (if number.negative then "-Infinity" else "Infinity") else number.text

end Value

/-- In JSON every key is a string: what is no name is filed under its own text, and nothing at all under `null`. -/
def Key.json : Key → String
  | .named name => Value.jsonString name
  | .flag value => Value.jsonString (if value then "true" else "false")
  | .whole number => Value.jsonString (toString number)
  | .real number => Value.jsonString (Value.jsonReal number)
  | .unnamed => Value.jsonString "null"

namespace Value

mutual

def json : Value → String
  | .null => "null"
  | .bool flag => if flag then "true" else "false"
  | .int number => toString number
  | .real number => jsonReal number
  | .text content => jsonString content
  | .list items => "[" ++ jsonItems items ++ "]"
  | .object fields => "\x7b" ++ jsonFields fields ++ "\x7d"

def jsonItems : List Value → String
  | [] => ""
  | [value] => json value
  | value :: rest => json value ++ ", " ++ jsonItems rest

def jsonFields : Fields → String
  | [] => ""
  | [(key, value)] => key.json ++ ": " ++ json value
  | (key, value) :: rest => key.json ++ ": " ++ json value ++ ", " ++ jsonFields rest

end

/-- Whether a key comes before another, when the two can be ordered at all: names by code point, numbers by size. -/
def keyBefore? (left right : Key) : Option Bool :=
  left.toValue.less? right.toValue

variable {α : Type}

def insertField (entry : Key × α) : List (Key × α) → List (Key × α)
  | [] => [entry]
  | other :: rest =>
    if (keyBefore? entry.1 other.1).getD false then entry :: other :: rest else other :: insertField entry rest

def sortFields (fields : List (Key × α)) : List (Key × α) :=
  fields.foldr insertField []

mutual

def sorted : Value → Value
  | .list items => .list (sortedItems items)
  | .object fields => .object (sortFields (sortedFields fields))
  | value => value

def sortedItems : List Value → List Value
  | [] => []
  | value :: rest => sorted value :: sortedItems rest

def sortedFields : Fields → Fields
  | [] => []
  | (key, value) :: rest => (key, sorted value) :: sortedFields rest

end

/-- The text that stands for a document up to the order of fields. -/
def canonical (value : Value) : String :=
  value.sorted.json

/-- The first key that cannot be ordered against the first of all keys, together with that one. -/
def unorderedKeys? : List Key → Option (Key × Key)
  | [] => none
  | first :: rest => (rest.find? fun key => (keyBefore? key first).isNone).map fun key => (key, first)

mutual

/-- The first two keys of one object that cannot be ordered, objects being gone through as the canonical text has
them. -/
def unordered? : Value → Option (Key × Key)
  | .list items => unorderedItem? items
  | .object fields =>
    (unorderedKeys? (Assoc.keys fields)).or ((sortFields (unorderedFields fields)).findSome? Prod.snd)
  | _ => none

def unorderedItem? : List Value → Option (Key × Key)
  | [] => none
  | value :: rest => (unordered? value).or (unorderedItem? rest)

def unorderedFields : Fields → List (Key × Option (Key × Key))
  | [] => []
  | (key, value) :: rest => (key, unordered? value) :: unorderedFields rest

end

def sortable (value : Value) : Bool :=
  value.unordered?.isNone

end Value

end Reconcile
