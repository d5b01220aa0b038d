import Reconcile.Assoc
import Reconcile.Number.Shortest

/-!
Documents: the values that declarations, device answers and baselines are made of. Objects remember the order
of their fields. Integers have any size and stay apart from fractions with a whole value.
-/

namespace Reconcile

/-- What an object files a value under: a name, or what an item came with in place of one, which is a truth value, a
number or nothing at all. -/
inductive Key where
  | named (name : String)
  | flag (value : Bool)
  | whole (number : Int)
  | real (number : Binary64)
  | unnamed
deriving DecidableEq, Inhabited

instance : Coe String Key := ⟨.named⟩

inductive Value where
  | null
  | bool (flag : Bool)
  | int (number : Int)
  | real (number : Binary64)
  | text (content : String)
  | list (items : List Value)
  | object (fields : List (Key × Value))
deriving Inhabited

abbrev Fields := List (Key × Value)

namespace Value

def empty : Value := .object []

/-- Whether a value counts as given: null, false, zero and everything empty do not. -/
def truthy : Value → Bool
  | .null => false
  | .bool flag => flag
  | .int number => number ≠ 0
  | .real number => !number.isZero
  | .text content => content ≠ ""
  | .list items => !items.isEmpty
  | .object fields => !fields.isEmpty

def isObject : Value → Bool
  | .object _ => true
  | _ => false

def isList : Value → Bool
  | .list _ => true
  | _ => false

def isText : Value → Bool
  | .text _ => true
  | _ => false

def isNull : Value → Bool
  | .null => true
  | _ => false

def isContainer (value : Value) : Bool :=
  value.isObject || value.isList

def fields? : Value → Option Fields
  | .object fields => some fields
  | _ => none

def get? (value : Value) (key : Key) : Option Value :=
  match value with
  | .object fields => Assoc.get? fields key
  | _ => none

def orElse (value fallback : Value) : Value :=
  if value.truthy then value else fallback

def ofTexts (texts : List String) : Value :=
  .list (texts.map .text)

def ofText? : Option String → Value
  | some content => .text content
  | none => .null

end Value

def Fields.lookup (fields : Fields) (key : Key) : Value :=
  (Assoc.get? fields key).getD .null

def Key.toValue : Key → Value
  | .named name => .text name
  | .flag value => .bool value
  | .whole number => .int number
  | .real number => .real number
  | .unnamed => .null

end Reconcile
