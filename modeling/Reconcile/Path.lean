import Reconcile.Fault
import Reconcile.Text.Numeral

/-!
Addresses inside a document. A path is a list of keys through nested objects; it can be read, written and erased.
A pointer is a text with slashes that leads from the top of a declaration through objects and lists to a value.
-/

namespace Reconcile

abbrev Path := List Key

namespace Path

def ofDotted (dotted : String) : Path :=
  (Text.cut "." dotted).map .named

def dotted (path : Path) : String :=
  ".".intercalate (path.map Key.display)

def get? : Path → Value → Option Value
  | [], value => some value
  | key :: rest, value =>
    match value.get? key with
    | some inner => get? rest inner
    | none => none

/-- The object at a key, or the empty one when there is none. -/
def inner (fields : Fields) (key : Key) : Fields :=
  match Assoc.get? fields key with
  | some (.object inner) => inner
  | _ => []

/-- Writes a value; steps that are missing or lead to something else become objects. -/
def put : Path → Value → Fields → Fields
  | [], _, fields => fields
  | [key], value, fields => Assoc.put fields key value
  | key :: next :: rest, value, fields =>
    Assoc.put fields key (.object (put (next :: rest) value (inner fields key)))

/-- The fields without the value at a path, or nothing when it is not there. -/
def erase? : Path → Fields → Option Fields
  | [], _ => none
  | [key], fields => if Assoc.has fields key then some (Assoc.erase fields key) else none
  | key :: next :: rest, fields =>
    match Assoc.get? fields key with
    | some (.object inner) =>
      (erase? (next :: rest) inner).map fun inner => Assoc.put fields key (.object inner)
    | _ => none

def erase (path : Path) (fields : Fields) : Fields :=
  (erase? path fields).getD fields

def putIn (path : Path) (value document : Value) : Result Value :=
  match path, document with
  | [], .object _ => .error .outOfRange
  | path, .object fields => .ok (.object (put path value fields))
  | [], _ => .error .outOfRange
  | [_], _ => .error .wrongKind
  | _, _ => .error .noFields

def eraseIn (path : Path) (document : Value) : Result (Bool × Value) :=
  match path, document with
  | [], .object _ => .error .outOfRange
  | path, .object fields =>
    match erase? path fields with
    | some fields => .ok (true, .object fields)
    | none => .ok (false, document)
  | _, _ => .ok (false, document)

/-- Without the first `count` steps; a negative count keeps the last ones instead. -/
def dropFirst (path : Path) (count : Int) : Path :=
  match count with
  | .ofNat count => path.drop count
  | .negSucc kept => path.drop (path.length - (kept + 1))

end Path

namespace Pointer

/-- The steps of a pointer; empty ones are skipped. -/
def steps (pointer : String) : List String :=
  (Text.cut "/" pointer).filter (· ≠ "")

def index? (step : String) (length : Nat) : Result (Option Nat) :=
  if Text.allDigits step.toList then
    match Text.integer? step.toList with
    | some index => .ok (if index < length then some index.toNat else none)
    | none => .error .unreadableText
  else .ok none

def follow : List String → Value → Result Value
  | [], value => .ok value
  | step :: rest, .object fields => follow rest (Fields.lookup fields step)
  | step :: rest, .list items => do
    match ← index? step items.length with
    | some index => follow rest (items.getD index .null)
    | none => .ok .null
  | _ :: _, _ => .ok .null

def resolve (document : Value) (pointer : String) : Result Value :=
  follow (steps pointer) document

end Pointer

end Reconcile
