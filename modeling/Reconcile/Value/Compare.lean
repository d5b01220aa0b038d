import Reconcile.Value.Basic

/-!
Equality and order of values. Numbers are compared by what they amount to, whether written as integers or as
fractions, and objects without regard to the order of their fields. There are two equalities: the loose one
also takes true for one and false for zero, the strict one keeps booleans apart from numbers.
-/

namespace Reconcile

namespace Value

/-- What a value amounts to, booleans counting as numbers when `mixed`. -/
def ratio? (mixed : Bool) : Value → Option Ratio
  | .bool flag => if mixed then some (.ofInt flag.toNat) else none
  | .int number => some (.ofInt number)
  | .real number => some number.ratio
  | _ => none

def sameRatio (left right : Option Ratio) : Bool :=
  match left, right with
  | some left, some right => left.same right
  | _, _ => false

mutual

def equalBy (mixed : Bool) : Value → Value → Bool
  | .null, .null => true
  | .text left, .text right => left == right
  | .list left, .list right => equalItems mixed left right
  | .object left, .object right => left.length == right.length && equalFields mixed left right
  | .bool left, .bool right => left == right
  | left, right => sameRatio (left.ratio? mixed) (right.ratio? mixed)

def equalItems (mixed : Bool) : List Value → List Value → Bool
  | [], [] => true
  | left :: lefts, right :: rights => equalBy mixed left right && equalItems mixed lefts rights
  | _, _ => false

def equalFields (mixed : Bool) : Fields → Fields → Bool
  | [], _ => true
  | (key, left) :: rest, others =>
    (match Assoc.get? others key with
      | some right => equalBy mixed left right
      | none => false) && equalFields mixed rest others

end

/-- Equality that takes booleans for the numbers one and zero. -/
def looseEq (left right : Value) : Bool :=
  equalBy true left right

/-- Equality that keeps booleans apart from numbers. -/
def strictEq (left right : Value) : Bool :=
  equalBy false left right

def isAmong (value : Value) (values : List Value) : Bool :=
  values.any value.looseEq

def spells (value : Value) (content : String) : Bool :=
  match value with
  | .text other => other == content
  | _ => false

mutual

/-- Whether `left` comes before `right`, when the two can be ordered at all: numbers with numbers, texts with
texts by code point, lists item by item. -/
def less? : Value → Value → Option Bool
  | .text left, .text right => some (left < right)
  | .list left, .list right => lessItems? left right
  | left, right =>
    match left.ratio? true, right.ratio? true with
    | some left, some right => some (left.less right)
    | _, _ => none

def lessItems? : List Value → List Value → Option Bool
  | _, [] => some false
  | [], _ :: _ => some true
  | left :: lefts, right :: rights =>
    if left.looseEq right then lessItems? lefts rights else less? left right

end

end Value

end Reconcile
