import Reconcile.Assoc
import Reconcile.Text.Blank
import Reconcile.Text.Digit
import Reconcile.Text.Word

/-!
Search patterns. A pattern offers its matches in order of preference: the left branch of an alternative before
the right one, more repetitions before fewer. The first match of the leftmost position that has one is the result.
-/

namespace Reconcile

inductive CharClass where
  | range (first last : Char)
  | digit (negated : Bool)
  | word (negated : Bool)
  | blank (negated : Bool)
deriving DecidableEq

inductive Pattern where
  | empty
  | char (c : Char)
  | any
  | start
  | stop
  | oneOf (negated : Bool) (classes : List CharClass)
  | seq (first second : Pattern)
  | alt (left right : Pattern)
  | times (least : Nat) (most : Option Nat) (body : Pattern)
  | group (index : Nat) (body : Pattern)
  | bracket (body : Pattern)

def CharClass.has (c : Char) : CharClass → Bool
  | .range first last => first ≤ c && c ≤ last
  | .digit negated => Text.isDecimal c != negated
  | .word negated => Text.isWord c != negated
  | .blank negated => Text.isBlank c != negated

namespace Pattern

/-- A place in the searched text: how much is behind it, what is ahead, and the groups matched so far. -/
structure Place where
  behind : Nat
  ahead : List Char
  groups : List (Nat × List Char)

def Place.next (place : Place) (accepts : Char → Bool) : List Place :=
  match place.ahead with
  | c :: rest => if accepts c then [⟨place.behind + 1, rest, place.groups⟩] else []
  | [] => []

def Place.atStop (place : Place) : Bool :=
  place.ahead == [] || place.ahead == ['\n']

def exactly (body : Place → List Place) : Nat → Place → List Place
  | 0, place => [place]
  | count + 1, place => (body place).flatMap (exactly body count)

/-- Up to `count` further repetitions, more of them first; a repetition that consumes nothing ends the run. -/
def upTo (body : Place → List Place) : Nat → Place → List Place
  | 0, place => [place]
  | count + 1, place =>
    ((body place).filter fun after => after.ahead.length < place.ahead.length).flatMap (upTo body count)
      ++ [place]

/-- The places where a match from `place` may end, best first. -/
def ends : Pattern → Place → List Place
  | .empty, place => [place]
  | .char c, place => place.next (· == c)
  | .any, place => place.next (· != '\n')
  | .start, place => if place.behind = 0 then [place] else []
  | .stop, place => if place.atStop then [place] else []
  | .oneOf negated classes, place => place.next fun c => (classes.any fun entry => entry.has c) != negated
  | .seq first second, place => (ends first place).flatMap (ends second)
  | .alt left right, place => ends left place ++ ends right place
  | .times least most body, place =>
    (exactly (ends body) least place).flatMap fun place =>
      let room := place.ahead.length
      upTo (ends body) (match most with | some most => min (most - least) room | none => room) place
  | .group index body, place =>
    (ends body place).map fun after =>
      let content := place.ahead.take (place.ahead.length - after.ahead.length)
      { after with groups := Assoc.put after.groups index content }
  | .bracket body, place => ends body place

def groupCount : Pattern → Nat
  | .seq first second | .alt first second => groupCount first + groupCount second
  | .times _ _ body | .bracket body => groupCount body
  | .group _ body => groupCount body + 1
  | _ => 0

structure Found where
  whole : List Char
  groups : List (Option (List Char))

def searchFrom (pattern : Pattern) (behind : Nat) (ahead : List Char) : Option Found :=
  match ends pattern ⟨behind, ahead, []⟩ with
  | after :: _ =>
    some {
      whole := ahead.take (ahead.length - after.ahead.length)
      groups := (List.range (groupCount pattern)).map fun index =>
        Assoc.get? after.groups (index + 1) }
  | [] =>
    match ahead with
    | [] => none
    | _ :: rest => searchFrom pattern (behind + 1) rest

def search (pattern : Pattern) (content : String) : Option Found :=
  searchFrom pattern 0 content.toList

def occursIn (pattern : Pattern) (content : String) : Bool :=
  (pattern.search content).isSome

end Pattern

end Reconcile
