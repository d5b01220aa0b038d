import Reconcile.Path

/-!
The rules of a catalog. A property rule says how one property of a device item is called and encoded on either
side; a merge rule folds a container into its parent class; a declaration rule tidies a property of a rebuilt
declaration.
-/

namespace Reconcile

/-- How a property of a device item corresponds to a property of a declared object. A null sentinel is none. -/
structure PropertyRule where
  id : String
  newId : Option String := none
  truth : Value := .null
  falsehood : Value := .null
  skipWhenOmitted : Bool := false
  defaultWhenOmitted : Option Value := none
  stringToInt : Bool := false
  transform : List PropertyRule := []
  capture : Option String := none
  captureProperty : Option String := none
  removeKeys : List String := []
  upLevel : Int := 0
  dereferenceId : Option String := none
  retainCommon : Bool := false
  minVersion : Option String := none
  multiplier : Option Int := none
  zeroValue : Value := .null
deriving Inhabited

def given? (content : Option String) : Option String :=
  content.filter (· ≠ "")

namespace PropertyRule

def plain (id : String) : PropertyRule :=
  { id }

def renamed (id newId : String) : PropertyRule :=
  { id, newId := some newId }

def sentinels (rule : PropertyRule) (truth falsehood : String) : PropertyRule :=
  { rule with truth := .text truth, falsehood := .text falsehood }

def trueAs (rule : PropertyRule) (truth : String) : PropertyRule :=
  { rule with truth := .text truth }

def defaulting (rule : PropertyRule) (value : String) : PropertyRule :=
  { rule with defaultWhenOmitted := some (.text value) }

def nested (rule : PropertyRule) (transform : List PropertyRule) : PropertyRule :=
  { rule with transform }

def splicing (rule : PropertyRule) (target : String) : PropertyRule :=
  { rule with dereferenceId := some target }

def keepingCommon (rule : PropertyRule) : PropertyRule :=
  { rule with retainCommon := true }

def newId? (rule : PropertyRule) : Option String :=
  given? rule.newId

def declaredName (rule : PropertyRule) : String :=
  rule.newId?.getD rule.id

def hasTruth (rule : PropertyRule) : Bool :=
  !rule.truth.isNull

def hasFalsehood (rule : PropertyRule) : Bool :=
  !rule.falsehood.isNull

def multiplier? (rule : PropertyRule) : Option Int :=
  rule.multiplier.filter (· ≠ 0)

end PropertyRule

/-- Where and how a container is folded into the class built so far. -/
structure MergeRule where
  path : List String := []
  adds : Option String := none
  skipWhenOmitted : Bool := false

/-- Adding keeps what is there and refuses collisions at the top; any other action replaces. -/
def MergeRule.isAdd (merge : MergeRule) : Bool :=
  merge.adds == some "add"

structure TidyRule where
  id : String
  remove : Bool := false
  removeIfValue : Option (List Value) := none
  truth : Value := .null
  replaceIfValue : Value := .null
  newValue : Value := .null

structure Rendition where
  enabled : Bool := true
  name : Option String := none
  properties : List TidyRule := []
  customFunctions : List String := []

end Reconcile
