import Reconcile.Catalog.Basic

/-!
Single values in their two spellings: as the device reports them and as declarations write them. Truth values
become a rule's sentinels and back, amounts change their unit, and names lose the common partition in front.
-/

namespace Reconcile

def commonHead : String := "/Common/"

def withoutPartition : Value → Value
  | .text content => .text (Text.dropHead commonHead content)
  | value => value

def parseInteger : Value → Result Value
  | .text content =>
    match Text.leadingNumeral? content.toList with
    | some numeral => return .int (← Text.integerOrFail numeral)
    | none => .ok (.text content)
  | value => .ok value

/-- The leading numbers of the parts between dots, up to the first part without one. -/
def versionParts (version : String) : Result (List Int) :=
  numbers (Text.cut "." version)
where
  numbers : List String → Result (List Int)
    | [] => .ok []
    | part :: rest =>
      match Text.leadingNumeral? part.toList with
      | some numeral => return (← Text.integerOrFail numeral) :: (← numbers rest)
      | none => .ok []

/-- Whether one version is at least another: the first difference decides, else the longer one is greater. -/
def versionAtLeast : List Int → List Int → Bool
  | _, [] => true
  | [], _ :: _ => false
  | left :: lefts, right :: rights => if left = right then versionAtLeast lefts rights else right < left

namespace PropertyRule

def read (rule : PropertyRule) (value : Value) : Value :=
  if rule.retainCommon then value else withoutPartition value

def saysTrue (rule : PropertyRule) (value : Value) : Bool :=
  value.truthy && value.looseEq rule.truth

def isZeroValue (rule : PropertyRule) (value : Value) : Bool :=
  !rule.zeroValue.isNull && value.looseEq rule.zeroValue

def scaledUp (rule : PropertyRule) (factor : Int) (value : Value) : Result Value := do
  if rule.isZeroValue value then return .int 0
  match ← parseInteger value with
  | .int number => return .int (number * factor)
  | _ => return value

def toDeclaredUnits (rule : PropertyRule) (value : Value) : Result Value := do
  match rule.multiplier with
  | some factor => rule.scaledUp factor value
  | none =>
    if rule.isZeroValue value then return .int 0
    match ← parseInteger value with
    | .int _ => .error .wrongKind
    | _ => return value

def parsed (rule : PropertyRule) (value : Value) : Result Value :=
  if rule.stringToInt then parseInteger value else .ok value

/-- A device value as declarations write it: truth or partition first, then the unit, then the integer. -/
def toDeclaration (rule : PropertyRule) (value : Value) : Result Value :=
  let plain := if rule.hasTruth then .bool (rule.saysTrue value) else rule.read value
  match rule.multiplier? with
  | some factor => rule.scaledUp factor plain >>= rule.parsed
  | none => rule.parsed plain

def scaledDown (rule : PropertyRule) (number : Int) : Value :=
  match rule.multiplier? with
  | some factor =>
    if number = 0 ∧ !rule.zeroValue.isNull then rule.zeroValue else .int (number.fdiv factor)
  | none => .int number

/-- A declared value as the device writes it. What is omitted becomes the falsehood sentinel, unless the rule
skips omitted values. -/
def toDevice (rule : PropertyRule) : Value → Value
  | .bool true => if rule.hasTruth then rule.truth else .bool true
  | .bool false => if rule.hasFalsehood then rule.falsehood else .bool false
  | .null => if rule.hasFalsehood && !rule.skipWhenOmitted then rule.falsehood else .null
  | .int number => rule.scaledDown number
  | value => value

end PropertyRule

end Reconcile
