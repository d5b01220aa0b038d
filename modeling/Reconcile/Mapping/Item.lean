import Reconcile.Mapping.Conversion
import Reconcile.Pattern.Reader

/-!
Whole device items under the rules of a catalog entry. A reader works in one of two modes: it keeps the device's
names and sentinels, so that items can be compared with a parsed declaration, or it translates to the names,
truth values and units of declarations, which is what rebuilding a declaration needs.
-/

namespace Reconcile

structure ItemMapper where
  translate : Bool := false
  /-- The version of the device, when it is known. -/
  version : Option (List Int) := none

namespace ItemMapper

def ofVersion (translate : Bool) (version : Option String) : Result ItemMapper := do
  return { translate, version := ← (given? version).mapM versionParts }

def applies (mapper : ItemMapper) (rule : PropertyRule) : Result Bool :=
  match mapper.version, given? rule.minVersion with
  | some version, some least => return versionAtLeast version (← versionParts least)
  | _, _ => .ok true

def storedName (mapper : ItemMapper) (rule : PropertyRule) : String :=
  if mapper.translate then rule.declaredName else rule.id

def settledTruth (mapper : ItemMapper) (value : Value) (rule : PropertyRule) : Value :=
  let flag := Value.bool (rule.saysTrue value)
  if mapper.translate then flag else rule.toDevice flag

def convert (mapper : ItemMapper) (value : Value) (rule : PropertyRule) : Result Value :=
  if mapper.translate then rule.toDeclaration value
  else if rule.hasTruth then .ok (mapper.settledTruth value rule)
  else rule.parsed (rule.read value)

/-- What a pattern captures in a text: its last group, or the whole match when it has none. -/
def captured (capture content : String) : Option Value :=
  match (Pattern.ofText? capture).bind fun pattern => pattern.search content with
  | none => none
  | some found =>
    match found.groups.getLast? with
    | some group => some (.ofText? (group.map String.ofList))
    | none => some (.text (String.ofList found.whole))

def pick (mapper : ItemMapper) (source : Fields) (rule : PropertyRule) : Value :=
  let own := Fields.lookup source rule.id
  let value? : Option Value :=
    match given? rule.capture with
    | none => some own
    | some capture =>
      match Fields.lookup source ((given? rule.captureProperty).getD rule.id) with
      | .text content => captured capture content
      | _ => none
  match value? with
  | none => .null
  | some value =>
    if rule.hasTruth then mapper.settledTruth own rule
    else match value with
      | .object fields => .object (fields.filter fun entry => !rule.removeKeys.any fun key => entry.1 = .named key)
      | value => value

def rebuilt (mapper : ItemMapper) (rules : List PropertyRule) (source : Fields) : Fields :=
  rules.foldl (fun fields rule =>
    match mapper.pick source rule with
    | .null => fields
    | value => Path.put (.ofDotted (mapper.storedName rule)) value fields) []

mutual

def transform (mapper : ItemMapper) (rules : List PropertyRule) : Value → Value
  | .list items => .list (transformItems mapper rules items)
  | .object fields => .object (mapper.rebuilt rules fields)
  | value => value

def transformItems (mapper : ItemMapper) (rules : List PropertyRule) : List Value → List Value
  | [] => []
  | item :: rest => transform mapper rules item :: transformItems mapper rules rest

end

/-- Moves the rebuilt fields of a nested property, or of its first element, up into the item. -/
def lift (mapper : ItemMapper) (rule : PropertyRule) (value : Value) (mapped : Fields) : Fields :=
  let source := match value with
    | .list (first :: _) => first
    | value => value
  let rest := Assoc.erase mapped (.named rule.id)
  match source with
  | .object fields => Assoc.putAll rest (mapper.rebuilt rule.transform fields)
  | _ => rest

def store (mapper : ItemMapper) (rule : PropertyRule) (value : Value) (mapped : Fields) : Fields :=
  match mapper.translate, rule.newId? with
  | true, some newId => Path.put (.ofDotted newId) value (Assoc.erase mapped (.named rule.id))
  | _, _ => Assoc.put mapped (.named rule.id) value

def omitted? (mapper : ItemMapper) (rule : PropertyRule) : Result (Option Value) :=
  if rule.hasTruth && !rule.skipWhenOmitted then some <$> mapper.convert .null rule
  else rule.defaultWhenOmitted.mapM rule.parsed

def applyRule (mapper : ItemMapper) (mapped : Fields) (rule : PropertyRule) : Result Fields := do
  if !(← mapper.applies rule) then return mapped
  match Assoc.get? mapped (.named rule.id) with
  | some value =>
    if !rule.transform.isEmpty && value.isContainer then
      if rule.upLevel ≠ 0 then return mapper.lift rule value mapped
      else return mapper.store rule (mapper.transform rule.transform value) mapped
    else return mapper.store rule (← mapper.convert value rule) mapped
  | none =>
    match ← mapper.omitted? rule with
    | some value => return mapper.store rule value mapped
    | none => return mapped

def mapFields (mapper : ItemMapper) (item : Fields) (rules : List PropertyRule) : Result Fields :=
  rules.foldlM mapper.applyRule item

/-- What an entry that holds single values stores for an item: the value of its first property alone. -/
def singleValue (item : Fields) : List PropertyRule → Value
  | [] => .null
  | rule :: _ => Fields.lookup item rule.id

/-- The fields of a value that is copied as an item: an object's own, or the pairs of a list of pairs. A pair may
also be two characters or the two keys of an object. -/
def itemFields : Value → Result Fields
  | .object fields => .ok fields
  | .text "" => .ok []
  | .text _ => .error .unreadableText
  | .list items => (items.mapM pair).map (Assoc.putAll [])
  | _ => .error .wrongKind
where
  pair : Value → Result (Key × Value)
    | .list [key, value] => return (← key.asKey, value)
    | .object [(key, _), (other, _)] => .ok (key, other.toValue)
    | .list _ | .object _ => .error .unreadableText
    | .text content =>
      match content.toList with
      | [first, second] => .ok (.named first.toString, .text second.toString)
      | _ => .error .unreadableText
    | _ => .error .wrongKind

def mapItem (mapper : ItemMapper) (item : Value) (rules : List PropertyRule) (singly : Bool) : Result Value :=
  if singly then
    if rules.isEmpty then .ok .null else return singleValue (← item.fieldsOrFail) rules
  else return .object (← mapper.mapFields (← itemFields item) rules)

end ItemMapper

end Reconcile
