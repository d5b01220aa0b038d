import Reconcile.Observation.Merge
import Reconcile.Observation.Reference
import Reconcile.Shaping.Finish
import Reconcile.Shaping.Item

/-!
Putting the answers of a device together by class and name. Entries are taken in catalog order, so that a container
is folded into a class that an earlier entry has begun.
-/

namespace Reconcile

structure Gathering where
  classes : Fields := []
  references : List Reference := []

structure Gatherer where
  translate : Bool
  mapper : ItemMapper
  declaration : Value
  /-- The database variables that are kept. -/
  watched : List Key

namespace Gatherer

def declares (declaration : Value) (schemaClass : String) : Bool :=
  match declaration.get? "Common" with
  | some (.object members) => members.any fun entry =>
    ((entry.2.get? "class").getD .null).spells schemaClass
  | _ => false

def mapRaw (gatherer : Gatherer) (entry : Entry) (item : Value) : Result Value :=
  gatherer.mapper.mapItem (Observation.strip entry.nameless item) entry.properties entry.singleValue

/-- The name an item is stored with, without the common partition, unless a property provides it. -/
def withPlainName (gatherer : Gatherer) (entry : Entry) (name : Value) (fields : Fields) : Fields :=
  let renamed := gatherer.translate && entry.providesName
  if !entry.nameless && Assoc.has fields "name" && !renamed then Assoc.put fields "name" name else fields

def store (entry : Entry) (schemaClass : String) (name? : Option Value) (value : Value) (classes : Fields) :
    Result Fields := do
  match entry.schemaMerge, name? with
  | some merge, _ =>
    match merge.fold ((classes.lookup schemaClass).orElse .empty) value with
    | (merged, none) => return Assoc.put classes (.named schemaClass) merged
    | (_, some fault) => .error fault
  | none, none => return Assoc.put classes (.named schemaClass) value
  | none, some name =>
    let objects := (Assoc.get? classes (.named schemaClass)).getD .empty
    return Assoc.put classes (.named schemaClass) (← objects.putOrFail (← name.asKey) value)

def refer (gatherer : Gatherer) (entry : Entry) (object : Option Key) (raw : Fields) (classes : Fields)
    (gathering : Gathering) : Result Gathering := do
  return ⟨classes, gathering.references ++ (← Reference.ofItem entry gatherer.translate object raw)⟩

def inPartition (entry : Entry) (raw : Fields) : Bool :=
  match entry.partitions with
  | some names => names.any (raw.lookup "partition").spells
  | none => true

def isUnwanted (gatherer : Gatherer) (schemaClass : String) (name : Value) : Result Bool := do
  if schemaClass ≠ "DbVariables" then return false
  match name with
  | .text name => return !gatherer.watched.contains (.named name)
  | .list _ | .object _ => .error .wrongKind
  | _ => return true

def objectName (entry : Entry) (name : Value) : Result (Option Key) := do
  if entry.schemaMerge.isSome || name.isNull then return none else return some (← name.asKey)

def takeItem (gatherer : Gatherer) (entry : Entry) (schemaClass : String) (gathering : Gathering) (raw : Value) :
    Result Gathering := do
  if ← Observation.isIgnored entry.ignore raw then return gathering
  let fields ← raw.fieldsOrFail
  if !inPartition entry fields then return gathering
  let name := withoutPartition (Fields.lookup fields "name")
  if ← gatherer.isUnwanted schemaClass name then return gathering
  let shaped ← (← Shaping.raw schemaClass raw).fieldsOrFail
  let context : ShapingContext := { entry, translate := gatherer.translate, name }
  match ← gatherer.mapRaw entry (.object (Assoc.erase shaped "partition")) with
  | .object mapped =>
    match ← Shaping.item schemaClass context (.object (gatherer.withPlainName entry name mapped)) with
    | .null => return gathering
    | value =>
      let classes ← store entry schemaClass (some name) value gathering.classes
      gatherer.refer entry (← objectName entry name) fields classes gathering
  | value =>
    let classes ← store entry schemaClass (some name) value gathering.classes
    gatherer.refer entry (← objectName entry name) fields classes gathering

def takeObject (gatherer : Gatherer) (entry : Entry) (schemaClass : String) (gathering : Gathering) (raw : Fields) :
    Result Gathering := do
  if ← Observation.isIgnored entry.ignore (.object raw) then return gathering
  let context : ShapingContext :=
    { entry, translate := gatherer.translate, name := withoutPartition (raw.lookup "name") }
  let mapped ← gatherer.mapRaw entry (← Shaping.raw schemaClass (.object raw))
  let value ← if mapped.isObject then Shaping.object schemaClass context mapped else pure mapped
  if value.isNull then return gathering
  gatherer.refer entry none raw (← store entry schemaClass none value gathering.classes) gathering

def begin (schemaClass : String) (wanted : Bool) (gathering : Gathering) : Gathering :=
  if wanted then { gathering with classes := Assoc.putNew gathering.classes (.named schemaClass) .empty }
  else gathering

/-- Takes in the answer for an entry; there is none when the entry's module is not provisioned. -/
def takeAnswer (gatherer : Gatherer) (gathering : Gathering) (entry : Entry) (answer? : Option Value) :
    Result Gathering :=
  match entry.class?, answer? with
  | some schemaClass, none => .ok (begin schemaClass (declares gatherer.declaration schemaClass) gathering)
  | none, some (.object fields) =>
    .ok { gathering with classes := Assoc.putAll gathering.classes (Observation.stripFields true fields) }
  | some schemaClass, some (.list items) =>
    items.foldlM (gatherer.takeItem entry schemaClass) (begin schemaClass items.isEmpty gathering)
  | some schemaClass, some (.object fields) => gatherer.takeObject entry schemaClass gathering fields
  | _, _ => .ok gathering

end Gatherer

def Gatherer.finish (gatherer : Gatherer) (catalog : Catalog) (classes : Fields) : Result Fields :=
  classes.mapM fun (key, value) =>
    match key, value with
    | .named name, .object fields =>
      match catalog.entriesOf name with
      | entry :: _ => do
        return (key, ← Shaping.finish name { entry, translate := gatherer.translate } (.object fields))
      | [] => .ok (key, value)
    | _, _ => .ok (key, value)

end Reconcile
