import Reconcile.Catalog.Reading

/-!
Catalogs written out as documents: every rule with what follows from it, nothings left out.
-/

namespace Reconcile

mutual

/-- A property rule with its declaration name; entries that are null or an empty list are left out, a default
that is null is not. -/
def PropertyRule.outline : PropertyRule → Value
  | ⟨id, newId, truth, falsehood, skipWhenOmitted, defaultWhenOmitted, stringToInt, transform, capture,
      captureProperty, removeKeys, upLevel, dereferenceId, retainCommon, minVersion, multiplier, zeroValue⟩ =>
    let entries : Fields := [
      ("id", .text id),
      ("newId", .ofText? newId),
      ("truth", truth),
      ("falsehood", falsehood),
      ("skipWhenOmitted", .bool skipWhenOmitted),
      ("stringToInt", .bool stringToInt),
      ("transform", .list (outlines transform)),
      ("capture", .ofText? capture),
      ("captureProperty", .ofText? captureProperty),
      ("removeKeys", .ofTexts removeKeys),
      ("upLevel", .int upLevel),
      ("dereferenceId", .ofText? dereferenceId),
      ("retainCommon", .bool retainCommon),
      ("minVersion", .ofText? minVersion),
      ("multiplier", match multiplier with | some factor => .int factor | none => .null),
      ("zeroValue", zeroValue),
      ("declarationId", .text ((given? newId).getD id)),
      ("hasDefault", .bool defaultWhenOmitted.isSome)]
    let told := entries.filter fun entry =>
      match entry.2 with
      | .null | .list [] => false
      | _ => true
    .object (told ++ match defaultWhenOmitted with
      | some value => [(("defaultWhenOmitted" : Key), value)]
      | none => [])

def PropertyRule.outlines : List PropertyRule → List Value
  | [] => []
  | rule :: rest => rule.outline :: PropertyRule.outlines rest

end

def MergeRule.outline (merge : MergeRule) : Value :=
  .object [
    ("path", .ofTexts merge.path),
    ("action", .ofText? merge.adds),
    ("skipWhenOmitted", .bool merge.skipWhenOmitted)]

def TidyRule.outline (rule : TidyRule) : Value :=
  .object [
    ("id", .text rule.id),
    ("remove", .bool rule.remove),
    ("removeIfValue", match rule.removeIfValue with | some values => .list values | none => .null),
    ("truth", rule.truth),
    ("replaceIfValue", rule.replaceIfValue),
    ("newValue", rule.newValue)]

def Rendition.outline (options : Rendition) : Value :=
  .object [
    ("enabled", .bool options.enabled),
    ("name", .ofText? options.name),
    ("customFunctions", .ofTexts options.customFunctions),
    ("properties", .list (options.properties.map TidyRule.outline))]

def Entry.outline (entry : Entry) : Value :=
  .object [
    ("path", .text entry.path),
    ("schemaClass", .ofText? entry.schemaClass),
    ("properties", .list (PropertyRule.outlines entry.properties)),
    ("references", .object (Assoc.mapValues (fun _ rules => .list (PropertyRule.outlines rules)) entry.references)),
    ("singleValue", .bool entry.singleValue),
    ("nameless", .bool entry.nameless),
    ("silent", .bool entry.silent),
    ("ignore", .list (entry.ignore.map fun rule => .list [rule.1.toValue, .text rule.2])),
    ("schemaMerge", match entry.schemaMerge with | some merge => merge.outline | none => .null),
    ("partitions", match entry.partitions with | some names => .ofTexts names | none => .null),
    ("requiredModule", .ofText? entry.requiredModule),
    ("declaration", entry.declaration.outline),
    ("hasNameOverride", .bool entry.providesName),
    ("needsDeviceName", .bool entry.asksForName),
    ("selectFields", .ofTexts entry.requested)]

namespace Catalog

/-- A catalog at a glance: its classes by name, the paths of the classes in `wanted`, for each id in `ruleIds`
which entries have such a rule, and, when `dump`, every entry in full. -/
def outline (catalog : Catalog) (wanted ruleIds : List String) (dump : Bool) : Value :=
  .object [
    ("length", .int catalog.entries.length),
    ("classes", .ofTexts (sortNames catalog.classes)),
    ("nameless", .ofTexts (sortNames catalog.unnamedClasses)),
    ("overrides", .ofTexts (sortNames (catalog.classes.filter catalog.providesName))),
    ("forClass", .object (wanted.foldl (fun fields name =>
      Assoc.put fields (.named name) (.ofTexts ((catalog.entriesOf name).map Entry.path))) [])),
    ("rule", .object (ruleIds.foldl (fun fields id =>
      Assoc.put fields (.named id)
        (.list (catalog.entries.map fun entry => .bool (entry.rule? id).isSome))) [])),
    ("descriptors", if dump then .list (catalog.entries.map Entry.outline) else .null)]

end Catalog

end Reconcile
