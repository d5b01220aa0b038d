import Reconcile.Catalog.Basic

/-!
Catalogs read from documents. A key that has no meaning is a fault, so that a misspelt rule cannot be taken for
an absent one.
-/

namespace Reconcile

def insertName (name : String) : List String → List String
  | [] => [name]
  | other :: rest => if name < other then name :: other :: rest else other :: insertName name rest

def sortNames (names : List String) : List String :=
  names.foldr insertName []

def checkNames (names allowed : List String) (place : CatalogPlace) : Result Unit :=
  match (names.filter fun name => name ∉ allowed).eraseDups with
  | [] => .ok ()
  | unknown => .error (.unknownKeys place (sortNames unknown))

/-- The fields of a catalog document, once every key is known to have a meaning. A list of names and the letters of
a text are looked at in the same way, but they have no fields. -/
def knownFields (document : Value) (allowed : List String) (place : CatalogPlace) : Result Fields := do
  match document with
  | .object fields =>
    checkNames (fields.map fun entry => entry.1.display) allowed place
    return fields
  | .list items =>
    if !items.all Value.isText then throw .wrongKind
    checkNames (items.map Value.display) allowed place
    throw .noFields
  | .text content =>
    checkNames (content.toList.map Char.toString) allowed place
    throw .noFields
  | _ => throw .wrongKind

namespace Fields

def text? (fields : Fields) (key : String) : Result (Option String) :=
  match Fields.lookup fields key with
  | .null => .ok none
  | .text content => .ok (some content)
  | _ => .error .wrongKind

def flag (fields : Fields) (key : String) : Bool :=
  (Fields.lookup fields key).truthy

def items (fields : Fields) (key : String) : Result (List Value) :=
  match Assoc.get? fields (.named key) with
  | some value => value.itemsOrFail
  | none => .ok []

end Fields

def Value.textOrFail : Value → Result String
  | .text content => .ok content
  | _ => .error .wrongKind

/-- The whole number a value stands for: a fraction is cut off, a text has to spell a number. -/
def Value.wholeNumber : Value → Result Int
  | .int number => .ok number
  | .bool flag => .ok flag.toNat
  | .real number => let ratio := number.ratio; .ok (ratio.numerator.tdiv ratio.denominator)
  | .text content =>
    match Text.integer? content.toList with
    | some number => .ok number
    | none => .error .unreadableText
  | _ => .error .wrongKind

namespace PropertyRule

def knownKeys : List String :=
  ["id", "newId", "truth", "falsehood", "skipWhenOmitted", "defaultWhenOmitted", "stringToInt", "transform",
   "capture", "captureProperty", "removeKeys", "upLevel", "dereferenceId", "retainCommon", "minVersion",
   "multiplier", "zeroValue"]

def readMultiplier : Value → Result (Option Int)
  | .null => .ok none
  | .int number => .ok (some number)
  | .bool flag => .ok (some flag.toNat)
  | _ => .error .wrongKind

def ofFields (fields : Fields) (transform : List PropertyRule) : Result PropertyRule := do
  return {
    id := ← (Fields.lookup fields "id").textOrFail
    newId := ← Fields.text? fields "newId"
    truth := Fields.lookup fields "truth"
    falsehood := Fields.lookup fields "falsehood"
    skipWhenOmitted := Fields.flag fields "skipWhenOmitted"
    defaultWhenOmitted := Assoc.get? fields "defaultWhenOmitted"
    stringToInt := Fields.flag fields "stringToInt"
    transform
    capture := ← Fields.text? fields "capture"
    captureProperty := ← Fields.text? fields "captureProperty"
    removeKeys := (← Fields.items fields "removeKeys").map Value.display
    upLevel := ← match Assoc.get? fields "upLevel" with
      | some value => value.wholeNumber
      | none => .ok 0
    dereferenceId := ← Fields.text? fields "dereferenceId"
    retainCommon := Fields.flag fields "retainCommon"
    minVersion := ← Fields.text? fields "minVersion"
    multiplier := ← readMultiplier (Fields.lookup fields "multiplier")
    zeroValue := Fields.lookup fields "zeroValue" }

/-- Why a text is no rule: it may mention an id, but it has none. -/
def textFault (content : String) : Fault :=
  if Text.contains "id" content then .wrongKind else .ruleWithoutId (.text content)

mutual

def ofValue (document : Value) : Result PropertyRule :=
  match document with
  | .object fields => do
    if !Assoc.has fields (.named "id") then throw (.ruleWithoutId document)
    let _ ← knownFields document knownKeys (.rule (Fields.lookup fields "id"))
    ofFields fields (← nestedRules fields)
  | .list items =>
    if (Value.text "id").isAmong items then .error .wrongKind else .error (.ruleWithoutId document)
  | .text content => .error (textFault content)
  | _ => .error .wrongKind

def nestedRules : Fields → Result (List PropertyRule)
  | [] => .ok []
  | (.named "transform", .list items) :: _ => ofItems items
  | (.named "transform", .object []) :: _ => .ok []
  | (.named "transform", .object (entry :: _)) :: _ => .error (textFault entry.1.display)
  | (.named "transform", .text content) :: _ =>
    match content.toList with
    | [] => .ok []
    | c :: _ => .error (.ruleWithoutId (.text c.toString))
  | (.named "transform", _) :: _ => .error .wrongKind
  | _ :: rest => nestedRules rest

def ofItems : List Value → Result (List PropertyRule)
  | [] => .ok []
  | item :: rest => do
    let rule ← ofValue item
    let rules ← ofItems rest
    return rule :: rules

end

end PropertyRule

def MergeRule.ofValue (document : Value) : Result MergeRule := do
  let fields ← knownFields document ["path", "action", "skipWhenOmitted"] .merge
  return {
    path := (← Fields.items fields "path").map Value.display
    adds := ← Fields.text? fields "action"
    skipWhenOmitted := Fields.flag fields "skipWhenOmitted" }

def TidyRule.ofValue (document : Value) : Result TidyRule := do
  let id ← document.field "id"
  let fields ← knownFields document
    ["id", "remove", "removeIfValue", "truth", "replaceIfValue", "newValue"] (.declarationRule id)
  if !Assoc.has fields (.named "id") then throw (.missing "id")
  return {
    id := ← id.textOrFail
    remove := Fields.flag fields "remove"
    removeIfValue := (Assoc.get? fields "removeIfValue").map fun value =>
      match value with
      | .list items => items
      | value => [value]
    truth := Fields.lookup fields "truth"
    replaceIfValue := Fields.lookup fields "replaceIfValue"
    newValue := Fields.lookup fields "newValue" }

def Rendition.functionName (document : Value) : Result String :=
  match document with
  | .object fields =>
    match Assoc.get? fields "id" with
    | some name => name.textOrFail
    | none => .error (.missing "id")
  | value => value.textOrFail

def Rendition.ofValue (document : Value) : Result Rendition :=
  match document with
  | .null | .bool true => .ok {}
  | .bool false => .ok { enabled := false }
  | document => do
    let fields ← knownFields document ["name", "properties", "customFunctions"] .declaration
    return {
      name := ← Fields.text? fields "name"
      properties := ← (← Fields.items fields "properties").mapM TidyRule.ofValue
      customFunctions := ← (← Fields.items fields "customFunctions").mapM Rendition.functionName }

namespace Entry

def readIgnore (document : Value) : Result (Key × String) :=
  match document with
  | .object [(key, pattern)] => do return (key, ← pattern.textOrFail)
  | document => .error (.ignoreRuleShape document)

def readRules (document : Value) : Result (List PropertyRule) := do
  (← document.itemsOrFail).mapM PropertyRule.ofValue

def readReferences (document : Value) : Result (List (Key × List PropertyRule)) := do
  if !document.truthy then return []
  (← document.fieldsOrFail).mapM fun entry => do return (entry.1, ← readRules entry.2)

def readPartitions (document : Value) : Result (Option (List String)) := do
  if !document.truthy then return none
  return some ((← document.itemsOrFail).map Value.display)

def ofValue (document : Value) : Result Entry := do
  if !(← document.mentions "path") then throw (.entryWithoutPath document)
  let path ← match document with
    | .object fields => pure (Fields.lookup fields "path")
    | _ => throw .wrongKind
  let fields ← knownFields document
    ["path", "schemaClass", "properties", "references", "singleValue", "nameless", "silent", "ignore",
     "schemaMerge", "partitions", "requiredModule", "declaration"] (.entry path)
  let ignore ← (← Fields.items fields "ignore").mapM readIgnore
  return {
    path := ← path.textOrFail
    schemaClass := ← Fields.text? fields "schemaClass"
    properties := ← (← Fields.items fields "properties").mapM PropertyRule.ofValue
    references := ← readReferences (Fields.lookup fields "references")
    singleValue := Fields.flag fields "singleValue"
    nameless := Fields.flag fields "nameless"
    silent := Fields.flag fields "silent"
    ignore
    schemaMerge := ← match Fields.lookup fields "schemaMerge" with
      | .null => pure none
      | merge => some <$> MergeRule.ofValue merge
    partitions := ← readPartitions (Fields.lookup fields "partitions")
    requiredModule := ← Fields.text? fields "requiredModule"
    declaration := ← Rendition.ofValue (Fields.lookup fields "declaration") }

end Entry

namespace Catalog

def ofItems (items : List Value) : Result Catalog := do
  return ⟨← items.mapM Entry.ofValue⟩

/-- A catalog from a whole document; an empty document is an empty catalog. -/
def ofDocument (source : String) (document : Value) : Result Catalog :=
  if !document.truthy then .ok ⟨[]⟩
  else match document with
    | .list items => ofItems items
    | _ => .error (.catalogShape source)

end Catalog

end Reconcile
