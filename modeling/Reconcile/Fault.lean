import Reconcile.Text.Numeral
import Reconcile.Text.Split
import Reconcile.Value.Compare
import Reconcile.Value.Literal

/-!
Why an operation fails. The first causes say that a document does not have the shape an operation needs;
the others are failures of the domain, and each of those has a message.
-/

namespace Reconcile

inductive CatalogPlace where
  | rule (id : Value)
  | declarationRule (id : Value)
  | merge
  | declaration
  | entry (path : Value)

inductive Fault where
  /-- A field was asked of a value that has no fields. -/
  | noFields
  /-- A value cannot be used the way the operation uses it. -/
  | wrongKind
  /-- A field that has to be there is not. -/
  | missing (name : String)
  /-- Two keys of different sorts have no order. -/
  | unordered (left right : Key)
  /-- A path without steps has no first and no last one. -/
  | outOfRange
  /-- A text does not spell what it should spell. -/
  | unreadableText
  | unknownKeys (place : CatalogPlace) (keys : List String)
  | ruleWithoutId (rule : Value)
  | entryWithoutPath (entry : Value)
  | ignoreRuleShape (rule : Value)
  | catalogShape (source : String)
  | declarationShape
  | classShape (key : Key) (given : Value)
  | selfPointer (pointer : String)
  | mergeConflict (property : Key)
  | unreadable (message : String)
  | ambiguousDevice
  | unmatchedDevice
  | unresolvedReference (target : Key) (schemaClass : String) (cause : String)
  | unreadableBaseline (id : String)
  | unknownChange (kind : String)
  | unknownFunction (name : String)
  | unknownDevice (id : String)
  | unknownGroup (name : String)
  | unknownDeviceType (name : String)
  | inventoryMissing
  | refusedStatus (code : Int)
  | transport (kind : String)
  | notJson

abbrev Result := Except Fault

def CatalogPlace.display : CatalogPlace → String
  | .rule id => "property rule '" ++ id.display ++ "'"
  | .declarationRule id => "declaration property '" ++ id.display ++ "'"
  | .merge => "schemaMerge"
  | .declaration => "declaration"
  | .entry path => "catalog entry '" ++ path.display ++ "'"

namespace Fault

/-- What a failure says. Shape faults are named in general terms. -/
def message : Fault → String
  | .noFields => "value has no fields"
  | .wrongKind => "value of the wrong kind"
  | .missing name => Text.quoted name
  | .unordered left right => "'<' not supported between instances of '" ++ left.sort ++ "' and '" ++ right.sort ++ "'"
  | .outOfRange => "index out of range"
  | .unreadableText => "unreadable text"
  | .unknownKeys place keys => "Unknown keys in " ++ place.display ++ ": " ++ ", ".intercalate keys
  | .ruleWithoutId rule => "Property rule without id: " ++ rule.display
  | .entryWithoutPath entry => "Catalog entry without path: " ++ entry.display
  | .ignoreRuleShape rule => "Ignore rules take exactly one key: " ++ rule.display
  | .catalogShape source => "Catalog " ++ source ++ " must be a list of entries"
  | .declarationShape => "Declaration must be an object"
  | .classShape key given => "Invalid class for " ++ key.display ++ ": " ++ given.literal
  | .selfPointer pointer => "Pointer " ++ pointer ++ " refers to itself"
  | .mergeConflict property => "Cannot overwrite property in a schema merge '" ++ property.display ++ "'"
  | .unreadable message => message
  | .ambiguousDevice => "Too many devices match our name"
  | .unmatchedDevice => "No device matches our name"
  | .unresolvedReference target schemaClass cause =>
    "Failed to resolve " ++ target.display ++ " of " ++ schemaClass ++ ": " ++ cause
  | .unreadableBaseline id => "Unreadable baseline for " ++ id
  | .unknownChange kind => kind ++ " is not a kind of change"
  | .unknownFunction name => Text.quoted name
  | .unknownDevice id => "Unknown device: " ++ id
  | .unknownGroup name => "Unknown group: " ++ name
  | .unknownDeviceType name => "Unknown device type: " ++ name
  | .inventoryMissing => "Could not find devices.yaml"
  | .refusedStatus code => "status " ++ toString code
  | .transport kind => kind
  | .notJson => "answer is not JSON"

/-- How a failure is shown where nothing else is: a name that was not found is shown in quotes. -/
def display (fault : Fault) : String :=
  match fault with
  | .unknownDevice _ | .unknownGroup _ => Text.quoted fault.message
  | _ => fault.message

def isDeviceFailure : Fault → Bool
  | .unreadable _ | .ambiguousDevice | .unmatchedDevice | .unresolvedReference _ _ _ => true
  | _ => false

end Fault

def Text.integerOrFail (content : List Char) : Result Int :=
  match integer? content with
  | some number => .ok number
  | none => .error .unreadableText

namespace Value

def fieldsOrFail : Value → Result Fields
  | .object fields => .ok fields
  | _ => .error .noFields

def field (value : Value) (key : Key) : Result Value := do
  return (← value.fieldsOrFail).lookup key

/-- The items of a value that is gone through one by one: a list's items, an object's keys, a text's characters. -/
def itemsOrFail : Value → Result (List Value)
  | .list items => .ok items
  | .object fields => .ok (fields.map fun entry => entry.1.toValue)
  | .text content => .ok (content.toList.map fun c => .text c.toString)
  | _ => .error .wrongKind

def asKey : Value → Result Key
  | .null => .ok .unnamed
  | .text name => .ok name
  | .bool flag => .ok (.flag flag)
  | .int number => .ok (.whole number)
  | .real number => .ok (.real number)
  | .list _ | .object _ => .error .wrongKind

def mentions (value : Value) (key : Key) : Result Bool :=
  match value, key with
  | .object fields, key => .ok (Assoc.has fields key)
  | .list items, key => .ok (items.any fun item => key.toValue.looseEq item)
  | .text content, .named part => .ok (Text.contains part content)
  | _, _ => .error .wrongKind

def putOrFail (value : Value) (key : Key) (content : Value) : Result Value :=
  match value with
  | .object fields => .ok (.object (Assoc.put fields key content))
  | _ => .error .wrongKind

end Value

end Reconcile
