import Reconcile.Catalog.Basic

/-!
What shaping needs to know about the item at hand, and how it reaches the parts of an item. Field names come from
the rules, so that shaping works for both ways of reading a device.
-/

namespace Reconcile

structure ShapingContext where
  entry : Entry
  translate : Bool := false
  name : Value := .null

namespace ShapingContext

def fieldAmong (context : ShapingContext) (rules : List PropertyRule) (id : String) : Key :=
  if context.translate then
    match rules.find? fun rule => rule.id == id with
    | some rule => rule.declaredName
    | none => id
  else id

def field (context : ShapingContext) (id : String) : Key :=
  context.fieldAmong context.entry.properties id

def rulesFor (context : ShapingContext) (id : String) : List PropertyRule :=
  (Assoc.get? context.entry.references (.named id)).getD []

end ShapingContext

namespace Shaping

def takeOut (value : Value) (key : Key) : Result (Value × Fields) :=
  match value with
  | .object fields => .ok (Fields.lookup fields key, Assoc.erase fields key)
  | .list _ => .error .wrongKind
  | _ => .error .noFields

def eachItem (shape : Value → Result Value) (items : Value) : Result Value := do
  if items.truthy then return .list (← (← items.itemsOrFail).mapM shape) else return items

def itemsAt (key : Key) (shape : Value → Result Value) (value : Value) : Result Value := do
  let fields ← value.fieldsOrFail
  let items := Fields.lookup fields key
  if items.truthy then return .object (Assoc.put fields key (← eachItem shape items)) else return value

def eachObject (shape : Value → Result Value) (objects : Value) : Result Value := do
  let fields ← objects.fieldsOrFail
  return .object (← fields.mapM fun entry => return (entry.1, ← shape entry.2))

def pieces (separator content : String) : Value :=
  .ofTexts (Text.cut separator content)

end Shaping

end Reconcile
