import Reconcile.Catalog.Basic
import Reconcile.Mapping.Item
import Reconcile.Observation.Bookkeeping
import Reconcile.Observation.Device
import Reconcile.Observation.Link

/-!
Collections that an item only refers to. They are read once all containers have been read, and spliced into the
object that refers to them.
-/

namespace Reconcile

structure Reference where
  query : Query
  schemaClass : String
  /-- The object that refers to the collection; the class itself when it has no objects. -/
  object : Option Key
  mergePath : List String
  /-- Where in the object the collection goes. -/
  target : Key
  rules : List PropertyRule

namespace Reference

def targetOf (entry : Entry) (translate : Bool) (property : String) : Key :=
  let target := Text.dropTail "Reference" property
  if translate then ((entry.rule? target).bind PropertyRule.newId?).getD target else target

def selectFor (rules : List PropertyRule) : List String :=
  let ids := rules.map PropertyRule.id
  if "name" ∈ ids then ids else ids ++ ["name"]

def ofProperty (entry : Entry) (translate : Bool) (object : Option Key) (property : Key) (value : Value) :
    Result (Option Reference) := do
  match Assoc.get? entry.references property, property, value with
  | some rules, .named name, .object fields =>
    match Fields.lookup fields "link" with
    | .text address =>
      if address = "" then return none
      let link ← Link.ofAddress address
      return some {
        query := { path := link.path, select := selectFor rules, partition := none, params := link.params }
        schemaClass := entry.class?.getD ""
        object
        mergePath := entry.mergePath
        target := targetOf entry translate name
        rules }
    | .list [] | .object [] => return none
    | .list _ | .object _ => .error .wrongKind
    | address => if address.truthy then .error .noFields else return none
  | _, _, _ => return none

def ofItem (entry : Entry) (translate : Bool) (object : Option Key) (item : Fields) : Result (List Reference) := do
  return (← item.mapM fun (property, value) => ofProperty entry translate object property value).filterMap id

def fetch (device : Device) (reference : Reference) : Observed Value := do
  match ← Observed.attempt (device.ask reference.query) with
  | .ok value => return value
  | .error fault =>
    if fault.isDeviceFailure then
      throw (.unresolvedReference reference.target reference.schemaClass fault.message)
    else throw fault

def place (reference : Reference) (current : Fields) : Path :=
  let schemaClass : Key := reference.schemaClass
  let object := match reference.object, Assoc.get? current schemaClass with
    | some name, some (.object _) => [name]
    | _, _ => []
  schemaClass :: object ++ reference.mergePath.map Key.named

def mapped (reference : Reference) (mapper : ItemMapper) : Value → Result (Option Value)
  | .list items => do
    let items ← items.mapM fun item => mapper.mapItem (Observation.strip false item) reference.rules false
    return some (.list items)
  | .object fields =>
    return some (← mapper.mapItem (Observation.strip false (.object fields)) reference.rules false)
  | _ => return none

def splice (reference : Reference) (task : Option String) (mapper : ItemMapper) (result : Value) (current : Fields) :
    Observed Fields := do
  let place := reference.place current
  match place.get? (.object current) with
  | some (.object _) =>
    match ← reference.mapped mapper result with
    | some value => return (place ++ [reference.target]).put value current
    | none => return current
  | _ => do
    Observed.note .warning (Log.forTask task
      ("No place to store " ++ reference.target.display ++ " of " ++ reference.schemaClass))
    return current

end Reference

end Reconcile
