import Reconcile.Difference.Change
import Reconcile.Difference.Restoration
import Reconcile.Log

/-!
What has to be done to a device so that it has the desired configuration. Both configurations have the flat form:
tenant, class, object. Only the classes in charge are compared; all others are taken over as desired.
-/

namespace Reconcile

/-- The outcome of a comparison: what to write per tenant and class, which objects to delete, and the changes that
led there. -/
structure Delta where
  toUpdate : Fields
  toDelete : Fields
  changes : List Change

structure Comparison where
  /-- The classes in charge, and those restored when they are omitted. -/
  truth : List String := defaultTruth
  /-- The classes whose objects have no name. -/
  nameless : List String := []

structure Touched where
  tenant : Key
  schemaClass : Key
  names : List Key

namespace Comparison

def compares (comparison : Comparison) : Key → Bool
  | .named name => name ≠ "hostname" && comparison.truth.contains name
  | _ => false

def isNameless (comparison : Comparison) : Key → Bool
  | .named name => comparison.nameless.contains name
  | _ => false

def concerns (comparison : Comparison) (change : Change) : Bool :=
  match change.path with
  | _ :: schemaClass :: _ => comparison.compares schemaClass
  | _ => false

/-- The objects a change concerns: the one it lies in, or all of a class that arrives as a whole. -/
def namesOf (comparison : Comparison) (change : Change) : List Key :=
  match change.path, change.after? with
  | _ :: schemaClass :: rest, after =>
    if comparison.isNameless schemaClass then []
    else match rest, after with
      | name :: _, _ => [name]
      | [], some (.object fields) => Assoc.keys fields
      | [], _ => []
  | _, _ => []

def touch (comparison : Comparison) (touched : List Touched) (change : Change) : List Touched :=
  match change.path with
  | tenant :: schemaClass :: _ => add tenant schemaClass (comparison.namesOf change) touched
  | _ => touched
where
  add (tenant schemaClass : Key) (names : List Key) : List Touched → List Touched
    | [] => [⟨tenant, schemaClass, names⟩]
    | entry :: rest =>
      if entry.tenant = tenant ∧ entry.schemaClass = schemaClass then
        { entry with names := entry.names ++ names } :: rest
      else entry :: add tenant schemaClass names rest

def noteDeleted (comparison : Comparison) (toDelete : Fields) (change : Change) : Fields :=
  match change.isDelete, change.path with
  | true, [tenant, schemaClass, name] =>
    if comparison.isNameless schemaClass then toDelete
    else Path.put [tenant, schemaClass, name] .empty toDelete
  | _, _ => toDelete

/-- What to write for a class that changes: the objects concerned as far as they are still there, or the class as
a whole. -/
def updateOf (comparison : Comparison) (working : Value) (touched : Touched) : Value :=
  match Path.get? [touched.tenant, touched.schemaClass] working with
  | some (.object fields) =>
    if comparison.isNameless touched.schemaClass then .object fields
    else .object (touched.names.foldl (fun update name =>
      match Assoc.get? fields name with
      | some value => Assoc.put update name value
      | none => update) [])
  | some .null | none => .empty
  | some value => value

def isTouched (touched : List Touched) (tenant schemaClass : Key) : Bool :=
  touched.any fun entry => entry.tenant = tenant && entry.schemaClass = schemaClass

def passedThrough (comparison : Comparison) (touched : List Touched) (tenant : Key) (desired : Fields) : Fields :=
  let outside := desired.filter fun entry => !comparison.compares entry.1
  let unchanged := desired.filter fun entry =>
    comparison.compares entry.1 && comparison.isNameless entry.1 && !isTouched touched tenant entry.1
  outside ++ unchanged

def currentTenant (current : Value) (tenant : Key) : Result Value := do
  if !current.truthy then return .empty
  return (← current.field tenant).orElse .empty

/-- Compares the desired configuration with the current one. With a baseline, omitted classes are restored from it
first. -/
def delta (comparison : Comparison) (desired current baseline : Value) : Result Delta := do
  let wanted ← if baseline.truthy then Restoration.restore comparison.truth desired baseline else pure desired
  let target := (← wanted.fieldsOrFail).filter fun entry => entry.2.isObject
  let before ← target.mapM fun entry => return (entry.1, ← currentTenant current entry.1)
  let changes := (Change.between [] (.object before) (.object target)).filter comparison.concerns
  let working ← changes.foldlM (fun document change => change.apply document) (Value.object before)
  let touched := changes.foldl comparison.touch []
  let kept := target.map fun entry =>
    (entry.1, Value.object (comparison.passedThrough touched entry.1 (entry.2.fields?.getD [])))
  let toUpdate := touched.foldl (fun update entry =>
    Path.put [entry.tenant, entry.schemaClass] (comparison.updateOf working entry) update) kept
  let nothing := target.map fun entry => (entry.1, Value.empty)
  return { toUpdate, toDelete := changes.foldl comparison.noteDeleted nothing, changes }

def tracedDelta (comparison : Comparison) (desired current baseline : Value)
    (trace : List Change → Except String Unit) : Logged Delta := do
  let delta ← comparison.delta desired current baseline
  match trace delta.changes with
  | .ok () => pure ()
  | .error cause => Log.note .warning ("Diff trace failed: " ++ cause)
  return delta

end Comparison

namespace Delta

def isEmpty (delta : Delta) : Bool :=
  delta.changes.isEmpty

def outline (delta : Delta) : Value :=
  .object [
    ("toUpdate", .object delta.toUpdate),
    ("toDelete", .object delta.toDelete),
    ("changes", .list (delta.changes.map Change.outline))]

end Delta

end Reconcile
