import Reconcile.Catalog.Basic
import Reconcile.Inspection.Rework
import Reconcile.Log

/-!
A declaration rebuilt from a configuration that was read with the names of declarations. Entries that end up
under one key are all kept, the later ones under marked keys, and the declaration does not count as valid then.
-/

namespace Reconcile

structure Inspection where
  declaration : Fields := []
  valid : Bool := true
  errors : List String := []

def Inspection.outline (inspection : Inspection) : Value :=
  .object [
    ("valid", .bool inspection.valid),
    ("errors", .ofTexts inspection.errors),
    ("declaration", .object [("class", .text "DO"), ("declaration", .object inspection.declaration)])]

namespace Rebuild

def collisionError : String :=
  "Declaration contains INVALID items (suffixed with INVALID_X)"

structure Draft where
  fields : Fields
  /-- How many later entries each key has had. -/
  duplicates : List (Key × Nat) := []

def Draft.file (draft : Draft) (tenant key : Key) (value : Value) : Logged Draft :=
  if Assoc.has draft.fields key then do
    let count := (Assoc.get? draft.duplicates key).getD 0 + 1
    let marked := key.display ++ "_INVALID_" ++ toString count
    Log.note .warning
      ("Duplicate declaration key " ++ key.display ++ " in " ++ tenant.display ++ ", stored as " ++ marked)
    return ⟨Assoc.put draft.fields marked value, Assoc.put draft.duplicates key count⟩
  else return { draft with fields := Assoc.put draft.fields key value }

/-- The object as a declared one: with its class, by its own name only where the class keeps names. -/
def declare (entry : Entry) : Value → Value
  | .object fields =>
    let fields := Assoc.put fields "class" (.ofText? entry.schemaClass)
    let fields := if entry.providesName then fields else Assoc.erase fields "name"
    .object (entry.declaration.properties.foldl (fun fields rule => rule.apply fields) fields)
  | value => value

/-- Runs the functions of an entry until one leaves the value out; unknown ones are skipped with a warning. -/
def rework (key : Key) (value : Value) : List String → Logged Reworked
  | [] => return (key, some value)
  | name :: rest =>
    match Rework.named? name with
    | none => do
      Log.note .warning ("Unknown declaration function " ++ name)
      rework key value rest
    | some function =>
      if value.isNull then return (key, none)
      else do
        match ← function key value with
        | (key, some value) => rework key value rest
        | (key, none) => skip rest key
where
  /-- Nothing is left to rework; only unknown functions up to the next known one are still noticed. -/
  skip : List String → Key → Logged Reworked
    | [], key => return (key, none)
    | name :: rest, key =>
      match Rework.named? name with
      | some _ => return (key, none)
      | none => do
        Log.note .warning ("Unknown declaration function " ++ name)
        skip rest key

def fileObject (entry : Entry) (tenant : Key) (draft : Draft) (key : Key) (value : Value) : Logged Draft := do
  match ← rework key (declare entry value) entry.declaration.customFunctions with
  | (_, none) | (_, some .null) => return draft
  | (key, some value) => draft.file tenant key value

def configName? (entry : Entry) : Option String :=
  if entry.path = "" || !entry.declaration.enabled then none
  else if entry.schemaMerge.isSome && entry.declaration.customFunctions.isEmpty then none
  else match given? entry.declaration.name with
    | some name => some name
    | none => entry.class?

def singleKey (entry : Entry) : Key :=
  match given? entry.declaration.name with
  | some name => name
  | none => "current" ++ (Value.ofText? entry.schemaClass).display

def fileEntry (catalog : Catalog) (config : Fields) (tenant : Key) (draft : Draft) (entry : Entry) : Logged Draft :=
  match configName? entry with
  | none => return draft
  | some name =>
    match Assoc.get? config (.named name) with
    | none => return draft
    | some (.object objects) =>
      if catalog.isNameless name then fileObject entry tenant draft (singleKey entry) (.object objects)
      else objects.foldlM (fun draft object => fileObject entry tenant draft object.1 object.2) draft
    | some value => fileObject entry tenant draft (singleKey entry) value

def declaration (catalog : Catalog) (version : String) (config : Value) : Logged Inspection := do
  let tenants ← config.fieldsOrFail
  let start : Fields := [("class", .text "Device"), ("schemaVersion", .text version)]
  let (fields, valid) ← tenants.foldlM (fun (fields, valid) (tenant, config) =>
    match config with
    | .object config => do
      let draft ← catalog.entries.foldlM (fileEntry catalog config tenant) { fields := [("class", .text "Tenant")] }
      return (Assoc.put fields tenant (.object draft.fields), valid && draft.duplicates.isEmpty)
    | _ => return (fields, valid)) (start, true)
  return ⟨fields, valid, if valid then [] else [collisionError]⟩

end Rebuild

end Reconcile
