import Reconcile.Declaration.Basic
import Reconcile.Declaration.Native
import Reconcile.Log

/-!
The flat form of a declaration: tenant, then class, then object, all in the device's own names. This is the form
in which a device's configuration is read as well, so that the two can be compared.
-/

namespace Reconcile

structure FlatDeclaration where
  tenants : List Key
  body : Fields

structure Flattener where
  catalog : Catalog
  /-- The modules that count as deprovisioned when a declaration does not mention them. -/
  modules : List String := allModules

namespace Flattener

def withDefaults (flattener : Flattener) (schemaClass : String) (fields : Fields) : Fields :=
  if schemaClass = "Provision" then
    flattener.modules.foldl (fun fields name =>
      if (Fields.lookup fields (.named name)).truthy then fields else Assoc.put fields (.named name) (.text "none")) fields
  else fields

def fileTogether (schemaClass : String) (fields flat : Fields) : Result Fields := do
  let present ← ((Assoc.get? flat schemaClass).getD .empty).fieldsOrFail
  return Assoc.put flat schemaClass (.object (Assoc.putAll present fields))

def fileNamed (schemaClass : String) (name : Key) (fields flat : Fields) : Result Fields := do
  let present := (Assoc.get? flat schemaClass).getD .empty
  return Assoc.put flat schemaClass (← present.putOrFail name (.object fields))

def nameText : Key → Option String
  | .named name => some name
  | _ => none

def flattenObject (flattener : Flattener) (root : Value) (schemaClass : String) (name : Key) (declared flat : Fields) :
    Result Fields := do
  let fields ← Declaration.resolveFields root (Assoc.erase declared "class")
  if flattener.catalog.isNameless schemaClass then
    let fields := flattener.withDefaults schemaClass fields
    fileTogether schemaClass (← flattener.catalog.renameObject schemaClass fields none) flat
  else
    let fields := if (fields.lookup "name").truthy then fields else Assoc.put fields "name" name.toValue
    fileNamed schemaClass name (← flattener.catalog.renameObject schemaClass fields (nameText name)) flat

mutual

/-- One member of a tenant. Loose values are kept, and an object without a class only groups what it holds. -/
def flattenMember (flattener : Flattener) (root : Value) (key : Key) (flat : Fields) : Value → Result Fields
  | .object fields =>
    if key = "class" then .ok flat
    else match Fields.lookup fields "class" with
      | .null => flattenMembers flattener root flat fields
      | .text schemaClass => flattener.flattenObject root schemaClass key fields flat
      | other => .error (.classShape key other)
  | value => .ok (if key = "class" then flat else Assoc.put flat key value)

def flattenMembers (flattener : Flattener) (root : Value) (flat : Fields) : Fields → Result Fields
  | [] => .ok flat
  | (key, value) :: rest => do
    flattenMembers flattener root (← flattenMember flattener root key flat value) rest

end

def flattenTenants (flattener : Flattener) (declaration : Fields) : List Key → Result Fields
  | [] => .ok []
  | tenant :: rest => do
    let flat ← match Assoc.get? declaration tenant with
      | some (.object members) => flattener.flattenMembers (.object declaration) [] members
      | _ => pure []
    return (tenant, .object flat) :: (← flattener.flattenTenants declaration rest)

def flatten (flattener : Flattener) (task : Option String) (declaration : Value) : Logged FlatDeclaration :=
  match declaration with
  | .object fields =>
    let tenants := Declaration.tenants fields
    match flattener.flattenTenants fields tenants with
    | .ok body => pure ⟨tenants, body⟩
    | .error fault => do
      Log.note .error (Log.forTask task ("Error parsing declaration: " ++ fault.message))
      throw fault
  | _ => throw .declarationShape

end Flattener

end Reconcile
