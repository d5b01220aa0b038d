import Reconcile.Catalog.Basic
import Reconcile.Value.Compare

/-!
The baseline of a device after a read. It is what the device was first seen with, widened by what could not be seen
then: database variables, a disk that has grown, and the classes of modules provisioned since.
-/

namespace Reconcile.Widening

def withVariables (observed : Value) (common : Fields) : Result Fields :=
  match observed with
  | .object settings => do
    let known ← settings.foldlM (fun known (name, value) => do
      if ← known.mentions name then return known else known.putOrFail name value)
      ((Assoc.get? common "DbVariables").getD .empty)
    return Assoc.put common "DbVariables" known
  | _ => .ok common

def withDisk (observed : Value) (common : Fields) : Result Fields := do
  let size ← (observed.orElse .empty).field "applicationData"
  if !size.truthy then return common
  let known ← ((common.lookup "Disk").orElse .empty).fieldsOrFail
  match ((Fields.lookup known "applicationData").orElse (.int 0)).less? size with
  | some true => return Assoc.put common "Disk" (.object (Assoc.put known "applicationData" size))
  | some false => return common
  | none => .error .wrongKind

def isProvisioned (levels : Fields) (name : String) : Bool :=
  match Assoc.get? levels (.named name) with
  | some level => !level.spells "none"
  | none => false

def isDeprovisioned (levels : Fields) (name : String) : Bool :=
  match Assoc.get? levels (.named name) with
  | some level => level.spells "none"
  | none => false

/-- Makes room for the class of an entry whose module is there; takes the room back when the module has gone. -/
def withClass (levels : Fields) (common : Fields) (entry : Entry) : Fields :=
  match entry.class? with
  | none => common
  | some name =>
    let module? := given? entry.requiredModule
    if (module?.map (isProvisioned levels)).getD true then Assoc.putNew common (.named name) .empty
    else match Assoc.get? common (.named name) with
      | some (.object []) =>
        if (module?.map (isDeprovisioned levels)).getD false then Assoc.erase common (.named name) else common
      | _ => common

def withClasses (catalog : Catalog) (observed : Value) (common : Fields) : Fields :=
  match observed with
  | .object [] => common
  | .object levels => catalog.entries.foldl (withClass levels) common
  | _ => common

def widenTenant (catalog : Catalog) (current common : Fields) : Result Fields := do
  let common ← withVariables (current.lookup "DbVariables") common
  let common ← withDisk (current.lookup "Disk") common
  return withClasses catalog (current.lookup "Provision") common

def tellsSize : Value → Bool
  | .object disk => (Fields.lookup disk "applicationData").truthy
  | disk => disk.truthy

def widens (catalog : Catalog) (current : Fields) : Bool :=
  (current.lookup "DbVariables").isObject || tellsSize (current.lookup "Disk") ||
    ((current.lookup "Provision").isObject && (current.lookup "Provision").truthy && !catalog.classes.isEmpty)

/-- The baseline, widened by what has been read. Only an object can be widened. -/
def widen (catalog : Catalog) (current : Fields) (baseline : Value) : Result Value := do
  let tenants ← baseline.fieldsOrFail
  match (Assoc.get? tenants "Common").getD .empty with
  | .object common => return .object (Assoc.put tenants "Common" (.object (← widenTenant catalog current common)))
  | _ => if widens catalog current then .error .noFields else return baseline

end Reconcile.Widening
