import Reconcile.Log
import Reconcile.Remote.Settings

/-!
The devices one can ask for by name, and the groups they belong to.
-/

namespace Reconcile

inductive InventoryPlace where
  | environment
  | configs
  | working
  | home
deriving DecidableEq

/-- The place an inventory is read from. A place that the environment names counts even if nothing is there; else
the first place with an inventory counts. -/
def InventoryPlace.find (named : Bool) (isPresent : InventoryPlace → Bool) : Result InventoryPlace :=
  if named then
    if isPresent .environment then .ok .environment else .error .inventoryMissing
  else match [InventoryPlace.configs, .working, .home].find? isPresent with
    | some place => .ok place
    | none => .error .inventoryMissing

structure Inventory where
  devices : Fields
  groups : Fields

namespace Inventory

def withDefaults (defaults : Value) (device : Value) : Result Value := do
  (← defaults.fieldsOrFail).foldlM (fun device (key, value) => do
    if ← device.mentions key then return device else device.putOrFail key value) device

def isDevice (devices : Fields) : Value → Result Bool
  | .list _ | .object _ => .error .wrongKind
  | .text name => .ok (Assoc.has devices (.named name))
  | _ => .ok false

def checkGroup (devices : Fields) (name : Key) : Value → Logged Unit
  | .list members => members.forM fun member => do
    if !(← isDevice devices member) then
      Log.note .warning ("Group '" ++ name.display ++ "' references unknown device: " ++ member.display)
  | _ => Log.note .warning ("Group '" ++ name.display ++ "' should be a list of device IDs")

def ofDocument (document : Value) : Logged Inventory := do
  let fields ← (document.orElse .empty).fieldsOrFail
  let part (name : String) : Value := (Assoc.get? fields (.named name)).getD .empty
  let devices ← (part "devices").fieldsOrFail
  let devices ← devices.mapM fun (id, device) => do
    return (id, (← withDefaults (part "defaults") device : Value))
  let groups ← (part "groups").fieldsOrFail
  groups.forM fun (name, members) => checkGroup devices name members
  return ⟨devices, groups⟩

def ids (inventory : Inventory) : List Key :=
  Assoc.keys inventory.devices

def config (inventory : Inventory) (id : String) : Result Value :=
  match Assoc.get? inventory.devices (.named id) with
  | some config => .ok config
  | none => .error (.unknownDevice id)

def settings (inventory : Inventory) (id : String) : Result DeviceSettings := do
  DeviceSettings.ofValue (← inventory.config id)

def groupNames (inventory : Inventory) : List Key :=
  Assoc.keys inventory.groups

def members (inventory : Inventory) (group : String) : Result (List Value) :=
  match Assoc.get? inventory.groups (.named group) with
  | some members => members.itemsOrFail
  | none => .error (.unknownGroup group)

def groupsOf (inventory : Inventory) (id : String) : List Key :=
  (inventory.groups.filter fun entry =>
    match entry.2 with
    | .list members => members.any fun member => member.spells id
    | _ => false).map Prod.fst

end Inventory

end Reconcile
