import Reconcile.Engine.Plan
import Reconcile.Engine.Inspect
import Reconcile.Remote.Inventory

/-!
The service that looks after the devices of an inventory. It remembers the state of every device that it has read;
a device is connected to for as long as it is read and no longer.
-/

namespace Reconcile

/-- A device as the service finds it: whether it lets itself be connected to, and how it answers then. -/
structure ServedDevice extends Device where
  opened : Result Unit

abbrev Registry := String → Result ServedDevice

def Registry.find (registry : Registry) : Value → Result ServedDevice
  | .text id => registry id
  | .list _ | .object _ => .error .wrongKind
  | value => .error (.unknownDevice value.display)

structure Service where
  engine : Engine
  inventory : Inventory
  store : BaselineStore := .inMemory
  /-- The state of each device that has been read. -/
  states : List (String × DeviceState) := []

abbrev Served (α : Type) := Service → Observed (Service × Result α)

namespace Service

def desk (service : Service) (device : String) : Desk where
  state := (Assoc.get? service.states device).getD { task := some device }
  store := service.store

def keep (service : Service) (device : String) (desk : Desk) : Service :=
  { service with store := desk.store, states := Assoc.put service.states device desk.state }

def status (registry : Registry) (id : Value) : Result Value := do
  let device ← registry.find id
  let status : Reachability := .ofIdentity (do device.opened; device.identity)
  return .object (("device_id", id) :: status.outline)

def currentConfig (registry : Registry) (id declaration : Value) : Served Value := fun service => do
  let device ← registry.find id
  device.opened
  let (desk, outcome) ← service.engine.read declaration device.toDevice false (service.desk device.id)
  return (service.keep device.id desk, do
    outcome
    return .object [("device_id", id), ("current", desk.state.current)])

def plan (registry : Registry) (id declaration : Value) : Served Value := fun service => do
  let device ← registry.find id
  device.opened
  let (desk, outcome) ← service.engine.plan declaration device.toDevice (service.desk device.id)
  return (service.keep device.id desk, outcome.map Plan.outline)

def inspectionTask : String :=
  "*"

def inspect (registry : Registry) (id : Value) (service : Service) : Observed Value := do
  let device ← registry.find id
  device.opened
  return (← service.engine.inspect inspectionTask device.toDevice).outline

def validate (service : Service) (declaration : Value) : Result Value := do
  return .object (← service.engine.validate declaration).outline

def flatten (service : Service) (declaration : Value) : Logged Value := do
  let report ← service.engine.validate declaration
  if !report.valid then
    return .object (("success", .bool false) :: report.outline)
  let flat ← service.engine.flatten none declaration
  return .object [
    ("success", .bool true), ("tenants", .list (flat.tenants.map Key.toValue)), ("parsed", .object flat.body),
    ("warnings", .ofTexts report.warnings)]

def deviceOutline (service : Service) (id : Key) (config : Value) : Result Value := do
  let fields ← config.fieldsOrFail
  return .object [
    ("id", id.toValue), ("name", (Assoc.get? fields "name").getD id.toValue), ("type", Fields.lookup fields "type"),
    ("host", Fields.lookup fields "host"), ("port", Fields.lookup fields "port"),
    ("groups", .list ((service.inventory.groupsOf id.display).map Key.toValue))]

def devices (service : Service) : Result Value := do
  let outlines ← service.inventory.devices.mapM fun (id, config) => service.deviceOutline id config
  return .object [("devices", .list outlines)]

end Service

end Reconcile
