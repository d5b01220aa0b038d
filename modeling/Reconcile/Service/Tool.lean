import Reconcile.Value.Compare
import Reconcile.Value.Literal

/-!
The tools that the service offers: their names and the arguments they take.
-/

namespace Reconcile

structure Parameter where
  name : String
  type : String := "object"
  description : String
  required : Bool := true
  /-- What an argument that is left out stands for. -/
  standard : Option Value := none

namespace Parameter

def device : Parameter where
  name := "device_id"
  type := "string"
  description := "Device ID from devices.yaml (e.g., 'bigip-1')"

def declaration : Parameter where
  name := "declaration"
  description := "Declaration body: \x7bclass: Device, schemaVersion, Common: \x7bclass: Tenant, ...\x7d\x7d"

/-- A declaration that only says what is worth reading. -/
def interest : Parameter where
  name := "declaration"
  description := "Optional declaration; selects DB variables and gated classes of interest"
  required := false

def trace : Parameter where
  name := "trace"
  type := "boolean"
  description := "Write masked current/desired/diff trace files"
  required := false
  standard := some (.bool false)

def schema (parameter : Parameter) : Value :=
  let described : Fields := [("type", .text parameter.type), ("description", .text parameter.description)]
  .object (match parameter.standard with
    | some value => Assoc.put described "default" value
    | none => described)

end Parameter

inductive Tool where
  | listDevices
  | deviceStatus
  | validateDeclaration
  | parseDeclaration
  | currentConfig
  | planDeclaration
  | inspectDevice
deriving DecidableEq

namespace Tool

def all : List Tool :=
  [.listDevices, .deviceStatus, .validateDeclaration, .parseDeclaration, .currentConfig, .planDeclaration,
   .inspectDevice]

def name : Tool → String
  | .listDevices => "list_devices"
  | .deviceStatus => "device_status"
  | .validateDeclaration => "validate_declaration"
  | .parseDeclaration => "parse_declaration"
  | .currentConfig => "get_current_config"
  | .planDeclaration => "plan_declaration"
  | .inspectDevice => "inspect_device"

def parameters : Tool → List Parameter
  | .listDevices => []
  | .deviceStatus | .inspectDevice => [.device]
  | .validateDeclaration | .parseDeclaration => [.declaration]
  | .currentConfig => [.device, .interest]
  | .planDeclaration => [.device, .declaration, .trace]

def ofName? (name : String) : Option Tool :=
  all.find? fun tool => tool.name = name

theorem ofName?_name (tool : Tool) : ofName? tool.name = some tool := by
  cases tool <;> decide

def schema (tool : Tool) : Value :=
  .object [
    ("type", .text "object"),
    ("properties", .object (tool.parameters.map fun parameter => (.named parameter.name, parameter.schema))),
    ("required", .ofTexts ((tool.parameters.filter Parameter.required).map Parameter.name))]

def outline (tool : Tool) : Value :=
  .object [("name", .text tool.name), ("schema", tool.schema)]

end Tool

end Reconcile
