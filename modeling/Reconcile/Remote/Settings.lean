import Reconcile.Fault
import Reconcile.Text.Lower

/-!
How a device is reached: what an inventory says about it, completed by defaults.
-/

namespace Reconcile

abbrev Environment := List (String × String)

structure DeviceSettings where
  type : Value
  name : Value
  host : Value
  protocol : Value
  portNumber : Value
  username : Value
  password : Value
  passwordVariable : Value
  timeout : Value
  retries : Value
  retryDelay : Value
  verifyCertificate : Value

namespace DeviceSettings

def required : List Key :=
  ["type", "name", "host"]

def defaults : Fields :=
  [("protocol", .text "https"), ("port", .int 443), ("username", .text "admin"), ("password", .null),
   ("password_env", .text "ONBOARDCRAFT_PASSWORD"), ("timeout", .int 30), ("retries", .int 3),
   ("retry_delay", .int 2), ("verify_ssl", .bool true)]

def types : List String :=
  ["bigip", "rest"]

def complete (given : Fields) : Result DeviceSettings :=
  let known := required ++ Assoc.keys defaults
  if !given.all (fun entry => known.contains entry.1) || !required.all (Assoc.has given) then .error .wrongKind
  else
    let get (name : String) : Value := (Assoc.get? given (.named name)).getD (Fields.lookup defaults name)
    .ok {
      type := get "type", name := get "name", host := get "host", protocol := get "protocol", portNumber := get "port"
      username := get "username", password := get "password", passwordVariable := get "password_env"
      timeout := get "timeout", retries := get "retries", retryDelay := get "retry_delay"
      verifyCertificate := get "verify_ssl" }

/-- Reads what is said about a device, whose type has to be known in whatever case it is written. -/
def ofValue (config : Value) : Result DeviceSettings := do
  let given ← config.fieldsOrFail
  match (Assoc.get? given "type").getD (.text "") with
  | .text type =>
    let type := Text.lower type
    if type ∈ types then complete given else .error (.unknownDeviceType type)
  | _ => .error .noFields

def outline (settings : DeviceSettings) : Value :=
  .object [
    ("type", settings.type), ("name", settings.name), ("host", settings.host), ("protocol", settings.protocol),
    ("port", settings.portNumber), ("username", settings.username), ("password", settings.password),
    ("password_env", settings.passwordVariable), ("timeout", settings.timeout), ("retries", settings.retries),
    ("retry_delay", settings.retryDelay), ("verify_ssl", settings.verifyCertificate)]

/-- The password: the one given, else the one in the environment, else an empty one. -/
def passwordIn (settings : DeviceSettings) (environment : Environment) : Result Value :=
  if settings.password.truthy then .ok settings.password
  else match settings.passwordVariable with
    | .text name => .ok (.text ((Assoc.get? environment name).getD ""))
    | _ => .error .wrongKind

def baseAddress (settings : DeviceSettings) : String :=
  settings.protocol.display ++ "://" ++ settings.host.display ++ ":" ++ settings.portNumber.display ++ "/mgmt"

def assumedNumber : String → String
  | "https" | "wss" => "443"
  | "http" | "ws" => "80"
  | "ftp" => "21"
  | _ => ""

/-- Protocol, host and number, where the number that the protocol assumes is left out. -/
def origin (settings : DeviceSettings) : String :=
  let protocol := Text.lower settings.protocol.display
  let number := settings.portNumber.display
  protocol ++ "://" ++ Text.lower settings.host.display ++ ":" ++
    (if number = assumedNumber protocol then "None" else number)

/-- The name and the password that requests are signed with; both have to be text. -/
def credentials (settings : DeviceSettings) (environment : Environment) : Result String := do
  match settings.username, ← settings.passwordIn environment with
  | .text name, .text password => return name ++ ":" ++ password
  | _, _ => .error .wrongKind

end DeviceSettings

end Reconcile
