import Reconcile.Fault

/-!
Classes that a declaration leaves out go back to what the device was first seen with. That keeps the declaration
in charge of these classes even where it does not mention them.
-/

namespace Reconcile

/-- The classes that are compared, and restored when a declaration omits them. -/
def defaultTruth : List String :=
  ["hostname", "DbVariables", "DNS", "NTP", "Provision", "VLAN", "Trunk", "SelfIp", "Route", "ConfigSync",
   "DeviceGroup", "FailoverUnicast", "Analytics", "ManagementRoute", "RouteDomain", "Authentication",
   "RemoteAuthRole", "SnmpAgent", "SnmpTrapEvents", "SnmpUser", "SnmpCommunity", "SnmpTrapDestination",
   "DagGlobals", "System", "TrafficControl", "HTTPD", "SSHD"]

namespace Restoration

/-- Whether a declared class asks to be restored: it is absent, or an empty object. -/
def isOmitted : Option Value → Bool
  | none => true
  | some (.object fields) => fields.isEmpty
  | some _ => false

/-- The System class of the device without its host name when the declaration gives a host name. -/
def systemFor (declared : Fields) : Value → Value
  | .object fields =>
    if (declared.lookup "hostname").truthy then .object (Assoc.erase fields "hostname") else .object fields
  | value => value

def withRemoteDefaults (declared baseline : Value) : Value :=
  match declared, baseline with
  | .object fields, .object known =>
    match Assoc.get? known "remoteUsersDefaults" with
    | some defaults => .object (Assoc.putNew fields "remoteUsersDefaults" defaults)
    | none => declared
  | _, _ => declared

def restoreClass (known declared : Fields) (schemaClass : String) : Fields :=
  match Assoc.get? known schemaClass with
  | none => declared
  | some baseline =>
    let present := Assoc.get? declared schemaClass
    if isOmitted present then
      Assoc.put declared schemaClass (if schemaClass = "System" then systemFor declared baseline else baseline)
    else if schemaClass = "Authentication" then
      Assoc.put declared schemaClass (withRemoteDefaults (present.getD .null) baseline)
    else declared

def restoreTenant (truth : List String) (known declared : Fields) : Fields :=
  truth.foldl (restoreClass known) declared

def restore (truth : List String) (declaration baseline : Value) : Result Value := do
  let known ← baseline.fieldsOrFail
  if known.isEmpty then return declaration
  let tenants ← declaration.fieldsOrFail
  return .object (known.foldl (fun tenants entry =>
    match Assoc.get? tenants entry.1, entry.2 with
    | some (.object declared), .object known =>
      Assoc.put tenants entry.1 (.object (restoreTenant truth known declared))
    | _, _ => tenants) tenants)

end Restoration

end Reconcile
