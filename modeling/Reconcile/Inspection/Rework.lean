import Reconcile.Catalog.Rule
import Reconcile.Value.Compare

/-!
What becomes of an entry on its way into a rebuilt declaration: the declaration rules of its catalog entry tidy
its properties, and named functions then rework it as a whole. A function may also change the entry's key, or
leave the entry out.
-/

namespace Reconcile

namespace TidyRule

def dropListed (rule : TidyRule) (fields : Fields) : Fields :=
  match rule.removeIfValue with
  | some values => if (fields.lookup rule.id).isAmong values then Assoc.erase fields rule.id else fields
  | none => fields

def readTruth (rule : TidyRule) (fields : Fields) : Fields :=
  if rule.truth.isNull then fields
  else
    let value := fields.lookup rule.id
    Assoc.put fields rule.id (.bool (value.truthy && value.looseEq rule.truth))

def replaceListed (rule : TidyRule) (fields : Fields) : Fields :=
  if rule.replaceIfValue.isNull then fields
  else match Assoc.get? fields (.named rule.id) with
    | some (.list items) =>
      Assoc.put fields rule.id (.list (items.map fun item =>
        if item.looseEq rule.replaceIfValue then rule.newValue else item))
    | some value =>
      if value.looseEq rule.replaceIfValue then Assoc.put fields rule.id rule.newValue else fields
    | none => fields

def apply (rule : TidyRule) (fields : Fields) : Fields :=
  let fields := rule.readTruth (rule.dropListed fields)
  rule.replaceListed (if rule.remove then Assoc.erase fields rule.id else fields)

end TidyRule

abbrev Reworked := Key × Option Value

namespace Rework

def managementIp (_ : Key) (entry : Value) : Result Reworked :=
  .ok ("currentManagementIp", some entry)

def serverName : Value → Result Value
  | .object fields =>
    match Assoc.get? fields "name" with
    | some name => .ok name
    | none => .error (.missing "name")
  | server => .ok server

def zoneServers : Value → Result Value
  | .object fields =>
    match Assoc.get? fields "nameservers" with
    | some (.list servers) => return .object (Assoc.put fields "nameservers" (.list (← servers.mapM serverName)))
    | _ => .ok (.object fields)
  | zone => .ok zone

def nameservers (key : Key) (entry : Value) : Result Reworked := do
  let fields ← entry.fieldsOrFail
  let zones := fields.lookup "forwardZones"
  match zones with
  | .list items => return (key, some (.object (Assoc.put fields "forwardZones" (.list (← items.mapM zoneServers)))))
  | _ =>
    if zones.truthy then discard zones.itemsOrFail
    return (key, some entry)

def failoverUnicast (key : Key) (entry : Value) : Result Reworked := do
  let ports ← entry.field "addressPorts"
  return (key, if ports.spells "none" then none else some entry)

def hasServers (method : Value) : Result Bool :=
  return (← method.field "servers").truthy

def hasPrimaryServer (method : Value) : Result Bool := do
  let servers ← method.field "servers"
  return (← (servers.orElse .empty).field "primary").truthy

def dropIncomplete (complete : Value → Result Bool) (name : String) (fields : Fields) : Result Fields :=
  match Assoc.get? fields (.named name) with
  | some method => return if ← complete method then fields else Assoc.erase fields (.named name)
  | none => .ok fields

def authMethods (key : Key) (entry : Value) : Result Reworked := do
  let fields ← entry.fieldsOrFail
  let fields ← if (fields.lookup "radius").isNull then pure fields else dropIncomplete hasPrimaryServer "radius" fields
  let fields ← dropIncomplete hasServers "ldap" fields
  return (key, some (.object (← dropIncomplete hasServers "tacacs" fields)))

def ldapCertificates (key : Key) (entry : Value) : Result Reworked := do
  let fields ← entry.fieldsOrFail
  match Assoc.get? fields "ldap" with
  | some (.object ldap) =>
    let kept := ["sslCaCert", "sslClientCert", "sslClientKey"].foldl (fun ldap name => Assoc.erase ldap (.named name)) ldap
    return (key, some (.object (Assoc.put fields "ldap" (.object kept))))
  | _ => return (key, some entry)

def defaultRouteDomain (key : Key) (entry : Value) : Result Reworked := do
  return (if (← entry.field "id").display = "0" then "rd0" else key, some entry)

def withoutOrder : Value → Result Value
  | .object fields => .ok (.object (Assoc.erase fields "order"))
  | .list _ => .error .wrongKind
  | _ => .error .noFields

def proberMembers (key : Key) (entry : Value) : Result Reworked := do
  let fields ← entry.fieldsOrFail
  let members := fields.lookup "members"
  if !members.truthy then return (key, some entry)
  let members ← (← members.itemsOrFail).mapM withoutOrder
  return (key, some (.object (Assoc.put fields "members" (.list members))))

def staleRules (key : Key) (entry : Value) : Result Reworked := do
  let fields ← entry.fieldsOrFail
  match Assoc.get? fields "collectStaleRulesEnabled" with
  | some (.object rules) =>
    return (key, some (.object (Assoc.put fields "collectStaleRulesEnabled" (Fields.lookup rules "collect"))))
  | _ => return (key, some entry)

def settingItem (entry : Key × Value) : Value :=
  let value := match entry.2 with
    | .object setting => Fields.lookup setting "value"
    | value => value
  .object [("name", entry.1.toValue), ("value", value)]

def advancedSettings (key : Key) (entry : Value) : Result Reworked := do
  let fields ← entry.fieldsOrFail
  match Assoc.get? fields "advancedSettings" with
  | some (.object settings) =>
    return (key, some (.object (Assoc.put fields "advancedSettings" (.list (settings.map settingItem)))))
  | _ => return (key, some entry)

/-- The function of a name; the last of them only lets a merged entry through. -/
def named? : String → Option (Key → Value → Result Reworked)
  | "remapManagementIp" => some managementIp
  | "remapNameservers" => some nameservers
  | "formatFailoverUnicast" => some failoverUnicast
  | "removeIncompleteAuthMethods" => some authMethods
  | "removeLdapCertAndKey" => some ldapCertificates
  | "renameDefaultRouteDomain" => some defaultRouteDomain
  | "formatGSLBProberPool" => some proberMembers
  | "remapStaleRules" => some staleRules
  | "convertAdvancedSettings" => some advancedSettings
  | "remapItemWithSchemaMerge" => some fun key entry => .ok (key, some entry)
  | _ => none

def run (name : String) (key : Key) (entry : Value) : Result Reworked :=
  match named? name with
  | some function => function key entry
  | none => .error (.unknownFunction name)

end Rework

end Reconcile
