import Reconcile.Mapping.Item
import Reconcile.Shaping.Context
import Reconcile.Shaping.Spelling

/-!
Shaping of single items, class by class: raw ones before anything else is done to them, members of a collection
and single objects after their properties have been mapped. Null stands for an item that is left out.
-/

namespace Reconcile.Shaping

def localRoute (item : Value) : Result Value := do
  let fields ← item.fieldsOrFail
  return if (Fields.lookup fields "partition").spells "LOCAL_ONLY"
    then .object (Assoc.put fields "localOnly" (.bool true)) else item

/-- The type of a monitor is a part of its kind, which has the shape tm:gtm:monitor:http:httpstate. -/
def monitorType (item : Value) : Result Value := do
  let fields ← item.fieldsOrFail
  match (Assoc.get? fields "kind").getD (.text "") with
  | .text kind =>
    return match (Text.cut ":" kind)[3]? with
      | some type => .object (Assoc.put fields "monitorType" (.text type))
      | none => item
  | _ => .error .noFields

def redistribution (item : Value) : Result Value := do
  let fields ← item.fieldsOrFail
  let name := Fields.lookup fields "name"
  return if name.truthy then .object (Assoc.put (Assoc.erase fields "name") "routingProtocol" name) else item

def raw (schemaClass : String) (item : Value) : Result Value :=
  match schemaClass with
  | "Route" => localRoute item
  | "GSLBMonitor" => monitorType item
  | "RoutingBGP" => itemsAt "addressFamily" (itemsAt "redistribute" redistribution) item
  | _ => .ok item

def selfAddress (context : ShapingContext) (item : Value) : Result Value := do
  let fields ← item.fieldsOrFail
  let key := context.field "allowService"
  return .object (Assoc.put fields key (allowedService (Fields.lookup fields key)))

def balancedServer (context : ShapingContext) (item : Value) : Result Value := do
  let fields ← item.fieldsOrFail
  let key := context.field "monitor"
  return .object (settleEnabled (Assoc.put fields key (← monitorList (Fields.lookup fields key))))

def proberPool (item : Value) : Result Value := do
  return .object (settleEnabled (← item.fieldsOrFail))

/-- A setting is filed under its name, so that the settings of all items come together. -/
def namedSetting (context : ShapingContext) (item : Value) : Result Value := do
  let value ← item.field (context.field "value")
  return .object [(← context.name.asKey, .object [("value", value)])]

def sourceType (item : Value) : Result Value := do
  let (type, rest) ← takeOut item "type"
  let type := if type.spells "active-directory" then .text "activeDirectory" else type
  return .object (if type.isNull then rest else Assoc.put rest "enabledSourceType" type)

def radiusServer : String := "system_auth_name"
def radiusPrimary : String := "system_auth_name1"
def radiusSecondary : String := "system_auth_name2"

/-- A way to authenticate: its ciphers are a list, and a radius server is filed under its rank. Radius servers of
any other rank are left out. -/
def authMethod (context : ShapingContext) (item : Value) : Result Value := do
  let fields ← item.fieldsOrFail
  let key := context.field "sslCiphers"
  let fields := match Assoc.get? fields key with
    | some (.text ciphers) => Assoc.put fields key (pieces ":" ciphers)
    | _ => fields
  let name := Fields.lookup fields "name"
  if !name.truthy then return .object fields
  if ← name.mentions radiusServer then
    let server := Value.object (Assoc.erase fields "name")
    return if name.spells radiusPrimary then .object [("primary", server)]
      else if name.spells radiusSecondary then .object [("secondary", server)]
      else .null
  else return .object fields

def authentication (context : ShapingContext) (item : Value) : Result Value :=
  if context.entry.schemaMerge.isNone then sourceType item else authMethod context item

def item (schemaClass : String) (context : ShapingContext) (item : Value) : Result Value :=
  match schemaClass with
  | "SelfIp" => selfAddress context item
  | "MAC_Masquerade" => item.putOrFail "trafficGroup" context.name
  | "GSLBServer" => balancedServer context item
  | "GSLBProberPool" => proberPool item
  | "SecurityWaf" => namedSetting context item
  | "Authentication" => authentication context item
  | _ => .ok item

def logServer (servers : Fields) (server : Value) : Result Fields := do
  let fields ← ItemMapper.itemFields server
  match (Assoc.get? fields "name").getD (.text "") with
  | .text name =>
    let name := Text.dropHead commonHead name
    return Assoc.put servers (.named name) (.object (Assoc.put fields "name" (.text name)))
  | _ => .error .noFields

def logServers (context : ShapingContext) (item : Value) : Result Value := do
  let servers ← item.field (context.field "remoteServers")
  if servers.truthy then return .object (← (← servers.itemsOrFail).foldlM logServer []) else return .empty

def secureShell (item : Value) : Result Value := do
  let (options, rest) ← takeOut item "include"
  if options.isText then return .object (Assoc.putAll rest (← shellOptions options)) else return .object rest

def webServer (item : Value) : Result Value := do
  let fields ← item.fieldsOrFail
  let fields := match Assoc.get? fields "sslCiphersuite" with
    | some (.text ciphers) => Assoc.put fields "sslCiphersuite" (pieces ":" ciphers)
    | _ => fields
  let allow := Fields.lookup fields "allow"
  if !allow.truthy then return .object (Assoc.put fields "allow" (.text "none"))
  match allow with
  | .list hosts =>
    let hosts := hosts.map fun host => if host.spells "All" then .text "all" else host
    return .object (Assoc.put fields "allow" (.list hosts))
  | _ => return .object fields

def diskSize : Value → Result Value
  | .text size => if Text.allDigits size.toList then spelledInteger size else .ok (.text size)
  | size => .ok size

def diskSizes (item : Value) : Result Value := do
  let fields ← item.fieldsOrFail
  match Assoc.get? fields "apiRawValues" with
  | some (.object sizes) => eachObject diskSize (.object sizes)
  | _ => return item

def object (schemaClass : String) (context : ShapingContext) (item : Value) : Result Value :=
  match schemaClass with
  | "Authentication" => authentication context item
  | "SyslogRemoteServer" => logServers context item
  | "SSHD" => secureShell item
  | "HTTPD" => webServer item
  | "Disk" => diskSizes item
  | _ => .ok item

end Reconcile.Shaping
