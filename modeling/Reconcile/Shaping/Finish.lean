import Reconcile.Shaping.Context
import Reconcile.Shaping.Spelling
import Reconcile.Value.Order
import Reconcile.Value.Literal

/-!
Shaping of whole classes, once everything that their objects refer to has been read.
-/

namespace Reconcile.Shaping

def poolMember (member : Value) : Result Value := do
  return .object (settleEnabled (← member.fieldsOrFail))

/-- Members of a pool are listed in the order they name. -/
def poolMembers (key : Key) (pool : Value) : Result Value := do
  let fields ← pool.fieldsOrFail
  match Assoc.get? fields key with
  | some (.list members) =>
    let members ← members.mapM poolMember
    let keyed := members.map fun member => ((member.get? "order").getD (.int 0), member)
    if Value.comparable (keyed.map Prod.fst) then
      return .object (Assoc.put fields key (.list (Value.sortByKey keyed)))
    else .error .wrongKind
  | _ => return pool

def neighbourKey (address : Key) (neighbour : Value) : Result (Value × Value) := do
  let fields ← neighbour.fieldsOrFail
  return (.text ((Assoc.get? fields address).getD (.text "")).display, neighbour)

def neighbours (address : Key) (router : Value) : Result Value := do
  if !(← router.mentions "neighbor") then return router
  let (found, rest) ← takeOut router "neighbor"
  let keyed ← (← (found.orElse (.list [])).itemsOrFail).mapM (neighbourKey address)
  let sorted := Value.sortByKey keyed
  return .object (Assoc.put rest "neighbors" (.list sorted))

def peerGroups (router : Value) : Result Value := do
  if !(← router.mentions "peerGroup") then return router
  let (found, rest) ← takeOut router "peerGroup"
  return .object (Assoc.put rest "peerGroups" (found.orElse (.list [])))

/-- The address and the number of a destination. They are separated by the last point or colon: 1.2.3.4:80 has a
colon, but a:b::c.80 a point. -/
def splitDestination (destination : String) : String × String :=
  let (number, rest) := Text.breakAt (fun c => c = '.' || c = ':') destination.toList.reverse
  match rest with
  | [] => (destination, "")
  | _ :: address => (String.ofList address.reverse, String.ofList number.reverse)

/-- Anything but digits counts as zero. -/
def portNumber (digits : String) : Result Value :=
  if Text.allDigits digits.toList then spelledInteger digits else .ok (.int 0)

def virtualServer (monitor translated : Key) (server : Value) : Result Value := do
  let (destination, fields) ← takeOut server "destination"
  let fields ← match destination with
    | .text destination => do
      let (address, number) := splitDestination destination
      pure (Assoc.put (Assoc.put fields "address" (.text address)) "port" (← portNumber number))
    | _ => pure fields
  let fields := settleEnabled (Assoc.put fields monitor (← monitorList (Fields.lookup fields monitor)))
  return .object (if (Fields.lookup fields translated).spells "none" then Assoc.erase fields translated else fields)

/-- Of the source of a firewall rule only its networks are kept. -/
def firewallRule (rule : Value) : Result Value := do
  let fields ← rule.fieldsOrFail
  match Assoc.get? fields "source" with
  | some (.object source) =>
    let kept := source.filter fun entry => entry.1 = .named "vlans"
    return .object (Assoc.put fields "source" (.object kept))
  | _ => return rule

def finish (schemaClass : String) (context : ShapingContext) (objects : Value) : Result Value :=
  match schemaClass with
  | "GSLBProberPool" => eachObject (poolMembers (context.field "members")) objects
  | "RoutingBGP" =>
    let address := context.fieldAmong (context.rulesFor "neighborReference") "name"
    eachObject (fun router => do peerGroups (← neighbours address router)) objects
  | "GSLBServer" =>
    let rules := context.rulesFor "virtualServersReference"
    let monitor := context.fieldAmong rules "monitor"
    let translated := context.fieldAmong rules "translationAddress"
    eachObject (itemsAt "virtualServers" (virtualServer monitor translated)) objects
  | "FirewallPolicy" => eachObject (itemsAt "rules" firewallRule) objects
  | _ => .ok objects

end Reconcile.Shaping
