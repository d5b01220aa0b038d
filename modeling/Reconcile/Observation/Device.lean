import Reconcile.Log
import Reconcile.Value.Compare

/-!
Devices as they are read: a device says who it is and answers queries. A run remembers every query it made, in
order, and what it logged.
-/

namespace Reconcile

structure Query where
  path : String
  select : List String := []
  partition : Option String := some "Common"
  params : List (String × String) := []
  /-- Whether a failure is not worth a warning. -/
  silent : Bool := false
deriving DecidableEq

structure Identity where
  hostname : Value
  version : Value := .null
  machineId : Value := .null

structure Device where
  id : String
  identity : Result Identity
  answer : Query → Result Value

structure Transcript where
  queries : List Query := []
  log : Log := []

abbrev Observed := ExceptT Fault (StateM Transcript)

namespace Observed

def note (severity : Severity) (text : String) : Observed Unit :=
  modify fun transcript => { transcript with log := transcript.log ++ [⟨severity, text⟩] }

def record (query : Query) : Observed Unit :=
  modify fun transcript => { transcript with queries := transcript.queries ++ [query] }

def logged {α : Type} (action : Logged α) : Observed α :=
  fun transcript => match action transcript.log with
    | (outcome, log) => (outcome, { transcript with log })

def attempt {α : Type} (action : Observed α) : Observed (Result α) :=
  fun transcript => match action transcript with
    | (outcome, transcript) => (.ok outcome, transcript)

def gather {α : Type} : List (Observed α) → Observed (List α)
  | [] => pure []
  | first :: rest => do
    let value ← attempt first
    let values ← attempt (gather rest)
    return (← value) :: (← values)

end Observed

instance : MonadLift Result Observed where
  monadLift
    | .ok value => pure value
    | .error fault => throw fault

instance : MonadLift Logged Observed where
  monadLift := Observed.logged

structure Reachability where
  reachable : Bool
  hostname : Value := .null
  version : Value := .null
  error : Option String := none

namespace Reachability

def ofIdentity : Result Identity → Reachability
  | .ok identity => { reachable := true, hostname := identity.hostname, version := identity.version }
  | .error fault => { reachable := false, error := some fault.message }

def outline (status : Reachability) : Fields :=
  [("reachable", .bool status.reachable), ("hostname", status.hostname), ("version", status.version),
   ("error", .ofText? status.error)]

end Reachability

namespace Device

def ask (device : Device) (query : Query) : Observed Value := do
  Observed.record query
  device.answer query

def namePath : String := "/tm/cm/device"

def nameQuery : Query where
  path := namePath
  select := ["name", "hostname"]

def nameAmong (hostname devices : Value) : Result Value := do
  let items ← (devices.orElse (.list [])).itemsOrFail
  let all ← items.mapM Value.fieldsOrFail
  match all.filter fun fields => (Fields.lookup fields "hostname").looseEq hostname with
  | [fields] =>
    match Assoc.get? fields "name" with
    | some name => return name
    | none => .error (.missing "name")
  | [] => .error .unmatchedDevice
  | _ => .error .ambiguousDevice

def resolveName (device : Device) (hostname : Value) : Observed Value := do
  nameAmong hostname (← device.ask nameQuery)

end Device

end Reconcile
