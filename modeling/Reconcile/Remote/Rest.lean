import Reconcile.Catalog.Rule
import Reconcile.Observation.Device
import Reconcile.Remote.Retry
import Reconcile.Remote.Settings
import Reconcile.Value.Reader

/-!
Devices behind a management interface that answers requests with documents. A collection comes as an object with
its items; anything else comes as it is.
-/

namespace Reconcile

structure Request where
  path : String
  params : List (String × String)
  origin : String
  credentials : String

inductive Body where
  | document (content : Value)
  | text (content : String)

structure Response where
  status : Int
  body : Body

/-- What the client relies on in its libraries. -/
structure Library where
  /-- Whether a failure, by its name, is of a kind. -/
  isA : String → String → Bool
  /-- Whether a status says success. -/
  accepts : Int → Bool
  retrying : Retrying

def Library.usual : Library where
  isA := Failure.isA
  accepts status := 200 ≤ status && status < 300
  retrying := .usual

/-- What carries requests to the device. It may change while it does, and it follows redirections on its own. Cookies that
an open session keeps from one response to the next request are no part of it. -/
structure Transport (σ : Type) where
  /-- The response to a request, or the name of the failure. -/
  carry : Request → σ → Except String Response × σ
  library : Library := .usual

def Body.read (body : Body) : Result Value :=
  match body with
  | .document content => .ok content
  | .text content =>
    match Value.ofJson? content with
    | some value => .ok value
    | none => .error .notJson

namespace Rest

/-- The items of a collection, or the object itself. An empty collection leaves its items out. -/
def membersOf : Value → Value
  | .object fields =>
    match Assoc.get? fields "items" with
    | some items => items
    | none =>
      if Text.endsWith "collectionstate" ((Assoc.get? fields "kind").getD (.text "")).display then .list []
      else .object fields
  | value => value

def identityAddress : String := "/shared/identified-devices/config/device-info"

/-- A connection to a device. It may be open without the device having let us in yet. -/
structure Connection (σ : Type) where
  id : String
  settings : DeviceSettings
  environment : Environment
  state : σ
  credentials : Option String := none
  connected : Bool := false
  /-- Every request so far. -/
  requests : List Request := []

variable {σ : Type}

abbrev Action (σ α : Type) := Connection σ → Result α × Connection σ

namespace Connection

def send (transport : Transport σ) (path : String) (params : List (String × String)) : Action σ Response :=
  fun connection =>
    match connection.credentials with
    | none => (.error (.unreadable ("Not connected to " ++ connection.id)), connection)
    | some credentials =>
      let request : Request := ⟨"/mgmt" ++ path, params, connection.settings.origin, credentials⟩
      let (outcome, state) := transport.carry request connection.state
      (outcome.mapError Fault.transport,
        { connection with state, requests := connection.requests ++ [request] })

def isTransportFailure (library : Library) : Fault → Bool
  | .transport kind => Failure.retryable.any (library.isA kind)
  | _ => false

def accepted (library : Library) (response : Response) : Result Response :=
  if library.accepts response.status then .ok response else .error (.refusedStatus response.status)

def disconnect (connection : Connection σ) : Connection σ :=
  { connection with credentials := none, connected := false }

def opened (connection : Connection σ) : Result (Connection σ) :=
  match connection.credentials with
  | some _ => .ok connection
  | none => return { connection with credentials := some (← connection.settings.credentials connection.environment) }

def connectOnce (transport : Transport σ) : Action σ Unit :=
  fun connection =>
    match connection.opened with
    | .error fault => (.error fault, connection)
    | .ok connection =>
      match send transport identityAddress [] connection with
      | (.error fault, connection) => (.error fault, connection)
      | (.ok response, connection) =>
        if response.status = 401 ∨ response.status = 403 then
          (.error (.unreadable ("Authentication failed for " ++ connection.id)), connection.disconnect)
        else match accepted transport.library response with
          | .error fault => (.error fault, connection)
          | .ok _ => (.ok (), { connection with connected := true })

def connect (transport : Transport σ) : Action σ Unit :=
  transport.library.retrying.run (isTransportFailure transport.library) (connectOnce transport) 2

def sendAccepted (transport : Transport σ) (path : String) (params : List (String × String)) : Action σ Response :=
  fun connection =>
    match send transport path params connection with
    | (.ok response, connection) => (accepted transport.library response, connection)
    | failed => failed

def queryFault (library : Library) (path : String) (fault : Fault) : Fault :=
  let unreadable : Fault := .unreadable ("Failed to read " ++ path)
  match fault with
  | .refusedStatus _ => unreadable
  | .transport kind => if library.isA kind "TransportError" then unreadable else fault
  | _ => fault

def get (transport : Transport σ) (tries : Nat) (path : String) (params : List (String × String)) : Action σ Value :=
  fun connection =>
    match transport.library.retrying.run (isTransportFailure transport.library) (sendAccepted transport path params)
      (tries - 1) connection with
    | (.error fault, connection) => (.error (queryFault transport.library path fault), connection)
    | (.ok response, connection) => (response.body.read, connection)

/-- The parameters of a query; what is selected and the partition go before anything else said about them. -/
def paramsOf (query : Query) : List (String × String) :=
  let selected :=
    if query.select.isEmpty then query.params
    else Assoc.put query.params "$select" (",".intercalate query.select)
  match given? query.partition with
  | some partition => Assoc.put selected "$filter" ("partition eq " ++ partition)
  | none => selected

def list (transport : Transport σ) (policy : RetryPolicy) (query : Query) : Action σ Value :=
  fun connection =>
    let (outcome, connection) := get transport policy.tries query.path (paramsOf query) connection
    (outcome.map membersOf, connection)

def identityOf (document : Value) : Result Identity := do
  let fields ← document.fieldsOrFail
  return {
    hostname := (Assoc.get? fields "hostname").getD (.text "")
    version := Fields.lookup fields "version"
    machineId := Fields.lookup fields "machineId" }

def identity (transport : Transport σ) : Action σ Identity :=
  fun connection =>
    let (outcome, connection) := get transport RetryPolicy.short.tries identityAddress [] connection
    (outcome.bind identityOf, connection)

def resolveName (transport : Transport σ) (hostname : Value) : Action σ Value :=
  fun connection =>
    let (outcome, connection) := list transport .short Device.nameQuery connection
    (outcome.bind (Device.nameAmong hostname), connection)

/-- Whether the device can be reached; a device that is not connected yet is connected first. -/
def health (transport : Transport σ) (connection : Connection σ) : Reachability × Connection σ :=
  let (ready, connection) := if connection.connected then (.ok (), connection) else connect transport connection
  match ready with
  | .error fault => (.ofIdentity (.error fault), connection)
  | .ok () =>
    let (identity, connection) := identity transport connection
    (.ofIdentity identity, connection)

end Connection

end Rest

end Reconcile
