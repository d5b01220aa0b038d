import Reconcile.Proofs.Remote.Reconnecting
import Reconcile.Proofs.Service.Separation

/-!
The service with its connections. A device keeps its connection from one call to the next; as long as what it answers
depends on the request alone, every call finds it as the first one did, so that looking at devices and reading others
leaves no trace in the readings of one.
-/

namespace Reconcile

open Rest

/-- What a device is connected to for: to be asked for its health, or to be read. -/
inductive Purpose where
  | status
  | reading

def Purpose.leaves (purpose : Purpose) (transport : Transport Unit) (connection : Connection Unit) : Connection Unit :=
  match purpose with
  | .status => (Connection.health transport connection).2.disconnect
  | .reading => Connection.released (Connection.connect transport connection)

def Tool.contact? (tool : Tool) (arguments : Fields) : Option (String × Purpose) :=
  match tool, Assoc.get? arguments (.named Parameter.device.name) with
  | .deviceStatus, some (.text id) => some (id, .status)
  | .currentConfig, some (.text id) => some (id, .reading)
  | .inspectDevice, some (.text id) => some (id, .reading)
  | .planDeclaration, some (.text id) =>
    if Assoc.has arguments (.named Parameter.declaration.name) then some (id, .reading) else none
  | _, _ => none

def Service.Ask.contact? : Service.Ask → Option (String × Purpose)
  | .tool name arguments => (Tool.ofName? name).bind (Tool.contact? · arguments)
  | .resource address => (Service.deviceAt? address).map fun id => (id, .reading)

/-- A device as it shows itself over a connection that is opened for it. -/
def Rest.Connection.served (transport : Transport Unit) (connection : Connection Unit) : ServedDevice where
  id := connection.id
  opened := (connect transport connection).1
  identity := (identity transport (connect transport connection).2).1
  answer query := (list transport .short query (connect transport connection).2).1

theorem Rest.Connection.served_later (transport : Transport Unit) (asked : List Query) (query : Query)
    (connection : Connection Unit) :
    (list transport .short query (asked.foldl (fun connection earlier => (list transport .short earlier connection).2)
      (connect transport connection).2)).1 = (served transport connection).answer query :=
  list_later transport .short asked query (connect transport connection).2

theorem Rest.Connection.Idle.served_eq {id : String} {settings : DeviceSettings} {environment : Environment}
    {connection : Connection Unit} (idle : Idle id settings environment connection) (transport : Transport Unit) :
    served transport connection = served transport (unused id settings environment) := by
  have ⟨opened, alike⟩ := idle.connect_agree transport
  simp only [served, idle.id, opened, identity_agree transport alike, list_agree transport _ _ alike]
  rfl

theorem Purpose.idle_leaves (purpose : Purpose) (transport : Transport Unit) {id : String} {settings : DeviceSettings}
    {environment : Environment} {connection : Connection Unit}
    (idle : Connection.Idle id settings environment connection) :
    Connection.Idle id settings environment (purpose.leaves transport connection) := by
  cases purpose with
  | status => exact Connection.health_idle transport idle
  | reading => exact Connection.connect_idle transport idle

/-- The service, how the devices answer requests, and the connections to the devices that have been in use. -/
structure Exchange where
  service : Service
  network : String → Request → Except String Response
  environment : Environment
  library : Library
  connections : List (String × Connection Unit)
  idle : ∀ id connection, Assoc.get? connections id = some connection →
    ∃ settings, service.inventory.settings id = .ok settings ∧ Connection.Idle id settings environment connection

namespace Exchange

def start (service : Service) (network : String → Request → Except String Response) (environment : Environment)
    (library : Library) : Exchange where
  service := service
  network := network
  environment := environment
  library := library
  connections := []
  idle _ _ found := by cases found

variable (exchange : Exchange)

def transport (id : String) : Transport Unit where
  carry request state := (exchange.network id request, state)
  library := exchange.library

/-- The connection to a device: the one it had when it was in use, or a new one. -/
def connection (id : String) : Result (Connection Unit) :=
  match Assoc.get? exchange.connections id with
  | some connection => .ok connection
  | none => return Connection.unused id (← exchange.service.inventory.settings id) exchange.environment

def registry : Registry :=
  fun id => return Connection.served (exchange.transport id) (← exchange.connection id)

def connectionsAfter (ask : Service.Ask) : List (String × Connection Unit) :=
  match ask.contact? with
  | none => exchange.connections
  | some (id, purpose) =>
    match exchange.connection id with
    | .ok connection => Assoc.put exchange.connections id (purpose.leaves (exchange.transport id) connection)
    | .error _ => exchange.connections

variable {exchange}

theorem idle_connection {id : String} {connection : Connection Unit} (found : exchange.connection id = .ok connection) :
    ∃ settings, exchange.service.inventory.settings id = .ok settings ∧
      Connection.Idle id settings exchange.environment connection := by
  unfold Exchange.connection at found
  split at found
  next used =>
    cases found
    exact exchange.idle id _ used
  next =>
    obtain ⟨settings, known, done⟩ := Result.bind_eq_ok.mp found
    cases done
    exact ⟨settings, known, Connection.idle_unused id settings exchange.environment⟩

theorem idle_connectionsAfter (ask : Service.Ask) {id : String} {connection : Connection Unit}
    (found : Assoc.get? (exchange.connectionsAfter ask) id = some connection) :
    ∃ settings, exchange.service.inventory.settings id = .ok settings ∧
      Connection.Idle id settings exchange.environment connection := by
  unfold connectionsAfter at found
  split at found
  next => exact exchange.idle id connection found
  next contact purpose _ =>
    split at found
    next before opened =>
      rw [Assoc.get?_put] at found
      split at found
      next same =>
        cases found
        obtain ⟨settings, known, idle⟩ := idle_connection opened
        subst same
        exact ⟨settings, known, purpose.idle_leaves _ idle⟩
      next => exact exchange.idle id connection found
    next => exact exchange.idle id connection found

/-- Whatever connections are left over, the devices are found as over new ones. -/
theorem registry_eq (exchange : Exchange) (id : String) :
    exchange.registry id = (exchange.service.inventory.settings id).map fun settings =>
      Connection.served (exchange.transport id) (Connection.unused id settings exchange.environment) := by
  unfold registry
  cases found : exchange.connection id with
  | ok connection =>
    obtain ⟨settings, known, idle⟩ := idle_connection found
    rw [known, Result.ok_bind, idle.served_eq]
    rfl
  | error fault =>
    unfold Exchange.connection at found
    split at found
    next => cases found
    next =>
      cases known : exchange.service.inventory.settings id with
      | ok settings =>
        rw [known] at found
        cases found
      | error fault' =>
        rw [known] at found
        cases found
        rfl

theorem registry_named (exchange : Exchange) : exchange.registry.Named := by
  intro id device found
  rw [registry_eq] at found
  cases known : exchange.service.inventory.settings id with
  | ok settings =>
    rw [known] at found
    cases found
    rfl
  | error fault =>
    rw [known] at found
    cases found

theorem status_eq_health {id : String} {connection : Connection Unit}
    (found : exchange.connection id = .ok connection) :
    Service.status exchange.registry (.text id) = .ok (.object
      (("device_id", .text id) :: (Connection.health (exchange.transport id) connection).1.outline)) := by
  obtain ⟨settings, known, idle⟩ := idle_connection found
  simp only [Service.status, Registry.find, registry, found, Result.ok_bind, Result.pure_eq_ok, Connection.served,
    Connection.health_eq _ idle]

end Exchange

namespace Service

theorem inventory_answer {registry : Registry} (named : registry.Named) (ask : Ask) (service : Service) :
    (answer registry ask service).1.inventory = service.inventory := by
  cases reads : ask.reads? with
  | none => rw [answer_quiet reads service]
  | some id =>
    have abreast : Abreast registry (fun store other => store = other ∧ True) id service service :=
      ⟨rfl, rfl, ⟨rfl, trivial⟩, fun _ _ _ _ => BaselineStore.interchangeable_self fun _ _ => trivial⟩
    rcases (answer_reads named abreast reads).1 with ⟨same, -⟩ | ⟨desk, desk', -, same, -⟩
    · rw [same]
    · rw [same, keep]

theorem inventory_serve {registry : Registry} (named : registry.Named) (call : Call) (service : Service) :
    (service.serve registry call).1.inventory = service.inventory :=
  inventory_answer named call.ask (service.atTime call.time)

end Service

namespace Exchange

open Service

variable (exchange : Exchange)

def serve (call : Call) : Exchange × Outcome :=
  let served := exchange.service.serve exchange.registry call
  ({ exchange with
      service := served.1
      connections := exchange.connectionsAfter call.ask
      idle := fun _ _ found => by
        have inventory : served.1.inventory = exchange.service.inventory :=
          inventory_serve exchange.registry_named call exchange.service
        rw [inventory]
        exact idle_connectionsAfter call.ask found },
    served.2)

def history : List Call → Exchange → List Done
  | [], _ => []
  | call :: rest, exchange =>
    let served := exchange.serve call
    ⟨call, served.2⟩ :: history rest served.1

theorem registry_serve (call : Call) : (exchange.serve call).1.registry = exchange.registry := by
  funext id
  have inventory : (exchange.serve call).1.service.inventory = exchange.service.inventory :=
    inventory_serve exchange.registry_named call exchange.service
  rw [registry_eq, registry_eq, inventory]
  rfl

theorem history_eq (calls : List Call) :
    history calls exchange = Service.history exchange.registry calls exchange.service := by
  induction calls generalizing exchange with
  | nil => rfl
  | cons call rest ih =>
    rw [history, Service.history, ih, registry_serve]
    rfl

/-- In any run of calls, what the readings of a device are answered does not depend on the calls that they can do
without: those that read nothing, succeed or not, and readings of other devices whose baselines are on other files. -/
theorem readings_thinned (device : String) {calls kept : List Call}
    (thinned : Thinned (fun call => call.ask.Spares exchange.registry device) calls kept) :
    readingsOf device (history kept exchange) = readingsOf device (history calls exchange) := by
  rw [history_eq, history_eq]
  exact readings_history exchange.registry_named thinned fun now => .refl _ _ _

def twoSites : Exchange :=
  let site (name : String) : Value :=
    .object [("type", .text "rest"), ("name", .text name), ("host", .text "192.0.2.1"), ("password", .text "secret")]
  let network (id : String) (request : Request) : Except String Response :=
    .ok ⟨200, .document (
      if request.path = "/mgmt" ++ identityAddress then
        .object [("hostname", .text id), ("machineId", .text ("box " ++ id))]
      else .object [("items", .list [])])⟩
  let inventory : Inventory := ⟨[("north", site "north"), ("south", site "south")], []⟩
  start { engine := { catalog := ⟨[]⟩ }, inventory } network [] .usual

theorem twoSites_files :
    twoSites.registry.file? "north" = some "box_north.yaml" ∧
      twoSites.registry.file? "south" = some "box_south.yaml" := by
  decide +kernel

theorem twoSites_apart : twoSites.registry.Apart "north" "south" := by
  refine ⟨by decide, fun file place other => ?_⟩
  rw [twoSites_files.1] at place
  rw [twoSites_files.2, ← place] at other
  exact absurd other (by decide)

def callWith (tool : Tool) (id : String) (arguments : Fields) : Call where
  time := { year := 2024, month := 5, day := 17 }
  ask := .tool tool.name (("device_id", .text id) :: arguments)

def visits (id : String) : List Call :=
  [callWith .currentConfig id [],
   callWith .planDeclaration id [("declaration", .object [("class", .text "Device"), ("schemaVersion", .text "1.0.0"),
     ("Common", .object [("class", .text "Tenant"), ("hostname", .text id)])])]]

def succeeded (done : Done) : Bool :=
  match done.answer.reply with
  | .ok (.document _) => true
  | _ => false

def busy : List Call :=
  visits "south" ++ callWith .deviceStatus "north" [] :: visits "north" ++
    [callWith .inspectDevice "north" [], callWith .listDevices "south" []]

theorem visits_succeed : (history (visits "north") twoSites).map succeeded = [true, true] := by
  decide +kernel

/-- The visits to one site are answered as they would be alone. -/
theorem readings_thinned_twoSites :
    Thinned (fun call => call.ask.Spares twoSites.registry "north") busy (visits "north") ∧
      (history (visits "north") twoSites).map succeeded = [true, true] ∧
      readingsOf "north" (history (visits "north") twoSites) = readingsOf "north" (history busy twoSites) := by
  have elsewhere (call : Call) (reads : call.ask.reads? = some "south") :
      call.ask.Spares twoSites.registry "north" := by
    intro id member
    cases reads.symm.trans member
    exact twoSites_apart
  have look (call : Call) (reads : call.ask.reads? = none) : call.ask.Spares twoSites.registry "north" :=
    fun id member => by cases reads.symm.trans member
  have thinned : Thinned (fun call => call.ask.Spares twoSites.registry "north") busy (visits "north") :=
    .drop (elsewhere _ (by decide)) (.drop (elsewhere _ (by decide)) (.drop (look _ (by decide))
      (.keep _ (.keep _ (.drop (look _ (by decide)) (.drop (look _ (by decide)) .nil))))))
  exact ⟨thinned, visits_succeed, twoSites.readings_thinned "north" thinned⟩

end Exchange

end Reconcile
