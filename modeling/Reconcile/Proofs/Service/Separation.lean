import Reconcile.Proofs.Engine.Parallel
import Reconcile.Service.Call
import Reconcile.Service.Resource

/-!
Calls of a service one after the other, with devices that answer as they did before. What the readings of a device are
answered depends on earlier readings of that device, and of devices whose baselines are on the same file, but on no
other call.
-/

namespace Reconcile

def Device.file? (device : Device) : Option String :=
  match device.identity with
  | .ok identity => some (BaselineStore.fileName (DeviceReader.storeKey { catalog := .packaged, device } identity))
  | .error _ => none

namespace BaselineStore

/-- Stores at the same time that have the same under the name of a file. In memory that is the same for every machine
that would be kept on the file. -/
def AgreeOn (file : String) : BaselineStore → BaselineStore → Prop
  | .memory baselines, .memory others =>
    ∀ key, fileName key = file → Assoc.get? baselines key = Assoc.get? others key
  | .files now contents, .files later others => now = later ∧ Assoc.get? contents file = Assoc.get? others file
  | _, _ => False

variable {file : String} {store other third : BaselineStore}

theorem AgreeOn.refl (file : String) (store : BaselineStore) : AgreeOn file store store := by
  cases store with
  | memory baselines => exact fun _ _ => rfl
  | files now contents => exact ⟨rfl, rfl⟩

theorem AgreeOn.symm (agree : AgreeOn file store other) : AgreeOn file other store := by
  cases store <;> cases other <;> try exact agree.elim
  · exact fun key place => (agree key place).symm
  · exact ⟨agree.1.symm, agree.2.symm⟩

theorem AgreeOn.trans (first : AgreeOn file store other) (second : AgreeOn file other third) :
    AgreeOn file store third := by
  cases store <;> cases other <;> try exact first.elim
  all_goals cases third <;> try exact second.elim
  · exact fun key place => (first key place).trans (second key place)
  · exact ⟨first.1.trans second.1, first.2.trans second.2⟩

theorem AgreeOn.reset (agree : AgreeOn file store other) (now : Timestamp) :
    AgreeOn file (store.reset now) (other.reset now) := by
  cases store <;> cases other <;> try exact agree.elim
  · exact agree
  · exact ⟨rfl, agree.2⟩

theorem reset_reset (store : BaselineStore) (earlier now : Timestamp) :
    (store.reset earlier).reset now = store.reset now := by
  cases store <;> rfl

theorem interchangeable_agreeOn (key : String) : Interchangeable key (AgreeOn (fileName key)) where
  get := by
    intro store other agree
    cases store <;> cases other <;> try exact agree.elim
    · simp only [get, agree key rfl]
    · simp only [get, agree.2]
  set := by
    intro store other agree baseline
    cases store <;> cases other <;> try exact agree.elim
    · refine .ok fun other place => ?_
      simp only [Assoc.get?_put, agree other place]
    · obtain ⟨rfl, _⟩ := agree
      dsimp only [set]
      cases BaselineRecord.ofConfig key baseline _ with
      | error fault => exact .error fault
      | ok record => exact .ok ⟨rfl, by rw [Assoc.get?_put_self, Assoc.get?_put_self]⟩

def AgreeAt : Option String → BaselineStore → BaselineStore → Prop
  | some file, store, other => AgreeOn file store other
  | none, _, _ => True

theorem AgreeAt.refl (file? : Option String) (store : BaselineStore) : AgreeAt file? store store := by
  cases file? with
  | none => trivial
  | some file => exact AgreeOn.refl file store

theorem AgreeAt.symm {file? : Option String} (agree : AgreeAt file? store other) : AgreeAt file? other store := by
  cases file? with
  | none => trivial
  | some file => exact AgreeOn.symm agree

theorem AgreeAt.trans {file? : Option String} (first : AgreeAt file? store other) (second : AgreeAt file? other third) :
    AgreeAt file? store third := by
  cases file? with
  | none => trivial
  | some file => exact AgreeOn.trans first second

theorem AgreeAt.reset {file? : Option String} (agree : AgreeAt file? store other) (now : Timestamp) :
    AgreeAt file? (store.reset now) (other.reset now) := by
  cases file? with
  | none => trivial
  | some file => exact AgreeOn.reset agree now

theorem agreeOn_of_set {key : String} {baseline : Value} (recorded : store.set key baseline = .ok other)
    (apart : fileName key ≠ file) : AgreeOn file store other := by
  cases store with
  | memory baselines =>
    cases recorded
    intro name place
    have other : key ≠ name := fun same => apart (by rw [same, place])
    exact (Assoc.get?_put_of_ne other baseline).symm
  | files now contents =>
    obtain ⟨record, _, done⟩ := Result.bind_eq_ok.mp recorded
    cases done
    exact ⟨rfl, (Assoc.get?_put_of_ne apart _).symm⟩

theorem agreeAt_of_set {key : String} {baseline : Value} {file? : Option String}
    (recorded : store.set key baseline = .ok other) (apart : ∀ file, file? = some file → fileName key ≠ file) :
    AgreeAt file? store other := by
  cases file? with
  | none => trivial
  | some file => exact agreeOn_of_set recorded (apart file rfl)

theorem interchangeable_self {key : String} {holds : BaselineStore → Prop}
    (kept : ∀ {store other baseline}, store.set key baseline = .ok other → holds store → holds other) :
    Interchangeable key fun store other => store = other ∧ holds store where
  get := by
    rintro store _ ⟨rfl, -⟩
    rfl
  set := by
    rintro store _ ⟨rfl, held⟩ baseline
    cases recorded : store.set key baseline with
    | error fault => exact .error fault
    | ok after => exact .ok ⟨rfl, kept recorded held⟩

end BaselineStore

namespace Registry

variable (registry : Registry)

def Named : Prop :=
  ∀ id device, registry id = .ok device → device.id = id

def file? (id : String) : Option String :=
  match registry id with
  | .ok device => device.toDevice.file?
  | .error _ => none

theorem file?_eq {registry : Registry} {id : String} {device : ServedDevice} {identity : Identity}
    (found : registry id = .ok device) (identified : device.identity = .ok identity) :
    registry.file? id = some (BaselineStore.fileName
      (DeviceReader.storeKey { catalog := .packaged, device := device.toDevice } identity)) := by
  simp only [file?, found, Device.file?, identified]

/-- Whether two ids are apart: those of different devices whose baselines are not on the same file. -/
def Apart (observer id : String) : Prop :=
  id ≠ observer ∧ ∀ file, registry.file? observer = some file → registry.file? id ≠ some file

end Registry

/-- The device that a tool reads when it is given arguments, unless it does no more than look at one. -/
def Tool.reads? (tool : Tool) (arguments : Fields) : Option String :=
  match tool, Assoc.get? arguments (.named Parameter.device.name) with
  | .currentConfig, some (.text id) => some id
  | .planDeclaration, some (.text id) => some id
  | _, _ => none

/-- Whether a list is left over from another one when some members that can be spared are taken out. -/
inductive Thinned {α : Type} (spare : α → Prop) : List α → List α → Prop where
  | nil : Thinned spare [] []
  | keep {all kept : List α} (item : α) (rest : Thinned spare all kept) : Thinned spare (item :: all) (item :: kept)
  | drop {all kept : List α} {item : α} (spared : spare item) (rest : Thinned spare all kept) :
    Thinned spare (item :: all) kept

namespace Service

inductive Ask where
  | tool (name : String) (arguments : Fields)
  | resource (address : String)

/-- The device that a call reads, for its current configuration or for a plan. All other calls are about no device or
only look at one. -/
def Ask.reads? : Ask → Option String
  | .tool name arguments => (Tool.ofName? name).bind (Tool.reads? · arguments)
  | .resource _ => none

/-- Whether the readings of a device can do without a call: it reads nothing, or a device apart. -/
def Ask.Spares (registry : Registry) (observer : String) (ask : Ask) : Prop :=
  ∀ id ∈ ask.reads?, registry.Apart observer id

structure Call where
  time : Timestamp
  ask : Ask

structure Outcome where
  reply : Result Reply
  log : Log

structure Done where
  call : Call
  answer : Outcome

def answer (registry : Registry) (ask : Ask) (service : Service) : Service × Outcome :=
  match ask with
  | .tool name arguments =>
    let (after, reply, log) := call registry name arguments service
    (after, ⟨reply, log⟩)
  | .resource address =>
    let (content, transcript) := (resourceContent registry address service).run {}
    (service, ⟨content.map .document, transcript.log⟩)

def atTime (now : Timestamp) (service : Service) : Service :=
  { service with store := service.store.reset now }

def serve (registry : Registry) (call : Call) (service : Service) : Service × Outcome :=
  answer registry call.ask (service.atTime call.time)

def history (registry : Registry) : List Call → Service → List Done
  | [], _ => []
  | call :: rest, service =>
    let served := service.serve registry call
    ⟨call, served.2⟩ :: history registry rest served.1

open Observed

variable {registry : Registry}

theorem answerOf_parallel (linked : Service → Service → Prop) {tool : Tool} {arguments : Fields}
    {service other : Service} (start : linked service other)
    (run : Parallel (fun done again => linked done.1 again.1 ∧ done.2 = again.2)
      (carryOut registry tool arguments service) (carryOut registry tool arguments other)) :
    linked (answerOf registry tool arguments service).1 (answerOf registry tool arguments other).1 ∧
      (answerOf registry tool arguments service).2 = (answerOf registry tool arguments other).2 := by
  have ran := run {}
  unfold answerOf
  simp only [ExceptT.run]
  generalize carryOut registry tool arguments service {} = done at ran ⊢
  generalize carryOut registry tool arguments other {} = again at ran ⊢
  obtain ⟨outcome, written⟩ := done
  obtain ⟨another, _⟩ := again
  obtain ⟨rfl, outcomes⟩ := ran
  cases outcomes with
  | error fault => exact ⟨start, rfl⟩
  | @ok value another values =>
    obtain ⟨after, reply⟩ := value
    obtain ⟨later, _⟩ := another
    obtain ⟨left, rfl⟩ := values
    cases reply <;> exact ⟨left, rfl⟩

theorem argument_eq {arguments : Fields} {parameter : Parameter} {value : Value}
    (given : argument arguments parameter = .ok value) :
    Assoc.get? arguments (.named parameter.name) = some value := by
  unfold argument at given
  split at given
  next found =>
    cases given
    exact found
  next => cases given

theorem find_eq {id : Value} {device : ServedDevice} (found : registry.find id = .ok device) :
    ∃ name, id = .text name ∧ registry name = .ok device := by
  unfold Registry.find at found
  split at found
  next name => exact ⟨name, rfl, found⟩
  next => cases found
  next => cases found
  next => cases found

theorem carryOut_quiet {tool : Tool} {arguments : Fields} (quiet : tool.reads? arguments = none) (service : Service) :
    Parallel (fun done again => done.1 = service ∧ done.2 = again.2) (carryOut registry tool arguments service)
      (carryOut registry tool arguments service) := by
  cases tool with
  | listDevices | deviceStatus | validateDeclaration => exact parallel_pure ⟨rfl, rfl⟩
  | parseDeclaration => exact parallel_after _ fun _ => parallel_after _ fun _ => parallel_pure ⟨rfl, rfl⟩
  | inspectDevice => exact parallel_after _ fun _ => parallel_after _ fun _ => parallel_pure ⟨rfl, rfl⟩
  | currentConfig =>
    refine parallel_lift _ fun id given => parallel_lift _ fun device found => ?_
    obtain ⟨name, rfl, _⟩ := find_eq found
    unfold Tool.reads? at quiet
    rw [argument_eq given] at quiet
    cases quiet
  | planDeclaration =>
    refine parallel_lift _ fun id given => parallel_after _ fun _ => parallel_lift _ fun device found => ?_
    obtain ⟨name, rfl, _⟩ := find_eq found
    unfold Tool.reads? at quiet
    rw [argument_eq given] at quiet
    cases quiet

theorem answer_quiet {ask : Ask} (quiet : ask.reads? = none) (service : Service) :
    (answer registry ask service).1 = service := by
  cases ask with
  | resource address => rfl
  | tool name arguments =>
    simp only [answer, call]
    cases named : Tool.ofName? name with
    | none => rfl
    | some tool =>
      rw [Ask.reads?, named] at quiet
      exact (answerOf_parallel (fun after _ => after = service) rfl (carryOut_quiet quiet service)).1

/-- Services that a reading of a device finds in the same condition, but for what is stored elsewhere. -/
structure Abreast (registry : Registry) (related : BaselineStore → BaselineStore → Prop) (id : String)
    (service other : Service) : Prop where
  engine : service.engine = other.engine
  state : Assoc.get? service.states id = Assoc.get? other.states id
  store : related service.store other.store
  tolerates : ∀ device identity, registry id = .ok device → device.identity = .ok identity →
    BaselineStore.Interchangeable (DeviceReader.storeKey { catalog := .packaged, device := device.toDevice } identity)
      related

/-- What a reading of a device makes of two services: both stay as they are, or both keep what the device has shown. -/
def Moved (related : BaselineStore → BaselineStore → Prop) (id : String) (service other after again : Service) : Prop :=
  after = service ∧ again = other ∨
    ∃ desk desk', Desk.Aligned related desk desk' ∧ after = service.keep id desk ∧ again = other.keep id desk'

variable {related : BaselineStore → BaselineStore → Prop} {id : String} {service other : Service}

theorem Abreast.desk (abreast : Abreast registry related id service other) :
    Desk.Aligned related (service.desk id) (other.desk id) where
  state := by simp only [Service.desk, abreast.state]
  book := rfl
  store := abreast.store

theorem currentConfig_parallel (named : registry.Named) (abreast : Abreast registry related id service other)
    (interest : Value) :
    Parallel (fun done again => Moved related id service other done.1 again.1 ∧ done.2 = again.2)
      (currentConfig registry (.text id) interest service) (currentConfig registry (.text id) interest other) := by
  refine parallel_lift _ fun device found => parallel_after _ fun _ => ?_
  rw [named id device found, abreast.engine]
  refine (other.engine.readInto_parallel (fun identity identified =>
    abreast.tolerates device identity found identified) abreast.desk interest).bind ?_
  rintro ⟨desk, outcome⟩ ⟨desk', _⟩ ⟨aligned, rfl⟩
  refine parallel_pure ⟨.inr ⟨desk, desk', aligned, rfl, rfl⟩, ?_⟩
  rw [aligned.state]

theorem plan_parallel (named : registry.Named) (abreast : Abreast registry related id service other)
    (declaration : Value) :
    Parallel (fun done again => Moved related id service other done.1 again.1 ∧ done.2 = again.2)
      (plan registry (.text id) declaration service) (plan registry (.text id) declaration other) := by
  refine parallel_lift _ fun device found => parallel_after _ fun _ => ?_
  rw [named id device found, abreast.engine]
  refine (other.engine.plan_parallel (fun identity identified =>
    abreast.tolerates device identity found identified) abreast.desk declaration).bind ?_
  rintro ⟨desk, outcome⟩ ⟨desk', _⟩ ⟨aligned, rfl⟩
  exact parallel_pure ⟨.inr ⟨desk, desk', aligned, rfl, rfl⟩, rfl⟩

theorem carryOut_parallel (named : registry.Named) (abreast : Abreast registry related id service other) {tool : Tool}
    {arguments : Fields} (reads : tool.reads? arguments = some id) :
    Parallel (fun done again => Moved related id service other done.1 again.1 ∧ done.2 = again.2)
      (carryOut registry tool arguments service) (carryOut registry tool arguments other) := by
  unfold Tool.reads? at reads
  split at reads
  next found =>
    cases reads
    refine parallel_lift _ fun given argued => ?_
    cases found.symm.trans (argument_eq argued)
    exact currentConfig_parallel named abreast _
  next found =>
    cases reads
    refine parallel_lift _ fun given argued => ?_
    cases found.symm.trans (argument_eq argued)
    exact parallel_after _ fun declaration => plan_parallel named abreast declaration
  next => cases reads

theorem answer_reads (named : registry.Named) (abreast : Abreast registry related id service other) {ask : Ask}
    (reads : ask.reads? = some id) :
    Moved related id service other (answer registry ask service).1 (answer registry ask other).1 ∧
      (answer registry ask service).2 = (answer registry ask other).2 := by
  cases ask with
  | resource address => cases reads
  | tool name arguments =>
    simp only [answer, call]
    cases known : Tool.ofName? name with
    | none =>
      rw [Ask.reads?, known] at reads
      cases reads
    | some tool =>
      rw [Ask.reads?, known] at reads
      have ⟨moved, same⟩ := answerOf_parallel (Moved related id service other) (.inl ⟨rfl, rfl⟩)
        (carryOut_parallel named abreast reads)
      exact ⟨moved, congrArg (fun replied : Reply × Log => Outcome.mk
        ((Timing.subject (Fields.lookup arguments "device_id")).map fun _ => replied.1) replied.2) same⟩

/-- Services that the readings of a device cannot tell from each other. -/
structure Akin (registry : Registry) (observer : String) (service other : Service) : Prop where
  engine : service.engine = other.engine
  states : ∀ id, ¬registry.Apart observer id → Assoc.get? service.states id = Assoc.get? other.states id
  store : BaselineStore.AgreeAt (registry.file? observer) service.store other.store

theorem atTime_atTime (service : Service) (earlier now : Timestamp) :
    (service.atTime earlier).atTime now = service.atTime now := by
  simp only [Service.atTime, BaselineStore.reset_reset]

namespace Akin

variable {observer : String} {third : Service}

theorem refl (registry : Registry) (observer : String) (service : Service) : Akin registry observer service service :=
  ⟨rfl, fun _ _ => rfl, .refl _ _⟩

theorem symm (akin : Akin registry observer service other) : Akin registry observer other service :=
  ⟨akin.engine.symm, fun id near => (akin.states id near).symm, akin.store.symm⟩

theorem trans (first : Akin registry observer service other) (second : Akin registry observer other third) :
    Akin registry observer service third where
  engine := first.engine.trans second.engine
  states id near := (first.states id near).trans (second.states id near)
  store := first.store.trans second.store

theorem atTime (akin : Akin registry observer service other) (now : Timestamp) :
    Akin registry observer (service.atTime now) (other.atTime now) :=
  ⟨akin.engine, akin.states, akin.store.reset now⟩

theorem abreast (akin : Akin registry observer service other) (near : ¬registry.Apart observer id) :
    Abreast registry (BaselineStore.AgreeAt (registry.file? observer)) id service other where
  engine := akin.engine
  state := akin.states id near
  store := akin.store
  tolerates device identity found identified := by
    have file := Registry.file?_eq found identified
    -- The device is the observed one, or another one whose baseline is on the same file.
    have same : registry.file? observer = registry.file? id := by
      by_contra different
      refine near ⟨fun same => different (by rw [same]), fun file' place place' => different ?_⟩
      rw [place, place']
    rw [same, file]
    exact BaselineStore.interchangeable_agreeOn _

theorem of_moved {after again : Service} (akin : Akin registry observer service other)
    (moved : Moved (BaselineStore.AgreeAt (registry.file? observer)) id service other after again) :
    Akin registry observer after again := by
  rcases moved with ⟨rfl, rfl⟩ | ⟨desk, desk', aligned, rfl, rfl⟩
  · exact akin
  · refine ⟨akin.engine, fun near concerned => ?_, aligned.store⟩
    simp only [keep, Assoc.get?_put, akin.states near concerned, aligned.state]

end Akin

variable {observer : String}

theorem akin_answer_spared (named : registry.Named) {ask : Ask} (spared : ask.Spares registry observer)
    (service : Service) : Akin registry observer service (answer registry ask service).1 := by
  cases reads : ask.reads? with
  | none =>
    rw [answer_quiet reads service]
    exact .refl registry observer service
  | some id =>
    have apart := spared id reads
    have abreast : Abreast registry (fun store other => store = other ∧
        BaselineStore.AgreeAt (registry.file? observer) service.store store) id service service := by
      refine ⟨rfl, rfl, ⟨rfl, .refl _ _⟩, fun device identity found identified => ?_⟩
      refine BaselineStore.interchangeable_self fun recorded agree => agree.trans ?_
      exact BaselineStore.agreeAt_of_set recorded fun file place same =>
        apart.2 file place ((Registry.file?_eq found identified).trans (congrArg some same))
    rcases (answer_reads named abreast reads).1 with ⟨same, -⟩ | ⟨desk, desk', aligned, same, -⟩
    · rw [same]
      exact .refl registry observer service
    · rw [same]
      refine ⟨rfl, fun near concerned => ?_, aligned.store.2⟩
      have other : id ≠ near := fun same => concerned (same ▸ apart)
      exact (Assoc.get?_put_of_ne other _).symm

theorem akin_answer (named : registry.Named) (akin : Akin registry observer service other) (ask : Ask) :
    Akin registry observer (answer registry ask service).1 (answer registry ask other).1 := by
  by_cases spared : ask.Spares registry observer
  · exact (akin_answer_spared named spared service).symm.trans (akin.trans (akin_answer_spared named spared other))
  · -- What cannot be spared reads a device that is not apart, and finds the same in both services.
    simp only [Ask.Spares, not_forall] at spared
    obtain ⟨id, reads, near⟩ := spared
    exact akin.of_moved (answer_reads named (akin.abreast near) reads).1

theorem answer_akin (named : registry.Named) (akin : Akin registry observer service other) {ask : Ask}
    (reads : ask.reads? = some observer) :
    (answer registry ask service).2 = (answer registry ask other).2 :=
  (answer_reads named (akin.abreast fun apart => apart.1 rfl) reads).2

def readingsOf (observer : String) (done : List Done) : List Done :=
  done.filter fun done => done.call.ask.reads? = some observer

/-- Without calls that they can do without, the readings of a device are answered just the same. -/
theorem readings_history (named : registry.Named) {calls kept : List Call}
    (thinned : Thinned (fun call => call.ask.Spares registry observer) calls kept)
    (akin : ∀ now, Akin registry observer (service.atTime now) (other.atTime now)) :
    readingsOf observer (history registry kept other) = readingsOf observer (history registry calls service) := by
  -- The clock of the store is set by every call, so the services are compared at whatever time comes next.
  induction thinned generalizing service other with
  | nil => rfl
  | @keep calls kept call _ ih =>
    have here := akin call.time
    have rest := ih fun now => (akin_answer named here call.ask).atTime now
    simp only [history, readingsOf, List.filter_cons] at rest ⊢
    split
    next reads =>
      have same := answer_akin named here (of_decide_eq_true reads)
      rw [serve, serve, ← same]
      exact congrArg (_ :: ·) rest
    next => exact rest
  | @drop calls kept call spared _ ih =>
    have unread : call.ask.reads? ≠ some observer := fun reads => (spared observer reads).1 rfl
    have rest := ih fun now => by
      have left := (akin_answer_spared named spared (service.atTime call.time)).atTime now
      rw [atTime_atTime] at left
      exact left.symm.trans (akin now)
    simp only [history, readingsOf, List.filter_cons, unread, decide_false, Bool.false_eq_true, ↓reduceIte]
    exact rest

end Service

end Reconcile
