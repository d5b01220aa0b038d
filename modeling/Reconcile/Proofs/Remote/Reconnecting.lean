import Reconcile.Proofs.Result
import Reconcile.Remote.Rest

/-!
Connections to devices that answer every request in the same way whenever it comes. It makes no difference then what
was requested before, and a connection that an earlier use has left behind serves like one that was never used.
-/

namespace Reconcile

section Attempts

variable {σ ε α : Type}

/-- Runs that come to the same and leave related states. -/
def Agree (related : σ → σ → Prop) (done again : Except ε α × σ) : Prop :=
  done.1 = again.1 ∧ related done.2 again.2

variable {isWorthAnother : ε → Bool} {call : σ → Except ε α × σ} {left : Nat} {state : σ} {done : Except ε α × σ}

theorem Attempts.agree {related : σ → σ → Prop}
    (each : ∀ {state other}, related state other → Agree related (call state) (call other)) {other : σ}
    (first : Agree related (call state) (call other)) {done' : Except ε α × σ}
    (one : Attempts isWorthAnother call left state done) (two : Attempts isWorthAnother call left other done') :
    Agree related done done' := by
  induction one generalizing other done' with
  | last came final =>
    rw [came] at first
    cases two with
    | last came' => rwa [came'] at first
    | again failed worth =>
      rw [failed] at first
      rcases final with none | final
      · cases none
      · cases worth.symm.trans (final _ first.1)
  | again failed worth _ ih =>
    rw [failed] at first
    cases two with
    | last came' final =>
      rw [came'] at first
      rcases final with none | final
      · cases none
      · cases worth.symm.trans (final _ first.1.symm)
    | again failed' _ further =>
      rw [failed'] at first
      exact ih (each first.2) further

theorem Attempts.ensures (ensured : Except ε α × σ → Prop)
    (again : ∀ failure state, ensured (.error failure, state) → ensured (call state))
    (attempts : Attempts isWorthAnother call left state done) (first : ensured (call state)) : ensured done := by
  induction attempts with
  | last came => rwa [came] at first
  | again failed _ _ ih =>
    rw [failed] at first
    exact ih (again _ _ first)

end Attempts

namespace Rest.Connection

/-- Connections that differ at most in what was requested over them. -/
structure Alike (connection other : Connection Unit) : Prop where
  id : connection.id = other.id
  settings : connection.settings = other.settings
  environment : connection.environment = other.environment
  credentials : connection.credentials = other.credentials
  connected : connection.connected = other.connected

theorem Alike.refl (connection : Connection Unit) : Alike connection connection :=
  ⟨rfl, rfl, rfl, rfl, rfl⟩

theorem Alike.trans {connection other third : Connection Unit} (first : Alike connection other)
    (second : Alike other third) : Alike connection third where
  id := first.id.trans second.id
  settings := first.settings.trans second.settings
  environment := first.environment.trans second.environment
  credentials := first.credentials.trans second.credentials
  connected := first.connected.trans second.connected

theorem Alike.opened {connection other : Connection Unit} (alike : Alike connection other) :
    Result.Matches Alike connection.opened other.opened := by
  obtain ⟨id, settings, environment, _, credentials, connected, _⟩ := connection
  obtain ⟨_, _, _, _, _, _, _⟩ := other
  obtain ⟨rfl, rfl, rfl, rfl, rfl⟩ := alike
  unfold Connection.opened
  cases credentials with
  | some _ => exact .ok ⟨rfl, rfl, rfl, rfl, rfl⟩
  | none =>
    dsimp only
    cases settings.credentials environment with
    | error fault => exact .error fault
    | ok credentials => exact .ok ⟨rfl, rfl, rfl, rfl, rfl⟩

theorem Alike.disconnect {connection other : Connection Unit} (alike : Alike connection other) :
    Alike connection.disconnect other.disconnect :=
  ⟨alike.id, alike.settings, alike.environment, rfl, rfl⟩

variable (transport : Transport Unit)

theorem send_agree (path : String) (params : List (String × String)) {connection other : Connection Unit}
    (alike : Alike connection other) :
    Agree Alike (send transport path params connection) (send transport path params other) := by
  obtain ⟨id, settings, environment, _, credentials, connected, _⟩ := connection
  obtain ⟨_, _, _, _, _, _, _⟩ := other
  obtain ⟨rfl, rfl, rfl, rfl, rfl⟩ := alike
  cases credentials <;> exact ⟨rfl, rfl, rfl, rfl, rfl, rfl⟩

theorem send_alike (path : String) (params : List (String × String)) (connection : Connection Unit) :
    Alike connection (send transport path params connection).2 := by
  unfold send
  split
  next => exact .refl connection
  next => exact ⟨rfl, rfl, rfl, rfl, rfl⟩

theorem sendAccepted_agree (path : String) (params : List (String × String)) {connection other : Connection Unit}
    (alike : Alike connection other) :
    Agree Alike (sendAccepted transport path params connection) (sendAccepted transport path params other) := by
  have sent := send_agree transport path params alike
  unfold sendAccepted
  generalize send transport path params connection = done at sent
  generalize send transport path params other = again at sent
  obtain ⟨outcome, after⟩ := done
  obtain ⟨_, later⟩ := again
  obtain ⟨rfl, left⟩ := sent
  cases outcome <;> exact ⟨rfl, left⟩

theorem sendAccepted_alike (path : String) (params : List (String × String)) (connection : Connection Unit) :
    Alike connection (sendAccepted transport path params connection).2 := by
  have left := send_alike transport path params connection
  unfold sendAccepted
  generalize send transport path params connection = done at left
  obtain ⟨fault | response, after⟩ := done <;> exact left

theorem attempts_get (tries : Nat) (path : String) (params : List (String × String)) (connection : Connection Unit) :
    Attempts (isTransportFailure transport.library) (sendAccepted transport path params) (tries - 1) connection
      (transport.library.retrying.run (isTransportFailure transport.library) (sendAccepted transport path params)
        (tries - 1) connection) :=
  transport.library.retrying.attempts _ _ _ _

theorem attempts_connect (connection : Connection Unit) :
    Attempts (isTransportFailure transport.library) (connectOnce transport) 2 connection (connect transport connection) :=
  transport.library.retrying.attempts _ _ _ _

theorem get_agree (tries : Nat) (path : String) (params : List (String × String)) {connection other : Connection Unit}
    (alike : Alike connection other) :
    Agree Alike (get transport tries path params connection) (get transport tries path params other) := by
  have sent := Attempts.agree (sendAccepted_agree transport path params) (sendAccepted_agree transport path params alike)
    (attempts_get transport tries path params connection) (attempts_get transport tries path params other)
  unfold get
  generalize transport.library.retrying.run _ (sendAccepted transport path params) (tries - 1) connection = done at sent
  generalize transport.library.retrying.run _ (sendAccepted transport path params) (tries - 1) other = again at sent
  obtain ⟨outcome, after⟩ := done
  obtain ⟨_, later⟩ := again
  obtain ⟨rfl, left⟩ := sent
  cases outcome <;> exact ⟨rfl, left⟩

theorem get_alike (tries : Nat) (path : String) (params : List (String × String)) (connection : Connection Unit) :
    Alike connection (get transport tries path params connection).2 := by
  have left := (attempts_get transport tries path params connection).ensures (fun done => Alike connection done.2)
    (fun _ state before => before.trans (sendAccepted_alike transport path params state))
    (sendAccepted_alike transport path params connection)
  unfold get
  generalize transport.library.retrying.run _ (sendAccepted transport path params) (tries - 1) connection = done at left
  obtain ⟨fault | response, after⟩ := done <;> exact left

theorem list_agree (policy : RetryPolicy) (query : Query) {connection other : Connection Unit}
    (alike : Alike connection other) :
    (list transport policy query connection).1 = (list transport policy query other).1 :=
  congrArg (Except.map membersOf) (get_agree transport policy.tries query.path (paramsOf query) alike).1

theorem identity_agree {connection other : Connection Unit} (alike : Alike connection other) :
    (identity transport connection).1 = (identity transport other).1 :=
  congrArg (Except.bind · identityOf) (get_agree transport RetryPolicy.short.tries identityAddress [] alike).1

/-- Whatever has been asked, a connection goes on answering as before. -/
theorem list_later (policy : RetryPolicy) (asked : List Query) (query : Query) (connection : Connection Unit) :
    (list transport policy query (asked.foldl (fun connection earlier =>
      (list transport policy earlier connection).2) connection)).1 = (list transport policy query connection).1 := by
  induction asked generalizing connection with
  | nil => rfl
  | cons earlier rest ih =>
    rw [List.foldl_cons, ih]
    exact (list_agree transport policy query (get_alike transport _ _ _ connection)).symm

theorem connectOnce_agree {connection other : Connection Unit} (alike : Alike connection other) :
    Agree Alike (connectOnce transport connection) (connectOnce transport other) := by
  have opened := alike.opened
  unfold connectOnce
  generalize connection.opened = ready at opened
  generalize other.opened = readyToo at opened
  cases opened with
  | error fault => exact ⟨rfl, alike⟩
  | ok alike =>
    have sent := send_agree transport identityAddress [] alike
    dsimp only
    generalize send transport identityAddress [] _ = done at sent
    generalize send transport identityAddress [] _ = again at sent
    obtain ⟨outcome, after⟩ := done
    obtain ⟨_, later⟩ := again
    obtain ⟨rfl, left⟩ := sent
    cases outcome with
    | error fault => exact ⟨rfl, left⟩
    | ok response =>
      dsimp only
      split
      next => exact ⟨by rw [left.id], left.disconnect⟩
      next =>
        cases accepted transport.library response with
        | error fault => exact ⟨rfl, left⟩
        | ok _ => exact ⟨rfl, left.id, left.settings, left.environment, left.credentials, rfl⟩

theorem connect_agree {connection other : Connection Unit} (alike : Alike connection other) :
    Agree Alike (connect transport connection) (connect transport other) :=
  Attempts.agree (connectOnce_agree transport) (connectOnce_agree transport alike) (attempts_connect transport connection)
    (attempts_connect transport other)

def unused (id : String) (settings : DeviceSettings) (environment : Environment) : Connection Unit where
  id := id
  settings := settings
  environment := environment
  state := ()

/-- Whether a connection is in the state in which a use of the device may leave it: not connected, but it may still be
open. -/
structure Idle (id : String) (settings : DeviceSettings) (environment : Environment) (connection : Connection Unit) :
    Prop where
  credentials : ∀ credentials ∈ connection.credentials, settings.credentials environment = .ok credentials
  id : connection.id = id
  settings : connection.settings = settings
  environment : connection.environment = environment
  connected : connection.connected = false

variable {id : String} {settings : DeviceSettings} {environment : Environment} {connection : Connection Unit}

theorem idle_unused (id : String) (settings : DeviceSettings) (environment : Environment) :
    Idle id settings environment (unused id settings environment) :=
  ⟨fun _ given => (by cases given), rfl, rfl, rfl, rfl⟩

theorem Idle.of_alike {other : Connection Unit} (idle : Idle id settings environment connection)
    (alike : Alike connection other) : Idle id settings environment other where
  id := alike.id.symm.trans idle.id
  settings := alike.settings.symm.trans idle.settings
  environment := alike.environment.symm.trans idle.environment
  credentials credentials given := idle.credentials credentials (alike.credentials ▸ given)
  connected := alike.connected.symm.trans idle.connected

theorem Idle.disconnect (idle : Idle id settings environment connection) :
    Idle id settings environment connection.disconnect :=
  ⟨fun _ given => (by cases given), idle.id, idle.settings, idle.environment, rfl⟩

theorem Idle.opened (idle : Idle id settings environment connection) {ready : Connection Unit}
    (opened : connection.opened = .ok ready) : Idle id settings environment ready := by
  unfold Connection.opened at opened
  split at opened
  next =>
    cases opened
    exact idle
  next =>
    obtain ⟨credentials, computed, done⟩ := Result.bind_eq_ok.mp opened
    cases done
    rw [idle.settings, idle.environment] at computed
    exact ⟨fun _ given => (by cases given; exact computed), idle.id, idle.settings, idle.environment, idle.connected⟩

/-- What using a device leaves of its connection: it is disconnected, unless it could not even be connected. -/
def released : Result Unit × Connection Unit → Connection Unit
  | (.ok _, connection) => connection.disconnect
  | (.error _, connection) => connection

theorem connectOnce_idle (idle : Idle id settings environment connection) :
    Idle id settings environment (released (connectOnce transport connection)) := by
  unfold connectOnce
  cases opened : connection.opened with
  | error fault => exact idle
  | ok ready =>
    have left := (idle.opened opened).of_alike (send_alike transport identityAddress [] ready)
    dsimp only
    generalize send transport identityAddress [] ready = done at left
    obtain ⟨fault | response, after⟩ := done
    · exact left
    · dsimp only
      split
      next => exact left.disconnect
      next =>
        cases accepted transport.library response with
        | error fault => exact left
        | ok _ => exact left.disconnect

theorem connect_idle (idle : Idle id settings environment connection) :
    Idle id settings environment (released (connect transport connection)) :=
  (attempts_connect transport connection).ensures (fun done => Idle id settings environment (released done))
    (fun _ _ left => connectOnce_idle transport left) (connectOnce_idle transport idle)

/-- A connection that is left over connects like one that was never used. -/
theorem Idle.connect_agree (idle : Idle id settings environment connection) :
    Agree Alike (connect transport connection) (connect transport (unused id settings environment)) := by
  cases given : connection.credentials with
  | none => exact Connection.connect_agree transport ⟨idle.id, idle.settings, idle.environment, given, idle.connected⟩
  | some credentials =>
    -- The connection is still open; an unused one is opened first and is just like it from then on.
    let ready := { unused id settings environment with credentials := some credentials }
    have computed := idle.credentials credentials given
    have opens : connectOnce transport (unused id settings environment) = connectOnce transport ready := by
      have opened : (unused id settings environment).opened = .ok ready := by
        simp only [Connection.opened, unused, computed]
        rfl
      rw [connectOnce, opened]
      rfl
    have first : Agree Alike (connectOnce transport connection) (connectOnce transport (unused id settings environment)) :=
      opens ▸ connectOnce_agree transport ⟨idle.id, idle.settings, idle.environment, given, idle.connected⟩
    exact Attempts.agree (connectOnce_agree transport) first (attempts_connect transport connection)
      (attempts_connect transport _)

theorem health_eq (idle : Idle id settings environment connection) :
    (health transport connection).1 = .ofIdentity (do
      (connect transport connection).1
      (identity transport (connect transport connection).2).1) := by
  unfold health
  rw [idle.connected]
  generalize connect transport connection = done
  obtain ⟨fault | _, after⟩ := done <;> rfl

theorem health_idle (idle : Idle id settings environment connection) :
    Idle id settings environment (health transport connection).2.disconnect := by
  have left := connect_idle transport idle
  unfold health
  rw [idle.connected]
  dsimp only
  generalize connect transport connection = done at left
  obtain ⟨fault | _, after⟩ := done
  · exact left.disconnect
  · have later : Alike after (identity transport after).2 := get_alike transport _ _ _ after
    exact left.of_alike later.disconnect

end Rest.Connection

end Reconcile
