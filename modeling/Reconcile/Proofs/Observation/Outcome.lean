import Reconcile.Observation.Read
import Reconcile.Proofs.Result

/-!
Runs that ask a device write down their queries and a log, but what comes of them does not depend on what had been
written before. Reading a device therefore amounts to a plain computation on its answers.
-/

namespace Reconcile

variable {α β : Type}

def Logged.Yields (action : Logged α) (outcome : Result α) : Prop :=
  ∀ log, (action log).1 = outcome

namespace Logged

theorem yields_pure (value : α) : (pure value : Logged α).Yields (.ok value) := fun _ => rfl

theorem yields_note (severity : Severity) (text : String) : Logged.Yields (Log.note severity text) (.ok ()) :=
  fun _ => rfl

theorem yields_lift (outcome : Result α) : (liftM outcome : Logged α).Yields outcome := by
  intro log
  cases outcome <;> rfl

theorem Yields.bind {action : Logged α} {outcome : Result α} {next : α → Logged β} {after : α → Result β}
    (first : action.Yields outcome) (second : ∀ value, (next value).Yields (after value)) :
    (action >>= next).Yields (outcome >>= after) := by
  intro log
  rw [← first log]
  simp only [Bind.bind, ExceptT.bind, ExceptT.mk, StateT.bind]
  rcases action log with ⟨fault | value, left⟩
  · rfl
  · exact second value left

theorem yields_foldlM {step : β → α → Logged β} {plain : β → α → Result β}
    (each : ∀ state item, (step state item).Yields (plain state item)) (items : List α) (start : β) :
    (items.foldlM step start).Yields (items.foldlM plain start) := by
  induction items generalizing start with
  | nil => exact yields_pure start
  | cons item rest ih =>
    rw [List.foldlM_cons, List.foldlM_cons]
    exact (each start item).bind ih

end Logged

namespace Observed

/-- Whether a run has this outcome, whatever was asked and logged before. -/
def Yields (action : Observed α) (outcome : Result α) : Prop :=
  ∀ transcript, (action transcript).1 = outcome

theorem yields_pure (value : α) : (pure value : Observed α).Yields (.ok value) := fun _ => rfl

theorem yields_outcome (outcome : Result α) :
    Yields (fun transcript => (outcome, transcript)) outcome := fun _ => rfl

theorem yields_throw (fault : Fault) : (throw fault : Observed α).Yields (.error fault) := fun _ => rfl

theorem yields_lift (outcome : Result α) : (liftM outcome : Observed α).Yields outcome := by
  intro transcript
  cases outcome <;> rfl

theorem yields_logged {action : Logged α} {outcome : Result α} (yields : action.Yields outcome) :
    (logged action).Yields outcome :=
  fun transcript => yields transcript.log

theorem yields_note (severity : Severity) (text : String) : (note severity text).Yields (.ok ()) := fun _ => rfl

theorem yields_attempt {action : Observed α} {outcome : Result α} (yields : action.Yields outcome) :
    (attempt action).Yields (.ok outcome) :=
  fun transcript => congrArg Except.ok (yields transcript)

theorem run_bind (action : Observed α) (next : α → Observed β) (transcript : Transcript) :
    (action >>= next) transcript = match action transcript with
      | (.ok value, left) => next value left
      | (.error fault, left) => (.error fault, left) := by
  simp only [Bind.bind, ExceptT.bind, ExceptT.mk, StateT.bind]
  rcases action transcript with ⟨_ | _, left⟩ <;> rfl

theorem Yields.bind {action : Observed α} {outcome : Result α} {next : α → Observed β} {after : α → Result β}
    (first : action.Yields outcome) (second : ∀ value, (next value).Yields (after value)) :
    (action >>= next).Yields (outcome >>= after) := by
  intro transcript
  rw [run_bind, ← first transcript]
  rcases action transcript with ⟨fault | value, left⟩
  · rfl
  · exact second value left

theorem Yields.bind_ok {action : Observed α} {value : α} (first : action.Yields (.ok value)) {next : α → Observed β}
    {outcome : Result β} (second : (next value).Yields outcome) : (action >>= next).Yields outcome := by
  intro transcript
  rw [run_bind]
  cases done : action transcript with
  | mk result left =>
    have here : result = .ok value := by rw [← first transcript, done]
    rw [here]
    exact second left

theorem Yields.bind_error {action : Observed α} {fault : Fault} (first : action.Yields (.error fault))
    (next : α → Observed β) : (action >>= next).Yields (.error fault) := by
  intro transcript
  rw [run_bind]
  cases done : action transcript with
  | mk result left =>
    have here : result = .error fault := by rw [← first transcript, done]
    rw [here]

theorem Yields.bind_attempt {action : Observed α} {outcome : Result α} (first : action.Yields outcome)
    {next : Result α → Observed β} {final : Result β} (second : (next outcome).Yields final) :
    (attempt action >>= next).Yields final :=
  (yields_attempt first).bind_ok second

theorem yields_foldlM {step : β → α → Observed β} {plain : β → α → Result β}
    (each : ∀ state item, (step state item).Yields (plain state item)) (items : List α) (start : β) :
    (items.foldlM step start).Yields (items.foldlM plain start) := by
  induction items generalizing start with
  | nil => exact yields_pure start
  | cons item rest ih =>
    rw [List.foldlM_cons, List.foldlM_cons]
    exact (each start item).bind ih

theorem yields_gather {action : α → Observed β} {plain : α → Result β}
    (each : ∀ item, (action item).Yields (plain item)) (items : List α) :
    (gather (items.map action)).Yields (items.mapM plain) := by
  induction items with
  | nil => exact yields_pure []
  | cons item rest ih =>
    rw [List.map_cons, gather, List.mapM_cons]
    have run := (yields_outcome (plain item)).bind fun value => (yields_outcome (rest.mapM plain)).bind fun others =>
      yields_pure (value :: others)
    exact (each item).bind_attempt (ih.bind_attempt run)

end Observed

open Observed

namespace Device

theorem yields_ask (device : Device) (query : Query) : (device.ask query).Yields (device.answer query) :=
  fun transcript => yields_lift (device.answer query) { transcript with queries := transcript.queries ++ [query] }

theorem yields_resolveName (device : Device) (hostname : Value) :
    (device.resolveName hostname).Yields (device.answer nameQuery >>= nameAmong hostname) :=
  (device.yields_ask nameQuery).bind fun devices => yields_lift (nameAmong hostname devices)

end Device

namespace Reference

/-- The collection behind a reference, as the device answers. -/
def fetched (device : Device) (reference : Reference) : Result Value :=
  match device.answer reference.query with
  | .ok value => .ok value
  | .error fault =>
    if fault.isDeviceFailure then
      .error (.unresolvedReference reference.target reference.schemaClass fault.message)
    else .error fault

theorem yields_fetch (device : Device) (reference : Reference) :
    (reference.fetch device).Yields (reference.fetched device) := by
  unfold fetch fetched
  refine (device.yields_ask reference.query).bind_attempt ?_
  cases device.answer reference.query with
  | ok value => exact yields_pure value
  | error fault =>
    dsimp only
    split
    next => exact yields_throw _
    next => exact yields_throw _

def spliced (reference : Reference) (mapper : ItemMapper) (result : Value) (current : Fields) : Result Fields :=
  let place := reference.place current
  match place.get? (.object current) with
  | some (.object _) => do
    match ← reference.mapped mapper result with
    | some value => return (place ++ [reference.target]).put value current
    | none => return current
  | _ => .ok current

theorem yields_splice (reference : Reference) (task : Option String) (mapper : ItemMapper) (result : Value)
    (current : Fields) :
    (reference.splice task mapper result current).Yields (reference.spliced mapper result current) := by
  unfold splice spliced
  have nowhere := (yields_note .warning (Log.forTask task
    ("No place to store " ++ reference.target.display ++ " of " ++ reference.schemaClass))).bind
    fun _ => yields_pure current
  dsimp only
  generalize (reference.place current).get? (.object current) = found
  cases found with
  | none => exact nowhere
  | some value =>
    cases value with
    | object fields =>
      refine (yields_lift _).bind fun value? => ?_
      cases value? with
      | some value => exact yields_pure _
      | none => exact yields_pure _
    | _ => exact nowhere

end Reference

namespace BaselineStore

def onFile (id : String) : StoredFile → Result Value
  | .document document =>
    match BaselineRecord.ofDocument id document with
    | .error _ => .error (.unreadableBaseline id)
    | .ok record => record.isGenuine >>= fun _ => .ok record.config
  | .damaged => .error (.unreadableBaseline id)

def stored (id : String) : BaselineStore → Result (Option Value)
  | .memory baselines => .ok ((Assoc.get? baselines id).filter fun config => !config.isNull)
  | .files _ contents =>
    match Assoc.get? contents (fileName id) with
    | some content => some <$> onFile id content
    | none => .ok none

theorem yields_readFile (id : String) (content : StoredFile) : (readFile id content).Yields (onFile id content) := by
  intro log
  cases content with
  | damaged => rfl
  | document document =>
    unfold readFile onFile
    dsimp only
    cases BaselineRecord.ofDocument id document with
    | error fault => rfl
    | ok record =>
      dsimp only
      cases record.isGenuine with
      | error fault => rfl
      | ok genuine => cases genuine <;> rfl

theorem yields_get (id : String) (store : BaselineStore) : (store.get id).Yields (store.stored id) := by
  cases store with
  | memory baselines => exact fun _ => rfl
  | files now contents =>
    intro log
    unfold stored get
    dsimp only
    cases Assoc.get? contents (fileName id) with
    | none => rfl
    | some content =>
      have same := yields_readFile id content log
      simp only [Functor.map, ExceptT.map, ExceptT.mk, bind, StateT.bind, ← same]
      rcases readFile id content log with ⟨_ | _, _⟩ <;> rfl

end BaselineStore

namespace DeviceReader

/-- What a device shows of itself before anything is put together. -/
structure Sighting where
  identity : Identity
  mapper : ItemMapper
  answers : List (Option Value)

def tokensGiven (reader : DeviceReader) (provisioned : List Value) (hostname : Value) :
    Result (List (String × Value)) := do
  let tokens := [(hostNameToken, hostname)]
  if reader.catalog.entries.any fun entry => hasModule provisioned entry && entry.asksForName then
    return tokens ++ [(deviceNameToken, ← reader.device.answer Device.nameQuery >>= Device.nameAmong hostname)]
  else return tokens

def answerFor (reader : DeviceReader) (provisioned : List Value) (tokens : List (String × Value)) (entry : Entry) :
    Result (Option Value) := do
  if hasModule provisioned entry then return some (← queryFor tokens entry >>= reader.device.answer) else return none

def sighted (reader : DeviceReader) : Result Sighting := do
  let identity ← reader.device.identity
  let mapper ← versionText identity.version >>= ItemMapper.ofVersion reader.translate
  let provisioned ← reader.device.answer provisionQuery >>= provisionedAmong
  let tokens ← reader.tokensGiven provisioned identity.hostname
  let answers ← reader.catalog.entries.mapM (reader.answerFor provisioned tokens)
  return ⟨identity, mapper, answers⟩

def gathererOf (reader : DeviceReader) (declaration : Value) (sighting : Sighting) (watched : List Key) : Gatherer :=
  { translate := reader.translate, mapper := sighting.mapper, declaration, watched }

def gathered (reader : DeviceReader) (declaration : Value) (sighting : Sighting) (watched : List Key) :
    Result Gathering :=
  (reader.catalog.entries.zip sighting.answers).foldlM (fun gathering answered =>
    (reader.gathererOf declaration sighting watched).takeAnswer gathering answered.1 answered.2) {}

def resolved (reader : DeviceReader) (mapper : ItemMapper) (gathering : Gathering) : Result Fields := do
  let results ← gathering.references.mapM (Reference.fetched reader.device)
  (gathering.references.zip results).foldlM (fun classes fetched =>
    fetched.1.spliced mapper fetched.2 classes) gathering.classes

def classesFor (reader : DeviceReader) (declaration : Value) (sighting : Sighting) (watched : List Key) :
    Result Fields := do
  let gathering ← reader.gathered declaration sighting watched
  let classes ← reader.resolved sighting.mapper gathering
  (reader.gathererOf declaration sighting watched).finish reader.catalog classes

def observed (reader : DeviceReader) (declaration : Value) (state : DeviceState) : Result (Identity × Fields) := do
  let sighting ← reader.sighted
  let known ← knownVariables state
  let declared ← declaredVariables declaration
  return (sighting.identity, ← reader.classesFor declaration sighting (known ++ declared))

variable (reader : DeviceReader)

theorem yields_tokensFor (provisioned : List Value) (hostname : Value) :
    (reader.tokensFor provisioned hostname).Yields (reader.tokensGiven provisioned hostname) := by
  unfold tokensFor tokensGiven
  dsimp only
  split
  next => exact (reader.device.yields_resolveName hostname).bind fun name => yields_pure _
  next => exact yields_pure _

theorem yields_askFor (provisioned : List Value) (tokens : List (String × Value)) (entry : Entry) :
    (reader.askFor provisioned tokens entry).Yields (reader.answerFor provisioned tokens entry) := by
  unfold askFor answerFor
  split
  next =>
    rw [bind_assoc]
    exact (yields_lift _).bind fun query => (reader.device.yields_ask query).bind fun value => yields_pure (some value)
  next => exact yields_pure none

theorem yields_resolveReferences (task : Option String) (mapper : ItemMapper) (gathering : Gathering) :
    (reader.resolveReferences task mapper gathering).Yields (reader.resolved mapper gathering) :=
  (yields_gather (Reference.yields_fetch reader.device) gathering.references).bind fun _ =>
    yields_foldlM (fun classes fetched => fetched.1.yields_splice task mapper fetched.2 classes) _ _

theorem yields_observe (declaration : Value) (state : DeviceState) :
    (reader.observe declaration state).Yields (reader.observed declaration state) := by
  have run := (yields_lift reader.device.identity).bind fun identity =>
    (yields_lift (versionText identity.version)).bind fun version =>
    (yields_lift (ItemMapper.ofVersion reader.translate version)).bind fun mapper =>
    (reader.device.yields_ask provisionQuery).bind fun items =>
    (yields_lift (provisionedAmong items)).bind fun provisioned =>
    (reader.yields_tokensFor provisioned identity.hostname).bind fun tokens =>
    (yields_gather (reader.yields_askFor provisioned tokens) reader.catalog.entries).bind fun answers =>
    (yields_lift (knownVariables state)).bind fun known =>
    (yields_lift (declaredVariables declaration)).bind fun declared =>
    (yields_foldlM (fun gathering answered => yields_lift (Gatherer.takeAnswer
      { translate := reader.translate, mapper, declaration, watched := known ++ declared } gathering answered.1
      answered.2)) (reader.catalog.entries.zip answers) ({} : Gathering)).bind fun gathering =>
    (reader.yields_resolveReferences state.task mapper gathering).bind fun classes =>
    (yields_lift (Gatherer.finish { translate := reader.translate, mapper, declaration, watched := known ++ declared }
      reader.catalog classes)).bind fun shaped =>
    yields_pure (identity, shaped)
  simp only [observed, sighted, classesFor, gathered, gathererOf, bind_assoc, Result.pure_eq_ok, Result.ok_bind]
  exact run

/-- The baseline that is widened: the stored one, else the one known from earlier reads, else what was just read. -/
def baselineBefore (classes : Fields) (state : DeviceState) : Option Value → Value
  | some stored => stored
  | none => if state.baseline.truthy then state.baseline else .object [("Common", .object classes)]

def baselineFrom (key : String) (classes : Fields) (state : DeviceState) (store : BaselineStore) : Result Value :=
  store.stored key >>= fun stored? => Widening.widen reader.catalog classes (baselineBefore classes state stored?)

def stateFrom (declaration : Value) (state : DeviceState) (store : BaselineStore) : Result (String × DeviceState) := do
  let (identity, classes) ← reader.observed declaration state
  let key := reader.storeKey identity
  let baseline ← reader.baselineFrom key classes state store
  return (key, { state with current := .object [("Common", .object classes)], baseline })

theorem yields_baselineFor (key : String) (classes : Fields) (state : DeviceState) (store : BaselineStore) :
    (reader.baselineFor key classes state store).Yields (reader.baselineFrom key classes state store) :=
  (yields_logged (BaselineStore.yields_get key store)).bind fun stored? =>
    yields_lift (Widening.widen reader.catalog classes (baselineBefore classes state stored?))

theorem yields_observeState (declaration : Value) (state : DeviceState) (store : BaselineStore) :
    (reader.observeState declaration state store).Yields (reader.stateFrom declaration state store) :=
  (reader.yields_observe declaration state).bind fun (identity, classes) =>
    (reader.yields_baselineFor (reader.storeKey identity) classes state store).bind fun baseline =>
    yields_pure (reader.storeKey identity, { state with current := .object [("Common", .object classes)], baseline })

/-- A read has an outcome exactly when the new state has one, and then it stores the new baseline. -/
theorem yields_readFrom (declaration : Value) (state : DeviceState) (store : BaselineStore) :
    (reader.read declaration state store).Yields (reader.stateFrom declaration state store >>= fun after =>
      .ok (after.2, store.set after.1 after.2.baseline)) := by
  unfold read
  refine (reader.yields_observeState declaration state store).bind_attempt ?_
  cases reader.stateFrom declaration state store with
  | ok after => exact yields_pure _
  | error fault => exact (yields_note _ _).bind_ok (yields_throw fault)

def storedIn (baselines : List (String × Value)) (key : String) : Option Value :=
  (Assoc.get? baselines key).filter fun config => !config.isNull

def stateGiven (declaration : Value) (state : DeviceState) (baselines : List (String × Value)) :
    Result (String × DeviceState) := do
  let (identity, classes) ← reader.observed declaration state
  let key := reader.storeKey identity
  let baseline ← Widening.widen reader.catalog classes (baselineBefore classes state (storedIn baselines key))
  return (key, { state with current := .object [("Common", .object classes)], baseline })

end DeviceReader

end Reconcile
