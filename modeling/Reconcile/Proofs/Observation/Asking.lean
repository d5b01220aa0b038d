import Mathlib.Data.List.ReduceOption
import Reconcile.Catalog.Packaged.Cluster
import Reconcile.Catalog.Packaged.LoadBalancing
import Reconcile.Catalog.Packaged.Network
import Reconcile.Proofs.Observation.Address
import Reconcile.Proofs.Observation.Querying

/-!
What a read asks, and in which order: for the modules, for the device's own name if it takes part in a path, for every
container whose module is there, and for what the answers refer to.
-/

namespace Reconcile

open Result

variable {α β : Type}

namespace Observed

/-- Whether a run makes these queries, whatever was asked and logged before. -/
def Asks (action : Observed α) (asked : List Query) : Prop :=
  ∀ transcript, (action transcript).2.queries = transcript.queries ++ asked

theorem asks_pure (value : α) : (pure value : Observed α).Asks [] := fun _ => (List.append_nil _).symm

theorem asks_outcome (outcome : Result α) : Asks (fun transcript => (outcome, transcript)) [] :=
  fun _ => (List.append_nil _).symm

theorem asks_lift (outcome : Result α) : (liftM outcome : Observed α).Asks [] := by
  intro transcript
  cases outcome <;> exact (List.append_nil _).symm

theorem asks_throw (fault : Fault) : (throw fault : Observed α).Asks [] := fun _ => (List.append_nil _).symm

theorem asks_note (severity : Severity) (text : String) : (note severity text).Asks [] :=
  fun _ => (List.append_nil _).symm

theorem asks_logged (action : Logged α) : (logged action).Asks [] := fun _ => (List.append_nil _).symm

/-- What is asked once there is an outcome: nothing more after a failure. -/
def after (outcome : Result α) (later : α → List Query) : List Query :=
  match outcome with
  | .ok value => later value
  | .error _ => []

variable {action : Observed α} {next : α → Observed β} {asked : List Query}

theorem Asks.bind (first : action.Asks asked) {outcome : Result α} (yields : action.Yields outcome)
    {later : α → List Query} (second : ∀ value, (next value).Asks (later value)) :
    (action >>= next).Asks (asked ++ after outcome later) := by
  intro transcript
  have queries := first transcript
  rw [run_bind, ← yields transcript]
  cases done : action transcript with
  | mk result left =>
    rw [done] at queries
    cases result with
    | error fault => exact queries.trans (congrArg _ (List.append_nil _).symm)
    | ok value => exact (second value left).trans (by rw [queries, List.append_assoc]; rfl)

theorem Asks.bind_silent (first : action.Asks asked) (second : ∀ value, (next value).Asks []) :
    (action >>= next).Asks asked := by
  intro transcript
  have queries := first transcript
  rw [run_bind]
  cases done : action transcript with
  | mk result left =>
    rw [done] at queries
    cases result with
    | error fault => exact queries
    | ok value => exact (second value left).trans ((List.append_nil _).trans queries)

theorem Asks.bind_attempt (first : action.Asks asked) {next : Result α → Observed β} {later : List Query}
    (second : ∀ outcome, (next outcome).Asks later) : (attempt action >>= next).Asks (asked ++ later) := by
  intro transcript
  rw [run_bind]
  have queries := first transcript
  change (next (action transcript).1 (action transcript).2).2.queries = _
  rw [second, queries, List.append_assoc]

theorem asks_foldlM {step : β → α → Observed β} (each : ∀ state item, (step state item).Asks []) (items : List α)
    (start : β) : (items.foldlM step start).Asks [] := by
  induction items generalizing start with
  | nil => exact asks_pure start
  | cons item rest ih =>
    rw [List.foldlM_cons]
    exact (each start item).bind_silent ih

/-- Gathering several runs makes the queries of all of them, in order, whatever becomes of each. -/
theorem asks_gather {action : α → Observed β} {asked : α → List Query} (each : ∀ item, (action item).Asks (asked item))
    (items : List α) : (gather (items.map action)).Asks (items.flatMap asked) := by
  induction items with
  | nil => exact asks_pure []
  | cons item rest ih =>
    rw [List.map_cons, gather, List.flatMap_cons]
    have whole := (each item).bind_attempt fun value => ih.bind_attempt fun values =>
      (asks_outcome value).bind_silent fun first => (asks_outcome values).bind_silent fun others =>
      asks_pure (first :: others)
    rw [List.append_nil] at whole
    exact whole

end Observed

open Observed

namespace Device

theorem asks_ask (device : Device) (query : Query) : (device.ask query).Asks [query] :=
  fun transcript => (asks_lift (device.answer query) { transcript with queries := transcript.queries ++ [query] }).trans
    (List.append_nil _)

theorem asks_resolveName (device : Device) (hostname : Value) : (device.resolveName hostname).Asks [nameQuery] :=
  (device.asks_ask nameQuery).bind_silent fun devices => asks_lift (nameAmong hostname devices)

end Device

namespace Reference

theorem asks_fetch (device : Device) (reference : Reference) : (reference.fetch device).Asks [reference.query] := by
  refine (device.asks_ask reference.query).bind_attempt fun outcome => ?_
  cases outcome with
  | ok value => exact asks_pure value
  | error fault =>
    dsimp only
    split
    next => exact asks_throw _
    next => exact asks_throw _

theorem asks_splice (reference : Reference) (task : Option String) (mapper : ItemMapper) (result : Value)
    (current : Fields) : (reference.splice task mapper result current).Asks [] := by
  unfold splice
  dsimp only
  split
  next =>
    refine (asks_lift _).bind_silent fun value? => ?_
    cases value? with
    | some value => exact asks_pure _
    | none => exact asks_pure _
  next => exact (asks_note _ _).bind_silent fun _ => asks_pure current

end Reference

namespace DeviceReader

structure Opening where
  identity : Identity
  mapper : ItemMapper
  provisioned : List Value
  /-- What the tokens in paths stand for. -/
  tokens : List (String × Value)

variable (reader : DeviceReader)

def opened : Result Opening := do
  let identity ← reader.device.identity
  let mapper ← versionText identity.version >>= ItemMapper.ofVersion reader.translate
  let provisioned ← reader.device.answer provisionQuery >>= provisionedAmong
  let tokens ← reader.tokensGiven provisioned identity.hostname
  return ⟨identity, mapper, provisioned, tokens⟩

def nameQueries (provisioned : List Value) : List Query :=
  if reader.catalog.entries.any fun entry => hasModule provisioned entry && entry.asksForName then
    [Device.nameQuery] else []

def openingQueries : List Query :=
  after reader.device.identity fun identity =>
    after (versionText identity.version >>= ItemMapper.ofVersion reader.translate) fun _ =>
      provisionQuery :: after (reader.device.answer provisionQuery >>= provisionedAmong) reader.nameQueries

/-- The query for the container of an entry, as far as its module is there and the query can be put together. -/
def visit? (opening : Opening) (entry : Entry) : Option Query :=
  if hasModule opening.provisioned entry then (queryFor opening.tokens entry).toOption else none

def containerQueries (opening : Opening) : List Query :=
  reader.catalog.entries.filterMap (visit? opening)

theorem asks_tokensFor (provisioned : List Value) (hostname : Value) :
    (reader.tokensFor provisioned hostname).Asks (reader.nameQueries provisioned) := by
  unfold tokensFor nameQueries
  dsimp only
  split
  next => exact (reader.device.asks_resolveName hostname).bind_silent fun name => asks_pure _
  next => exact asks_pure _

def openingRun : Observed Opening := do
  let identity ← reader.device.identity
  let mapper ← ItemMapper.ofVersion reader.translate (← versionText identity.version)
  let provisioned ← provisionedAmong (← reader.device.ask provisionQuery)
  let tokens ← reader.tokensFor provisioned identity.hostname
  return ⟨identity, mapper, provisioned, tokens⟩

theorem yields_openingRun : reader.openingRun.Yields reader.opened := by
  have run := (yields_lift reader.device.identity).bind fun identity =>
    (yields_lift (versionText identity.version)).bind fun version =>
    (yields_lift (ItemMapper.ofVersion reader.translate version)).bind fun mapper =>
    (reader.device.yields_ask provisionQuery).bind fun items =>
    (yields_lift (provisionedAmong items)).bind fun provisioned =>
    (reader.yields_tokensFor provisioned identity.hostname).bind fun tokens =>
    yields_pure (⟨identity, mapper, provisioned, tokens⟩ : Opening)
  simp only [opened, bind_assoc]
  exact run

theorem asks_openingRun : reader.openingRun.Asks reader.openingQueries := by
  have listed := (reader.device.yields_ask provisionQuery).bind fun items => yields_lift (provisionedAmong items)
  have modules := (reader.device.asks_ask provisionQuery).bind_silent fun items => asks_lift (provisionedAmong items)
  have mapping (identity : Identity) := (asks_lift (versionText identity.version)).bind_silent fun version =>
    asks_lift (ItemMapper.ofVersion reader.translate version)
  have mapped (identity : Identity) := (yields_lift (versionText identity.version)).bind fun version =>
    yields_lift (ItemMapper.ofVersion reader.translate version)
  have run := (asks_lift reader.device.identity).bind (yields_lift _) fun identity =>
    (mapping identity).bind (mapped identity) fun mapper =>
    modules.bind listed fun provisioned =>
    (reader.asks_tokensFor provisioned identity.hostname).bind_silent fun tokens =>
    asks_pure (⟨identity, mapper, provisioned, tokens⟩ : Opening)
  simp only [bind_assoc] at run
  exact run

theorem asks_askFor (opening : Opening) (entry : Entry) :
    (reader.askFor opening.provisioned opening.tokens entry).Asks (visit? opening entry).toList := by
  unfold askFor visit?
  split
  next =>
    have asking := (asks_lift (queryFor opening.tokens entry)).bind (yields_lift _) fun query =>
      reader.device.asks_ask query
    have run := asking.bind_silent fun value => asks_pure (some value)
    have same : [] ++ after (queryFor opening.tokens entry) (fun query => [query]) =
        (queryFor opening.tokens entry).toOption.toList := by
      cases queryFor opening.tokens entry <;> rfl
    rw [bind_assoc, same] at run
    exact run
  next => exact asks_pure none

structure Harvest where
  answers : List (Option Value)
  watched : List Key
  gathering : Gathering

def harvested (declaration : Value) (state : DeviceState) (opening : Opening) : Result Harvest := do
  let answers ← reader.catalog.entries.mapM (reader.answerFor opening.provisioned opening.tokens)
  let known ← knownVariables state
  let declared ← declaredVariables declaration
  let gathering ← reader.gathered declaration ⟨opening.identity, opening.mapper, answers⟩ (known ++ declared)
  return ⟨answers, known ++ declared, gathering⟩

def harvestRun (declaration : Value) (state : DeviceState) (opening : Opening) : Observed Harvest := do
  let answers ← Observed.gather (reader.catalog.entries.map (reader.askFor opening.provisioned opening.tokens))
  let known ← knownVariables state
  let declared ← declaredVariables declaration
  let gathering ← (reader.catalog.entries.zip answers).foldlM (fun gathering answered =>
    (reader.gathererOf declaration ⟨opening.identity, opening.mapper, answers⟩ (known ++ declared)).takeAnswer gathering
      answered.1 answered.2) ({} : Gathering)
  return ⟨answers, known ++ declared, gathering⟩

variable (declaration : Value) (state : DeviceState)

theorem yields_harvestRun (opening : Opening) :
    (reader.harvestRun declaration state opening).Yields (reader.harvested declaration state opening) :=
  (yields_gather (reader.yields_askFor opening.provisioned opening.tokens) _).bind fun _ =>
    (yields_lift _).bind fun _ => (yields_lift _).bind fun _ =>
    (yields_foldlM (fun _ _ => yields_lift _) _ _).bind fun _ => yields_pure _

theorem asks_harvestRun (opening : Opening) :
    (reader.harvestRun declaration state opening).Asks (reader.containerQueries opening) := by
  rw [containerQueries, List.filterMap_eq_flatMap_toList]
  exact (asks_gather (reader.asks_askFor opening) _).bind_silent fun _ =>
    (asks_lift _).bind_silent fun _ => (asks_lift _).bind_silent fun _ =>
    (asks_foldlM (fun _ _ => asks_lift _) _ _).bind_silent fun _ => asks_pure _

theorem asks_resolveReferences (task : Option String) (mapper : ItemMapper) (gathering : Gathering) :
    (reader.resolveReferences task mapper gathering).Asks (gathering.references.map Reference.query) := by
  have fetching := asks_gather (Reference.asks_fetch reader.device) gathering.references
  rw [← List.map_eq_flatMap] at fetching
  exact fetching.bind_silent fun results =>
    asks_foldlM (fun classes fetched => fetched.1.asks_splice task mapper fetched.2 classes) _ _

def queriesFor : List Query :=
  reader.openingQueries ++ after reader.opened fun opening => reader.containerQueries opening ++
    after (reader.harvested declaration state opening) fun harvest => harvest.gathering.references.map Reference.query

theorem asks_observe : (reader.observe declaration state).Asks (reader.queriesFor declaration state) := by
  have run := reader.asks_openingRun.bind reader.yields_openingRun fun opening =>
    (reader.asks_harvestRun declaration state opening).bind (reader.yields_harvestRun declaration state opening)
      fun harvest => (reader.asks_resolveReferences state.task opening.mapper harvest.gathering).bind_silent fun classes =>
      (asks_lift ((reader.gathererOf declaration ⟨opening.identity, opening.mapper, harvest.answers⟩
        harvest.watched).finish reader.catalog classes)).bind_silent fun shaped => asks_pure (opening.identity, shaped)
  simp only [openingRun, harvestRun, bind_assoc, pure_bind] at run
  exact run

theorem asks_read (store : BaselineStore) :
    (reader.read declaration state store).Asks (reader.queriesFor declaration state) := by
  unfold read
  have observing : (reader.observeState declaration state store).Asks (reader.queriesFor declaration state) :=
    (reader.asks_observe declaration state).bind_silent fun (identity, classes) =>
      ((asks_logged (store.get (reader.storeKey identity))).bind_silent fun stored? =>
        asks_lift (Widening.widen reader.catalog classes (baselineBefore classes state stored?))).bind_silent
      fun baseline => asks_pure _
  rw [← List.append_nil (reader.queriesFor declaration state)]
  refine observing.bind_attempt fun outcome => ?_
  cases outcome with
  | ok after => exact asks_pure _
  | error fault => exact (asks_note _ _).bind_silent fun _ => asks_throw fault

theorem of_observed {seen : Identity × Fields} (done : reader.observed declaration state = .ok seen) :
    ∃ opening harvest, reader.opened = .ok opening ∧ reader.harvested declaration state opening = .ok harvest := by
  have run := reader.yields_openingRun.bind fun opening => (reader.yields_harvestRun declaration state opening).bind
    fun harvest => (reader.yields_resolveReferences state.task opening.mapper harvest.gathering).bind fun classes =>
    (yields_lift ((reader.gathererOf declaration ⟨opening.identity, opening.mapper, harvest.answers⟩
      harvest.watched).finish reader.catalog classes)).bind fun shaped => yields_pure (opening.identity, shaped)
  simp only [openingRun, harvestRun, bind_assoc, pure_bind] at run
  have same := (run {}).symm.trans ((reader.yields_observe declaration state {}).trans done)
  obtain ⟨opening, opened, rest⟩ := bind_eq_ok.mp same
  obtain ⟨harvest, harvested, _⟩ := bind_eq_ok.mp rest
  exact ⟨opening, harvest, opened, harvested⟩

theorem of_isOk_read {store : BaselineStore} {transcript : Transcript}
    (succeeded : (reader.read declaration state store transcript).1.isOk = true) :
    ∃ opening harvest, reader.opened = .ok opening ∧ reader.harvested declaration state opening = .ok harvest := by
  rw [reader.yields_readFrom declaration state store transcript] at succeeded
  cases found : reader.stateFrom declaration state store with
  | error fault =>
    rw [found] at succeeded
    cases succeeded
  | ok after =>
    obtain ⟨seen, observed, _⟩ := bind_eq_ok.mp found
    exact reader.of_observed declaration state observed

def tokensOf (hostname : Value) (name? : Option Value) : List (String × Value) :=
  (hostNameToken, hostname) :: name?.toList.map (Prod.mk deviceNameToken)

def preparation (name? : Option Value) : List Query :=
  provisionQuery :: name?.toList.map fun _ => Device.nameQuery

/-- What is known when a read comes to the containers: who the device is, what is provisioned there, and the device's own
name, if the path of an active entry has the token for it. -/
structure Prepared (identity : Identity) (mapper : ItemMapper) (listed : Value) (name? : Option Value) : Prop where
  identified : reader.device.identity = .ok identity
  spoken : versionText identity.version >>= ItemMapper.ofVersion reader.translate = .ok mapper
  answer : reader.device.answer provisionQuery = .ok listed
  legible : Succeeds (provisionedAmong listed)
  named : reader.NamesDevice listed → ∃ devices name, name? = some name ∧
    reader.device.answer Device.nameQuery = .ok devices ∧ Device.Called identity.hostname devices name
  unnamed : ¬reader.NamesDevice listed → name? = none

/-- The query for the container of an entry. An entry whose module is not provisioned is passed over. -/
inductive Visits (listed : Value) (tokens : List (String × Value)) (entry : Entry) : Option Query → Prop
  | asked {query : Query} (active : Active listed entry) (asks : ContainerQuery tokens entry query) :
      Visits listed tokens entry (some query)
  | skipped (inactive : ¬Active listed entry) : Visits listed tokens entry none

/-- What the answers for the containers come to: every query is answered, and everything answered is put together. -/
structure Gathers (identity : Identity) (mapper : ItemMapper) (visits : List (Option Query))
    (answers : List (Option Value)) (watched : List Key) (gathering : Gathering) : Prop where
  answered : List.Forall₂ (Option.Rel fun query value => reader.device.answer query = .ok value) visits answers
  watches : ∃ known declared, knownVariables state = .ok known ∧ declaredVariables declaration = .ok declared ∧
    watched = known ++ declared
  gathered : reader.gathered declaration ⟨identity, mapper, answers⟩ watched = .ok gathering

/-- How far a read comes, and what it has asked by then. -/
inductive Course (reader : DeviceReader) (declaration : Value) (state : DeviceState) : Bool → List Query → Prop where
  /-- It fails before it comes to the containers, over the modules or over the device's own name. -/
  | opening {asked : List Query} (unprepared : ∀ identity mapper listed name?,
        ¬reader.Prepared identity mapper listed name?)
      (opens : asked <+: [provisionQuery, Device.nameQuery])
      (named : Device.nameQuery ∈ asked → ∃ listed, reader.device.answer provisionQuery = .ok listed ∧
        reader.NamesDevice listed) :
    Course reader declaration state false asked
  /-- It fails because a token does not stand for a text, so that no container can be asked for. -/
  | unfilled {identity : Identity} {mapper : ItemMapper} {listed : Value} {name? : Option Value}
      (prepared : reader.Prepared identity mapper listed name?) {entry : Entry} (member : entry ∈ reader.catalog.entries)
      (active : Active listed entry) {token : String × Value} (used : token ∈ tokensOf identity.hostname name?)
      (illegible : ∀ name, token.2 ≠ .text name) :
    Course reader declaration state false (preparation name?)
  /-- It fails over the containers, each of which has been asked for: a query is refused, or what is answered cannot be
  put together. -/
  | containers {identity : Identity} {mapper : ItemMapper} {listed : Value} {name? : Option Value}
      (prepared : reader.Prepared identity mapper listed name?) {visits : List (Option Query)}
      (visited : List.Forall₂ (Visits listed (tokensOf identity.hostname name?)) reader.catalog.entries visits)
      (failed : ∀ answers watched gathering,
        ¬reader.Gathers declaration state identity mapper visits answers watched gathering) :
    Course reader declaration state false (preparation name? ++ visits.reduceOption)
  /-- It comes to the references: every active entry has been asked for, every answer has been put together, and what
  they refer to has been asked for answer by answer, item by item and property by property. -/
  | references (succeeded : Bool) {identity : Identity} {mapper : ItemMapper} {listed : Value} {name? : Option Value}
      (prepared : reader.Prepared identity mapper listed name?) {visits : List (Option Query)}
      (visited : List.Forall₂ (Visits listed (tokensOf identity.hostname name?)) reader.catalog.entries visits)
      {answers : List (Option Value)} {watched : List Key} {gathering : Gathering}
      (gathers : reader.Gathers declaration state identity mapper visits answers watched gathering)
      {lists : List (List Query)}
      (follows : List.Forall₂ (fun answered queries =>
          (reader.gathererOf declaration ⟨identity, mapper, answers⟩ watched).AnswerFollows answered.1 answered.2 queries)
        (reader.catalog.entries.zip answers) lists) :
    Course reader declaration state succeeded (preparation name? ++ visits.reduceOption ++ lists.flatten)

theorem tokensOf_spelt (hostname : Value) (name? : Option Value) : ∀ token ∈ tokensOf hostname name?, token.1 ≠ "" := by
  cases name? with
  | none => exact List.forall_mem_singleton.mpr (show hostNameToken ≠ "" by decide)
  | some name =>
    exact List.forall_mem_cons.mpr ⟨show hostNameToken ≠ "" by decide,
      List.forall_mem_singleton.mpr (show deviceNameToken ≠ "" by decide)⟩

variable {reader declaration state}

theorem prepared_of_opened {opening : Opening} (opened : reader.opened = .ok opening) :
    ∃ listed name?, reader.Prepared opening.identity opening.mapper listed name? ∧
      provisionedAmong listed = .ok opening.provisioned ∧
      opening.tokens = tokensOf opening.identity.hostname name? ∧ reader.openingQueries = preparation name? := by
  obtain ⟨identity, own, opened⟩ := bind_eq_ok.mp opened
  obtain ⟨mapper, spoken, opened⟩ := bind_eq_ok.mp opened
  obtain ⟨provisioned, among, opened⟩ := bind_eq_ok.mp opened
  obtain ⟨tokens, given, opened⟩ := bind_eq_ok.mp opened
  cases opened
  obtain ⟨listed, answer, legible⟩ := bind_eq_ok.mp among
  have opens : reader.openingQueries = provisionQuery :: reader.nameQueries provisioned := by
    rw [openingQueries, own, after, spoken, after, among, after]
  unfold tokensGiven at given
  rw [opens, nameQueries]
  by_cases names : reader.NamesDevice listed
  · rw [if_pos ((namesDevice_iff legible).mpr names)] at given
    obtain ⟨name, called, done⟩ := bind_eq_ok.mp given
    cases done
    obtain ⟨devices, answered, called⟩ := bind_eq_ok.mp called
    refine ⟨listed, some name, ⟨own, spoken, answer, ⟨_, legible⟩, fun _ => ?_, fun none => absurd names none⟩, legible,
      rfl, ?_⟩
    · exact ⟨devices, name, rfl, answered, Device.nameAmong_eq_ok.mp called⟩
    · rw [if_pos ((namesDevice_iff legible).mpr names)]
      rfl
  · have silent := mt (namesDevice_iff legible).mp names
    rw [if_neg silent] at given
    cases given
    refine ⟨listed, none, ⟨own, spoken, answer, ⟨_, legible⟩, fun some => absurd some names, fun _ => rfl⟩, legible, rfl,
      ?_⟩
    rw [if_neg silent]
    rfl

theorem Prepared.opened {identity : Identity} {mapper : ItemMapper} {listed : Value} {name? : Option Value}
    (prepared : reader.Prepared identity mapper listed name?) : Succeeds reader.opened := by
  obtain ⟨own, spoken, answer, ⟨provisioned, legible⟩, named, _⟩ := prepared
  have given : Succeeds (reader.tokensGiven provisioned identity.hostname) := by
    unfold tokensGiven
    dsimp only
    split
    next names =>
      obtain ⟨devices, name, _, answered, called⟩ := named ((namesDevice_iff legible).mp names)
      rw [answered, ok_bind, Device.nameAmong_eq_ok.mpr called]
      exact ⟨_, rfl⟩
    next => exact ⟨_, rfl⟩
  rw [DeviceReader.opened, own, ok_bind, spoken, ok_bind, answer, ok_bind, legible, ok_bind]
  exact given.bind fun tokens => .ok _

theorem openingQueries_prefix (reader : DeviceReader) : reader.openingQueries <+: [provisionQuery, Device.nameQuery] ∧
    (Device.nameQuery ∈ reader.openingQueries → ∃ listed, reader.device.answer provisionQuery = .ok listed ∧
      reader.NamesDevice listed) := by
  have apart : Device.nameQuery ≠ provisionQuery := fun same =>
    absurd (congrArg Query.path same) (by decide : Device.namePath ≠ modulesPath)
  have alone : [provisionQuery] <+: [provisionQuery, Device.nameQuery] := ⟨[Device.nameQuery], rfl⟩
  have unnamed : Device.nameQuery ∉ [provisionQuery] := by simpa using apart
  unfold openingQueries
  cases reader.device.identity with
  | error fault => exact ⟨List.nil_prefix, nofun⟩
  | ok identity =>
    rw [after]
    cases versionText identity.version >>= ItemMapper.ofVersion reader.translate with
    | error fault => exact ⟨List.nil_prefix, nofun⟩
    | ok mapper =>
      rw [after]
      cases among : reader.device.answer provisionQuery >>= provisionedAmong with
      | error fault => exact ⟨alone, fun asked => absurd asked unnamed⟩
      | ok provisioned =>
        obtain ⟨listed, answer, legible⟩ := bind_eq_ok.mp among
        rw [after, nameQueries]
        split
        next names => exact ⟨List.prefix_rfl, fun _ => ⟨listed, answer, (namesDevice_iff legible).mp names⟩⟩
        next => exact ⟨alone, fun asked => absurd asked unnamed⟩

section Containers

variable {opening : Opening} {listed : Value} {name? : Option Value}
  (legible : provisionedAmong listed = .ok opening.provisioned)
  (given : opening.tokens = tokensOf opening.identity.hostname name?)

include legible given

theorem visits_of_succeeds {entry : Entry}
    (complete : hasModule opening.provisioned entry = true → Succeeds (queryFor opening.tokens entry)) :
    Visits listed (tokensOf opening.identity.hostname name?) entry (visit? opening entry) := by
  unfold visit?
  split
  next active =>
    obtain ⟨query, made⟩ := complete active
    rw [made]
    rw [given] at made
    exact .asked ((hasModule_iff legible entry).mp active) ((queryFor_eq_ok (tokensOf_spelt _ _)).mp made)
  next inactive => exact .skipped (mt (hasModule_iff legible entry).mpr inactive)

theorem visits_complete (complete : ∀ entry ∈ reader.catalog.entries, hasModule opening.provisioned entry = true →
      Succeeds (queryFor opening.tokens entry)) :
    List.Forall₂ (Visits listed (tokensOf opening.identity.hostname name?)) reader.catalog.entries
      (reader.catalog.entries.map (visit? opening)) :=
  List.forall₂_map_right_iff.mpr (List.forall₂_same.mpr fun entry member =>
    visits_of_succeeds legible given (complete entry member))

theorem answers_of_visits {entries : List Entry} {visits : List (Option Query)} {answers : List (Option Value)}
    (visited : List.Forall₂ (Visits listed (tokensOf opening.identity.hostname name?)) entries visits)
    (answered : List.Forall₂ (Option.Rel fun query value => reader.device.answer query = .ok value) visits answers) :
    entries.mapM (reader.answerFor opening.provisioned opening.tokens) = .ok answers := by
  induction visited generalizing answers with
  | nil =>
    cases answered
    rfl
  | @cons entry visit? _ _ visits _ ih =>
    obtain ⟨answer?, others, answer, rest, rfl⟩ := List.forall₂_cons_left_iff.mp answered
    have here : reader.answerFor opening.provisioned opening.tokens entry = .ok answer? := by
      unfold answerFor
      cases visits with
      | asked active asks =>
        cases answer with
        | some answer =>
          rw [if_pos ((hasModule_iff legible entry).mpr active), given, (queryFor_eq_ok (tokensOf_spelt _ _)).mpr asks,
            ok_bind, answer]
          rfl
      | skipped inactive =>
        cases answer
        rw [if_neg (mt (hasModule_iff legible entry).mp inactive)]
        rfl
    rw [List.mapM_cons, here, ok_bind, ih rest]
    rfl

omit legible given

theorem visit?_eq_none (fails : ¬∀ token ∈ opening.tokens, ∃ name, token.2 = .text name) (entry : Entry) :
    visit? opening entry = none := by
  rw [← queryFor_succeeds_iff opening.tokens entry] at fails
  unfold visit?
  split
  next =>
    cases made : queryFor opening.tokens entry with
    | error fault => rfl
    | ok query => exact absurd ⟨query, made⟩ fails
  next => rfl

theorem rel_of_answerFor {entry : Entry} {answer? : Option Value}
    (answered : reader.answerFor opening.provisioned opening.tokens entry = .ok answer?) :
    (hasModule opening.provisioned entry = true → Succeeds (queryFor opening.tokens entry)) ∧
      Option.Rel (fun query value => reader.device.answer query = .ok value) (visit? opening entry) answer? := by
  unfold answerFor at answered
  unfold visit?
  split at answered
  next active =>
    obtain ⟨value, found, done⟩ := bind_eq_ok.mp answered
    cases done
    obtain ⟨query, made, answer⟩ := bind_eq_ok.mp found
    rw [if_pos active, made]
    exact ⟨fun _ => ⟨query, rfl⟩, .some answer⟩
  next inactive =>
    cases answered
    rw [if_neg inactive]
    exact ⟨fun active => absurd active inactive, .none⟩

end Containers

theorem course_of_unopened {fault : Fault} (opened : reader.opened = .error fault) :
    reader.Course declaration state false reader.openingQueries := by
  obtain ⟨opens, named⟩ := reader.openingQueries_prefix
  refine .opening (fun identity mapper listed name? prepared => ?_) opens named
  obtain ⟨_, done⟩ := prepared.opened
  cases opened.symm.trans done

theorem containerQueries_eq (reader : DeviceReader) (opening : Opening) :
    reader.containerQueries opening = (reader.catalog.entries.map (visit? opening)).reduceOption := by
  rw [containerQueries, List.reduceOption, List.filterMap_map, Function.id_comp]

theorem course_of_unharvested {opening : Opening} (opened : reader.opened = .ok opening) {fault : Fault}
    (harvested : reader.harvested declaration state opening = .error fault) :
    reader.Course declaration state false (reader.openingQueries ++ reader.containerQueries opening) := by
  obtain ⟨listed, name?, prepared, legible, given, opens⟩ := prepared_of_opened opened
  rw [opens]
  by_cases complete : ∀ entry ∈ reader.catalog.entries, hasModule opening.provisioned entry = true →
      Succeeds (queryFor opening.tokens entry)
  · have visited := visits_complete legible given complete
    rw [containerQueries_eq]
    refine .containers prepared visited fun answers watched gathering gathers => ?_
    obtain ⟨answered, ⟨known, declared, recalled, named, rfl⟩, gathered⟩ := gathers
    have all := answers_of_visits legible given visited answered
    rw [DeviceReader.harvested, all, ok_bind, recalled, ok_bind, named, ok_bind, gathered] at harvested
    cases harvested
  · -- One query that cannot be put together has a token that spoils all of them.
    push Not at complete
    obtain ⟨entry, member, active, fails⟩ := complete
    rw [queryFor_succeeds_iff] at fails
    have unasked : reader.containerQueries opening = [] :=
      List.filterMap_eq_nil_iff.mpr fun other _ => visit?_eq_none fails other
    rw [unasked, List.append_nil]
    push Not at fails
    obtain ⟨token, used, illegible⟩ := fails
    exact .unfilled prepared member ((hasModule_iff legible entry).mp active) (given ▸ used) illegible

theorem course_of_harvested (succeeded : Bool) {opening : Opening} (opened : reader.opened = .ok opening)
    {harvest : Harvest} (harvested : reader.harvested declaration state opening = .ok harvest) :
    reader.Course declaration state succeeded (reader.openingQueries ++ reader.containerQueries opening ++
      harvest.gathering.references.map Reference.query) := by
  obtain ⟨listed, name?, prepared, legible, given, opens⟩ := prepared_of_opened opened
  obtain ⟨answers, answered, rest⟩ := bind_eq_ok.mp harvested
  obtain ⟨known, recalled, rest⟩ := bind_eq_ok.mp rest
  obtain ⟨declared, named, rest⟩ := bind_eq_ok.mp rest
  obtain ⟨gathering, gathered, done⟩ := bind_eq_ok.mp rest
  cases done
  have complete : ∀ entry ∈ reader.catalog.entries, hasModule opening.provisioned entry = true →
      Succeeds (queryFor opening.tokens entry) := by
    intro entry member
    obtain ⟨answer?, _, here⟩ := exists_of_mapM answered entry member
    exact (rel_of_answerFor here).1
  have replies : List.Forall₂ (Option.Rel fun query value => reader.device.answer query = .ok value)
      (reader.catalog.entries.map (visit? opening)) answers :=
    List.forall₂_map_left_iff.mpr ((mapM_eq_ok.mp answered).imp fun _ _ here => (rel_of_answerFor here).2)
  obtain ⟨lists, referred, all⟩ := Gatherer.takeAnswers_references gathered
  have asked : gathering.references.map Reference.query = (lists.map (List.map Reference.query)).flatten := by
    rw [all, List.nil_append, List.map_flatten]
  rw [opens, containerQueries_eq, asked]
  refine .references succeeded prepared (visits_complete legible given complete)
    ⟨replies, ⟨known, declared, recalled, named, rfl⟩, gathered⟩ (List.forall₂_map_right_iff.mpr ?_)
  exact (mapM_eq_ok.mp referred).imp fun _ _ => Gatherer.answerFollows_of_answerReferences

/-- Every read takes such a course. One that succeeds has come to the references, so that it has asked for the modules,
for the name if that is needed, for every active entry in catalog order and for every reference in the order in which
they were met, and for nothing else. -/
theorem read_course (reader : DeviceReader) (declaration : Value) (state : DeviceState) (store : BaselineStore)
    (transcript : Transcript) :
    ∃ asked, (reader.read declaration state store transcript).2.queries = transcript.queries ++ asked ∧
      reader.Course declaration state (reader.read declaration state store transcript).1.isOk asked := by
  refine ⟨_, reader.asks_read declaration state store transcript, ?_⟩
  have sound := @of_isOk_read reader declaration state store transcript
  generalize (reader.read declaration state store transcript).1.isOk = succeeded at sound
  unfold queriesFor
  cases opened : reader.opened with
  | error fault =>
    rw [after, List.append_nil]
    cases succeeded with
    | false => exact course_of_unopened opened
    | true =>
      obtain ⟨_, _, begun, _⟩ := sound rfl
      cases opened.symm.trans begun
  | ok opening =>
    rw [after]
    cases harvested : reader.harvested declaration state opening with
    | error fault =>
      rw [after, List.append_nil]
      cases succeeded with
      | false => exact course_of_unharvested opened harvested
      | true =>
        obtain ⟨_, _, begun, complete⟩ := sound rfl
        cases opened.symm.trans begun
        cases harvested.symm.trans complete
    | ok harvest =>
      rw [after, ← List.append_assoc]
      exact course_of_harvested succeeded opened harvested

def edge : DeviceReader where
  catalog := ⟨[Packaged.configSync, Packaged.dataCenter, Packaged.vlan]⟩
  device := {
    id := "edge"
    identity := .ok { hostname := .text "edge.example" }
    answer := fun query =>
      if query.path = modulesPath then .ok edgeModules
      else if query.path = Device.namePath then .ok (.list [own])
      else if query.path = "/tm/cm/device/~Common~unit-1" then .ok own
      else if query.path = "/tm/net/vlan" then .ok (.list [network])
      else .ok (.list [.object [("name", .text "1.1")]]) }
where
  edgeModules : Value := .list [
    .object [("name", .text "ltm"), ("level", .text "nominal")],
    .object [("name", .text "gtm"), ("level", .text "none")]]
  own : Value := .object [("name", .text "unit-1"), ("hostname", .text "edge.example")]
  interfaces : String := "https://localhost/mgmt/tm/net/vlan/~Common~external/interfaces?ver=15.1.0"
  network : Value := .object [("name", .text "external"), ("tag", .int 10),
    ("interfacesReference", .object [("link", .text interfaces), ("isSubcollection", .bool true)])]

def edgeQueries : List Query := [
  { path := "/tm/sys/provision", select := ["name", "level"] },
  { path := "/tm/cm/device", select := ["name", "hostname"] },
  { path := "/tm/cm/device/~Common~unit-1", select := ["configsyncIp", "name"] },
  { path := "/tm/net/vlan"
    select := ["mtu", "tag", "interfacesReference", "autoLasthop", "cmpHash", "failsafe", "failsafeAction",
      "failsafeTimeout", "name"] },
  { path := "/tm/net/vlan/~Common~external/interfaces", select := ["name", "tagged"], partition := none,
    params := [("ver", "15.1.0")] }]

theorem edge_unprovisioned : ¬Active edge.edgeModules Packaged.dataCenter := by
  intro active
  obtain ⟨items, fields, level, listed, member, named, levelled, differ⟩ := active "gtm" rfl
  cases listed
  rcases List.mem_cons.mp member with same | others
  · cases same
    exact absurd (Value.text.inj (Option.some.inj named)) (by decide)
  · cases List.mem_singleton.mp others
    cases levelled
    exact differ rfl

theorem edge_namesDevice : edge.NamesDevice edge.edgeModules :=
  ⟨Packaged.configSync, List.mem_cons_self .., nofun, "/tm/cm/device/~Common~".toList, [], by decide⟩

/-- The device is asked for its name, but not for data centers. -/
theorem read_course_edge :
    edge.NamesDevice edge.edgeModules ∧ ¬Active edge.edgeModules Packaged.dataCenter ∧
      (edge.read .empty {} .inMemory {}).1.isOk = true ∧ (edge.read .empty {} .inMemory {}).2.queries = edgeQueries ∧
      edge.Course .empty {} true edgeQueries := by
  obtain ⟨asked, queries, course⟩ := read_course edge .empty {} .inMemory {}
  have succeeds : (edge.read .empty {} .inMemory {}).1.isOk = true := by decide +kernel
  have all : (edge.read .empty {} .inMemory {}).2.queries = edgeQueries := by decide +kernel
  obtain rfl : asked = edgeQueries := queries.symm.trans all
  rw [succeeds] at course
  exact ⟨edge_namesDevice, edge_unprovisioned, succeeds, all, course⟩

end DeviceReader

end Reconcile
