import Reconcile.Baseline.Store
import Reconcile.Observation.Gathering
import Reconcile.Observation.Widening
import Reconcile.Value.Order

/-!
Reading the configuration of a device, in the flat form in which it can be compared with a declaration. A read that
succeeds replaces what is known of the device and widens its baseline; one that fails changes nothing.
-/

namespace Reconcile

structure DeviceState where
  task : Option String := none
  current : Value := .empty
  /-- The device's baseline; null when there is none yet. -/
  baseline : Value := .null

structure DeviceReader where
  catalog : Catalog
  device : Device
  translate : Bool := false

namespace DeviceReader

def provisionQuery : Query where
  path := modulesPath
  select := ["name", "level"]

def provisionedName? (item : Value) : Result (Option Value) := do
  let fields ← item.fieldsOrFail
  if ((Assoc.get? fields "level").getD (.text "none")).spells "none" then return none
  match Assoc.get? fields "name" with
  | some name => if name.isContainer then .error .wrongKind else return some name
  | none => .error (.missing "name")

def provisionedAmong (items : Value) : Result (List Value) := do
  let names ← (← (items.orElse (.list [])).itemsOrFail).mapM provisionedName?
  let names := Value.distinct (names.filterMap id)
  if Value.comparable names then return names else .error .wrongKind

def hasModule (provisioned : List Value) (entry : Entry) : Bool :=
  match entry.requiredModule with
  | some name => provisioned.any fun module => module.spells name
  | none => true

def fillTokens (tokens : List (String × Value)) (path : String) : Result String :=
  tokens.foldlM (fun path (token, value) =>
    match value with
    | .text name => .ok (Text.replace token name path)
    | _ => .error .wrongKind) path

def queryFor (tokens : List (String × Value)) (entry : Entry) : Result Query := do
  return {
    path := ← fillTokens tokens entry.path
    select := entry.requested
    partition := if entry.partitions.isSome then none else some "Common"
    silent := entry.silent }

def askFor (reader : DeviceReader) (provisioned : List Value) (tokens : List (String × Value)) (entry : Entry) :
    Observed (Option Value) := do
  if hasModule provisioned entry then return some (← reader.device.ask (← queryFor tokens entry)) else return none

def knownVariables (state : DeviceState) : Result (List Key) := do
  let tenants ← (state.current.orElse .empty).fieldsOrFail
  match ← ((Assoc.get? tenants "Common").getD .empty).field "DbVariables" with
  | .object known => return Assoc.keys known
  | _ => return []

def declaredVariables (declaration : Value) : Result (List Key) := do
  let common := match declaration with
    | .object fields => Fields.lookup fields "Common"
    | _ => .null
  let members ← (common.orElse .empty).fieldsOrFail
  return members.flatMap fun entry =>
    match entry.2 with
    | .object fields =>
      if (Fields.lookup fields "class").spells "DbVariables" then
        (Assoc.keys fields).filter fun key => key ≠ .named "class"
      else []
    | _ => []

/-- What the tokens in paths stand for. The device's own name is only asked for if an active entry needs it. -/
def tokensFor (reader : DeviceReader) (provisioned : List Value) (hostname : Value) :
    Observed (List (String × Value)) := do
  let tokens := [(hostNameToken, hostname)]
  if reader.catalog.entries.any fun entry => hasModule provisioned entry && entry.asksForName then
    return tokens ++ [(deviceNameToken, ← reader.device.resolveName hostname)]
  else return tokens

def versionText (version : Value) : Result (Option String) :=
  match version with
  | .text content => .ok (some content)
  | version => if version.truthy then .error .noFields else .ok none

def resolveReferences (reader : DeviceReader) (task : Option String) (mapper : ItemMapper) (gathering : Gathering) :
    Observed Fields := do
  let results ← Observed.gather (gathering.references.map (Reference.fetch reader.device))
  (gathering.references.zip results).foldlM (fun classes (reference, result) =>
    reference.splice task mapper result classes) gathering.classes

def observe (reader : DeviceReader) (declaration : Value) (state : DeviceState) : Observed (Identity × Fields) := do
  let identity ← reader.device.identity
  let mapper ← ItemMapper.ofVersion reader.translate (← versionText identity.version)
  let provisioned ← provisionedAmong (← reader.device.ask provisionQuery)
  let tokens ← reader.tokensFor provisioned identity.hostname
  let entries := reader.catalog.entries
  let answers ← Observed.gather (entries.map (reader.askFor provisioned tokens))
  let watched := (← knownVariables state) ++ (← declaredVariables declaration)
  let gatherer : Gatherer := { translate := reader.translate, mapper, declaration, watched }
  let gathering ← (entries.zip answers).foldlM (fun gathering (entry, answer) =>
    gatherer.takeAnswer gathering entry answer) ({} : Gathering)
  let classes ← reader.resolveReferences state.task mapper gathering
  return (identity, ← gatherer.finish reader.catalog classes)

def storeKey (reader : DeviceReader) (identity : Identity) : String :=
  match identity.machineId with
  | .text id => if id = "" then reader.device.id else id
  | _ => reader.device.id

/-- The widened baseline. A device without a stored one keeps the one known from earlier reads, and at first
contact the configuration just read is the baseline. -/
def baselineFor (reader : DeviceReader) (key : String) (classes : Fields) (state : DeviceState)
    (store : BaselineStore) : Observed Value := do
  let stored? ← store.get key
  let baseline := match stored? with
    | some stored => stored
    | none => if state.baseline.truthy then state.baseline else .object [("Common", .object classes)]
  Widening.widen reader.catalog classes baseline

def observeState (reader : DeviceReader) (declaration : Value) (state : DeviceState) (store : BaselineStore) :
    Observed (String × DeviceState) := do
  let (identity, classes) ← reader.observe declaration state
  let key := reader.storeKey identity
  let baseline ← reader.baselineFor key classes state store
  return (key, { state with current := .object [("Common", .object classes)], baseline })

/-- Reads a device. The state is the new one as soon as the device has been read, even if the baseline cannot be
recorded after that. -/
def read (reader : DeviceReader) (declaration : Value) (state : DeviceState) (store : BaselineStore) :
    Observed (DeviceState × Result BaselineStore) := do
  match ← Observed.attempt (reader.observeState declaration state store) with
  | .ok (key, after) => return (after, store.set key after.baseline)
  | .error fault => do
    Observed.note .error (Log.forTask state.task ("Error getting current config: " ++ fault.message))
    throw fault

end DeviceReader

end Reconcile
