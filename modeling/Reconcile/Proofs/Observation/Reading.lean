import Reconcile.Proofs.Observation.DiskSize
import Reconcile.Proofs.Observation.Watching
import Reconcile.Proofs.Observation.Widening

/-!
Reading a device is idempotent: with the packaged catalog and baselines in memory, a second read of the same device
leaves the state and the baselines as the first one left them.
-/

namespace Reconcile

def settingsPath : String := "/tm/sys/global-settings"

/-- Devices whose answers have each key once, and whose global settings hold no database variables. -/
structure Device.Orderly (device : Device) : Prop where
  proper : ∀ query value, device.answer query = .ok value → value.isProper = true
  settings : ∀ query fields, query.path = settingsPath → device.answer query = .ok (.object fields) →
    Assoc.get? fields "DbVariables" = none

namespace Catalog

theorem packaged_listsOnce : Catalog.packaged.ListsOnce := by
  refine ⟨Packaged.systemEntries.take 8, Packaged.dbVariables, Packaged.networkEntries ++ Packaged.clusterEntries ++
    Packaged.monitoringEntries ++ Packaged.authenticationEntries ++ Packaged.servicesEntries ++
    Packaged.loadBalancingEntries ++ Packaged.securityEntries, rfl, ⟨rfl, rfl, rfl, rfl, rfl⟩, ?_⟩
  decide +kernel

theorem packaged_disk : ∀ entry ∈ Catalog.packaged.entries, entry.class? = some "Disk" → entry = Packaged.disk := by
  have split : Catalog.packaged.entries = (Packaged.systemEntries ++ Packaged.networkEntries ++
      Packaged.clusterEntries ++ Packaged.monitoringEntries ++ Packaged.authenticationEntries ++
      Packaged.servicesEntries.take 4) ++ Packaged.disk :: (Packaged.loadBalancingEntries ++
      Packaged.securityEntries) := rfl
  have others : ∀ entry ∈ (Packaged.systemEntries ++ Packaged.networkEntries ++ Packaged.clusterEntries ++
      Packaged.monitoringEntries ++ Packaged.authenticationEntries ++ Packaged.servicesEntries.take 4) ++
      (Packaged.loadBalancingEntries ++ Packaged.securityEntries), entry.class? ≠ some "Disk" := by
    decide +kernel
  intro entry member own
  rw [split, List.mem_append, List.mem_cons] at member
  by_contra differ
  refine others entry ?_ own
  rw [List.mem_append]
  tauto

theorem packaged_classless : ∀ entry ∈ Catalog.packaged.entries, entry.class? = none → entry.path = settingsPath := by
  decide +kernel

end Catalog

namespace DeviceReader

variable {reader : DeviceReader}

theorem tokensGiven_names {provisioned : List Value} {hostname : Value} {tokens : List (String × Value)}
    (given : reader.tokensGiven provisioned hostname = .ok tokens) :
    ∀ token ∈ tokens, token.1 = hostNameToken ∨ token.1 = deviceNameToken := by
  unfold tokensGiven at given
  dsimp only at given
  split at given
  next =>
    obtain ⟨name, _, done⟩ := Result.bind_eq_ok.mp given
    cases done
    simp
  next =>
    cases given
    simp

theorem fillTokens_free {path filled : String} (host : ∀ name, Text.replace hostNameToken name path = path)
    (device : ∀ name, Text.replace deviceNameToken name path = path) {tokens : List (String × Value)}
    (names : ∀ token ∈ tokens, token.1 = hostNameToken ∨ token.1 = deviceNameToken)
    (run : fillTokens tokens path = .ok filled) : filled = path := by
  refine Result.foldlM_keeps (· = path) ?_ rfl run
  rintro ⟨token, value⟩ member state next rfl step
  cases value with
  | text name =>
    cases step
    rcases names _ member with rfl | rfl
    · exact host name
    · exact device name
  | _ => cases step

theorem answerFor_some {provisioned : List Value} {tokens : List (String × Value)} {entry : Entry} {value : Value}
    (answered : reader.answerFor provisioned tokens entry = .ok (some value)) :
    ∃ query, queryFor tokens entry = .ok query ∧ reader.device.answer query = .ok value := by
  unfold answerFor at answered
  split at answered
  next =>
    obtain ⟨found, here, done⟩ := Result.bind_eq_ok.mp answered
    cases done
    exact Result.bind_eq_ok.mp here
  next => cases answered

/-- What a sighting of an orderly device can be relied on for. -/
structure Sighting.Sound (reader : DeviceReader) (sighting : Sighting) : Prop where
  native : sighting.mapper.translate = reader.translate
  proper : ∀ answered ∈ reader.catalog.entries.zip sighting.answers, ∀ value, answered.2 = some value →
    value.isProper = true
  leaves : ∀ answered ∈ reader.catalog.entries.zip sighting.answers, Gatherer.Spares "DbVariables" answered

theorem sighted_sound (orderly : reader.device.Orderly)
    (classless : ∀ entry ∈ reader.catalog.entries, entry.class? = none → entry.path = settingsPath)
    {sighting : Sighting} (seen : reader.sighted = .ok sighting) : sighting.Sound reader := by
  obtain ⟨identity, _, rest⟩ := Result.bind_eq_ok.mp seen
  obtain ⟨mapper, made, rest⟩ := Result.bind_eq_ok.mp rest
  obtain ⟨provisioned, _, rest⟩ := Result.bind_eq_ok.mp rest
  obtain ⟨tokens, given, rest⟩ := Result.bind_eq_ok.mp rest
  obtain ⟨answers, all, done⟩ := Result.bind_eq_ok.mp rest
  cases done
  have each := Result.of_mem_zip all
  constructor
  · obtain ⟨_, _, made⟩ := Result.bind_eq_ok.mp made
    exact ItemMapper.translate_of_ofVersion made
  · intro answered member value same
    have here := each answered member
    rw [same] at here
    obtain ⟨query, _, answer⟩ := answerFor_some here
    exact orderly.proper query value answer
  · intro answered member own fields same
    have here := each answered member
    rw [same] at here
    obtain ⟨query, asked, answer⟩ := answerFor_some here
    obtain ⟨path, filled, done⟩ := Result.bind_eq_ok.mp asked
    cases done
    rw [classless _ (List.of_mem_zip member).1 own] at filled
    exact orderly.settings _ fields (fillTokens_free (fun _ => rfl) (fun _ => rfl) (tokensGiven_names given) filled) answer

theorem classesFor_frame {sighting : Sighting} {declaration : Value} {watched : List Key} {classes : Fields}
    {schemaClass : String}
    (apart : ∀ entry ∈ reader.catalog.entries, entry.class? = some schemaClass → entry.references = [])
    (plain : ∀ context objects, Shaping.finish schemaClass context objects = .ok objects)
    (read : reader.classesFor declaration sighting watched = .ok classes) :
    ∃ gathering, reader.gathered declaration sighting watched = .ok gathering ∧
      Assoc.get? classes schemaClass = Assoc.get? gathering.classes schemaClass := by
  obtain ⟨gathering, gathered, rest⟩ := Result.bind_eq_ok.mp read
  obtain ⟨resolved, run, finished⟩ := Result.bind_eq_ok.mp rest
  refine ⟨gathering, gathered, (Gatherer.finish_frame plain finished).trans (resolved_frame ?_ run)⟩
  intro reference member same
  obtain ⟨answered, inside, own, known⟩ := Gatherer.gathered_references gathered reference member
  rw [← Key.named.inj same] at own
  exact known (apart _ (List.of_mem_zip inside).1 own)

theorem variables_apart {catalog : Catalog} (once : catalog.ListsOnce) :
    ∀ entry ∈ catalog.entries, entry.class? = some "DbVariables" → entry.references = [] := by
  obtain ⟨front, variable', back, split, lists, others⟩ := once
  intro entry member own
  rw [split, List.mem_append, List.mem_cons] at member
  by_cases same : entry = variable'
  · exact same ▸ lists.references
  · refine absurd own (others entry ?_)
    rw [List.mem_append]
    tauto

theorem classesFor_again (once : reader.catalog.ListsOnce) {sighting : Sighting} (sound : sighting.Sound reader)
    {declaration : Value} {known declared : List Key} {classes : Fields}
    (read : reader.classesFor declaration sighting (known ++ declared) = .ok classes) :
    reader.classesFor declaration sighting (Gatherer.variablesOf classes ++ declared) = .ok classes := by
  obtain ⟨gathering, gathered, same⟩ := classesFor_frame (variables_apart once) (fun _ _ => rfl) read
  have kept := Gatherer.gathered_kept once sound.leaves gathered
  have again : reader.gathered declaration sighting (Gatherer.variablesOf classes ++ declared) =
      reader.gathered declaration sighting (known ++ declared) := by
    apply Result.foldlM_congr
    intro answered member state
    apply Gatherer.takeAnswer_watched
    intro own items list raw listed name named
    have here := (kept answered member own items list).congr same
    rw [List.mem_append]
    constructor
    · rintro (read | mentioned)
      · exact here.sound name read
      · exact List.mem_append_right known mentioned
    · intro watched
      exact .inl (here.complete raw listed name named watched)
  rw [← read, classesFor, again]
  rfl

theorem classesFor_size (only : ∀ entry ∈ reader.catalog.entries, entry.class? = some "Disk" → entry = Packaged.disk)
    (native : reader.translate = false) {sighting : Sighting} (sound : sighting.Sound reader) {declaration : Value}
    {watched : List Key} {classes : Fields} (read : reader.classesFor declaration sighting watched = .ok classes) :
    Widening.SizeProper classes := by
  have apart : ∀ entry ∈ reader.catalog.entries, entry.class? = some "Disk" → entry.references = [] :=
    fun entry member own => by rw [only entry member own]; rfl
  obtain ⟨gathering, gathered, same⟩ := classesFor_frame apart (fun _ _ => rfl) read
  have fits : FitsSize (Assoc.get? gathering.classes "Disk") :=
    Result.foldlM_keeps (fun state => FitsSize (Assoc.get? state.classes (.named "Disk")))
      (fun answered member state next holds step => Gatherer.takeAnswer_fits (sound.native.trans native)
        (only _ (List.of_mem_zip member).1) (sound.proper answered member) holds step)
      (fun _ absent => by cases absent) gathered
  rw [← same] at fits
  exact fun size found list => fits.isProper found list

theorem knownVariables_read (state : DeviceState) (classes : Fields) (baseline : Value) :
    knownVariables { state with current := .object [("Common", .object classes)], baseline } =
      .ok (Gatherer.variablesOf classes) := by
  have held : (Value.object classes).field "DbVariables" =
      .ok ((Assoc.get? classes "DbVariables").getD .null) := rfl
  unfold knownVariables Gatherer.variablesOf Path.inner
  simp only [Value.orElse, Value.truthy, List.isEmpty_cons, Bool.not_false, ↓reduceIte, Value.fieldsOrFail,
    Result.ok_bind, Assoc.get?, Option.getD_some, held]
  cases Assoc.get? classes "DbVariables" with
  | none => rfl
  | some value => cases value <;> rfl

/-- Reading with the packaged catalog again, from the new state and with the new baseline stored, gives the same. -/
theorem stateGiven_again (packaged : reader.catalog = .packaged) (native : reader.translate = false)
    (orderly : reader.device.Orderly) {declaration : Value} {state after : DeviceState}
    {baselines : List (String × Value)} {key : String}
    (read : reader.stateGiven declaration state baselines = .ok (key, after)) :
    reader.stateGiven declaration after (Assoc.put baselines key after.baseline) = .ok (key, after) := by
  obtain ⟨⟨identity, classes⟩, observed, rest⟩ := Result.bind_eq_ok.mp read
  obtain ⟨baseline, widened, done⟩ := Result.bind_eq_ok.mp rest
  cases done
  obtain ⟨sighting, seen, rest⟩ := Result.bind_eq_ok.mp observed
  obtain ⟨known, _, rest⟩ := Result.bind_eq_ok.mp rest
  obtain ⟨declared, listed, rest⟩ := Result.bind_eq_ok.mp rest
  obtain ⟨classes', gathered, done⟩ := Result.bind_eq_ok.mp rest
  cases done
  have sound := sighted_sound orderly (packaged ▸ Catalog.packaged_classless) seen
  have gatheredAgain := classesFor_again (packaged ▸ Catalog.packaged_listsOnce) sound gathered
  have proper := classesFor_size (packaged ▸ Catalog.packaged_disk) native sound gathered
  have observedAgain : reader.observed declaration
      { state with current := .object [("Common", .object classes)], baseline } = .ok (sighting.identity, classes) := by
    rw [DeviceReader.observed, seen, Result.ok_bind, knownVariables_read, Result.ok_bind, listed, Result.ok_bind,
      gatheredAgain]
    rfl
  have widenedAgain := Widening.widen_again (packaged ▸ Catalog.packaged_coherent) proper widened
  have stored : storedIn (Assoc.put baselines (reader.storeKey sighting.identity) baseline)
      (reader.storeKey sighting.identity) = some baseline := by
    obtain ⟨tenants, rfl⟩ := Widening.widen_object widened
    rw [storedIn, Assoc.get?_put_self]
    rfl
  rw [stateGiven, observedAgain, Result.ok_bind]
  dsimp only
  rw [stored, baselineBefore, widenedAgain]
  rfl

end DeviceReader

end Reconcile
