import Reconcile.Proofs.Baseline.Keeping
import Reconcile.Proofs.Observation.Evolution
import Reconcile.Proofs.Observation.Outcome

/-!
The baseline of one machine over any number of reads. What the first reads have recorded lasts: sizes only grow, and
variables and classes with content are never changed or lost.
-/

namespace Reconcile

open Widening

theorem BaselineStore.stored_set {id : String} {fields : Fields} {store later : BaselineStore}
    (recorded : store.set id (.object fields) = .ok later) : later.stored id = .ok (some (.object fields)) := by
  cases store with
  | memory baselines =>
    cases recorded
    rw [stored, Assoc.get?_put_self]
    rfl
  | files now contents =>
    obtain ⟨record, made, done⟩ := Result.bind_eq_ok.mp recorded
    cases done
    obtain ⟨checksum, computed, done⟩ := Result.bind_eq_ok.mp made
    cases done
    have given : (Value.object fields).orElse .empty = .object fields := by cases fields <;> rfl
    rw [stored, Assoc.get?_put_self]
    simp only [onFile, BaselineRecord.ofDocument_document, given, BaselineRecord.isGenuine, computed]
    split <;> rfl

theorem DeviceReader.observed_identity {reader : DeviceReader} {declaration : Value} {state : DeviceState}
    {identity : Identity} {classes : Fields} (observed : reader.observed declaration state = .ok (identity, classes)) :
    reader.device.identity = .ok identity := by
  obtain ⟨sighting, seen, rest⟩ := Result.bind_eq_ok.mp observed
  obtain ⟨shown, asked, rest'⟩ := Result.bind_eq_ok.mp seen
  obtain ⟨version, _, rest'⟩ := Result.bind_eq_ok.mp rest'
  obtain ⟨provisioned, _, rest'⟩ := Result.bind_eq_ok.mp rest'
  obtain ⟨tokens, _, rest'⟩ := Result.bind_eq_ok.mp rest'
  obtain ⟨answers, _, done⟩ := Result.bind_eq_ok.mp rest'
  cases done
  obtain ⟨known, _, rest⟩ := Result.bind_eq_ok.mp rest
  obtain ⟨declared, _, rest⟩ := Result.bind_eq_ok.mp rest
  obtain ⟨classes', _, done⟩ := Result.bind_eq_ok.mp rest
  cases done
  exact asked

/-- A read of a device that went well, with the packaged catalog and the baseline of the machine that the key names. -/
structure Visit (key : String) where
  reader : DeviceReader
  declaration : Value
  state : DeviceState
  store : BaselineStore
  transcript : Transcript
  after : DeviceState
  later : BaselineStore
  packaged : reader.catalog = .packaged
  own : ∀ identity, reader.device.identity = .ok identity → reader.storeKey identity = key
  done : (reader.read declaration state store transcript).1 = .ok (after, .ok later)

namespace Visit

variable {key : String}

def current (visit : Visit key) : Fields :=
  commonOf visit.after.current

def StartsFrom (visit : Visit key) (baseline : Value) : Prop :=
  visit.store.stored key = .ok (some baseline)

def Precedes (earlier next : Visit key) : Prop :=
  next.store.stored key = earlier.later.stored key

def origin (visit : Visit key) (stored? : Option Value) : Value :=
  DeviceReader.baselineBefore visit.current visit.state stored?

theorem outcome (visit : Visit key) :
    ∃ stored?, visit.store.stored key = .ok stored? ∧
      widen .packaged visit.current (visit.origin stored?) = .ok visit.after.baseline ∧
      visit.store.set key visit.after.baseline = .ok visit.later := by
  obtain ⟨reader, declaration, state, store, transcript, after, later, packaged, own, done⟩ := visit
  rw [reader.yields_readFrom declaration state store transcript] at done
  obtain ⟨⟨place, made⟩, given, same⟩ := Result.bind_eq_ok.mp done
  obtain ⟨⟨identity, classes⟩, observed, rest⟩ := Result.bind_eq_ok.mp given
  obtain ⟨baseline, based, built⟩ := Result.bind_eq_ok.mp rest
  obtain ⟨stored?, found, widened⟩ := Result.bind_eq_ok.mp based
  cases built
  simp only [Except.ok.injEq, Prod.mk.injEq] at same
  obtain ⟨rfl, recorded⟩ := same
  rw [own identity (DeviceReader.observed_identity observed)] at found recorded
  rw [packaged] at widened
  exact ⟨stored?, found, widened, recorded⟩

theorem stored_later (visit : Visit key) : visit.later.stored key = .ok (some visit.after.baseline) := by
  obtain ⟨stored?, _, widened, recorded⟩ := visit.outcome
  obtain ⟨tenants, same⟩ := widen_object widened
  rw [same] at recorded ⊢
  exact BaselineStore.stored_set recorded

/-- One visit: a baseline that was stored evolves, and any baseline stays in shape. -/
theorem evolution (visit : Visit key) (expected : Shaped visit.current)
    (shaped : ∀ stored?, visit.store.stored key = .ok stored? → Shaped (commonOf (visit.origin stored?))) :
    (∀ baseline, visit.StartsFrom baseline → Evolution .packaged visit.current baseline visit.after.baseline) ∧
      Shaped (commonOf visit.after.baseline) := by
  obtain ⟨stored?, found, widened, -⟩ := visit.outcome
  have ⟨evolves, kept⟩ := widen_evolution Catalog.packaged_coherent expected (shaped stored? found) widened
  refine ⟨fun baseline starts => ?_, kept⟩
  cases found.symm.trans starts
  exact evolves

theorem Precedes.stored {earlier next : Visit key} (precedes : earlier.Precedes next) :
    next.StartsFrom earlier.after.baseline :=
  Eq.trans precedes earlier.stored_later

end Visit

/-- What lasts from one state of a common tenant to a later one. -/
structure Lasts (common later : Fields) : Prop where
  size : diskSizeOf common ≤ diskSizeOf later
  disk : ∀ key : Key, key ≠ "applicationData" → diskField? later key = diskField? common key
  settings : ∀ name value, settingOf? common name = some value → settingOf? later name = some value
  classes : ∀ key : Key, key ≠ "DbVariables" → key ≠ "Disk" → ∀ value, value ≠ .empty →
    Assoc.get? common key = some value → Assoc.get? later key = some value

theorem Lasts.trans {common middle later : Fields} (first : Lasts common middle) (second : Lasts middle later) :
    Lasts common later where
  size := Nat.le_trans first.size second.size
  disk key other := (second.disk key other).trans (first.disk key other)
  settings name value found := second.settings name value (first.settings name value found)
  classes key notSettings notDisk value filled found :=
    second.classes key notSettings notDisk value filled (first.classes key notSettings notDisk value filled found)

theorem Widening.Evolves.lasts {catalog : Catalog} {current common after : Fields}
    (evolves : Evolves catalog current common after) : Lasts common after where
  size := evolves.diskSizeOf_le
  disk := evolves.disk
  settings name value found := by rw [evolves.settings, found, Option.some_or]
  classes key notSettings notDisk _ filled := (evolves.classes key notSettings notDisk).keeps filled

/-- In any run of reads of one machine that go well, every read changes the baseline that it starts from only as it
may, and what any of them leaves in the baseline lasts to the end of the run. -/
theorem visits_evolve {key : String} {visits : List (Visit key)} (run : visits.IsChain Visit.Precedes)
    (expected : ∀ visit ∈ visits, Shaped visit.current)
    (shaped : ∀ visit ∈ visits.head?, ∀ stored?, visit.store.stored key = .ok stored? →
      Shaped (commonOf (visit.origin stored?))) :
    (∀ visit ∈ visits, ∀ baseline, visit.StartsFrom baseline →
        Evolution .packaged visit.current baseline visit.after.baseline) ∧
      visits.Pairwise fun earlier later => Lasts (commonOf earlier.after.baseline) (commonOf later.after.baseline) := by
  induction visits with
  | nil => exact ⟨fun _ member => absurd member List.not_mem_nil, .nil⟩
  | cons visit rest ih =>
    have ⟨here, others⟩ := List.forall_mem_cons.mp expected
    have ⟨evolves, left⟩ := visit.evolution here (shaped visit rfl)
    cases rest with
    | nil =>
      exact ⟨List.forall_mem_cons.mpr ⟨evolves, fun _ member => absurd member List.not_mem_nil⟩,
        List.pairwise_singleton ..⟩
    | cons next rest =>
      have ⟨precedes, tail⟩ := List.isChain_cons_cons.mp run
      have starts : next.StartsFrom visit.after.baseline := precedes.stored
      have ⟨later, lasting⟩ := ih tail others fun visit' first stored? found => by
        cases first
        cases starts.symm.trans found
        exact left
      -- The next visit starts from what this one has left, and the others go on from there.
      have lasts : Lasts (commonOf visit.after.baseline) (commonOf next.after.baseline) :=
        (later next (List.mem_cons_self ..) _ starts).common.lasts
      refine ⟨List.forall_mem_cons.mpr ⟨evolves, later⟩, List.pairwise_cons.mpr ⟨?_, lasting⟩⟩
      refine List.forall_mem_cons.mpr ⟨lasts, fun other member => lasts.trans ?_⟩
      exact (List.pairwise_cons.mp lasting).1 other member

def Widening.isShaped (common : Fields) : Bool :=
  (Assoc.get? common "DbVariables").all Value.isObject && (Assoc.get? common "Disk").all Value.isObject &&
    (diskField? common "applicationData").all fun value =>
      match value with
      | .int (.ofNat _) => true
      | _ => false

theorem Widening.shaped_of_isShaped {common : Fields} (shaped : isShaped common = true) : Shaped common := by
  simp only [isShaped, Bool.and_eq_true, Option.all_eq_true] at shaped
  obtain ⟨⟨settings, disk⟩, size⟩ := shaped
  refine ⟨settings, disk, fun value found => ?_⟩
  have natural := size value found
  split at natural
  next size => exact ⟨size, rfl⟩
  next => cases natural

def appliance (size : Nat) (advisory level : String) : Device where
  id := "north"
  identity := .ok { hostname := .text "north.example", machineId := .text "box" }
  answer query := .ok (
    if query.select.head? = some "name" then
      .list [.object [("name", .text "avr"), ("level", .text level), ("hostname", .text "north.example")]]
    else if query.select = ["level", "name"] then .list [.object [("name", .text "avr"), ("level", .text level)]]
    else if query.select = ["value", "name"] then
      .list [.object [("name", .text "ui.advisory.enabled"), ("value", .text advisory)]]
    else if query.select = ["apiRawValues", "name"] then
      .object [("apiRawValues", .object [("apiAnonymous", .text ("/appdata " ++ toString size))])]
    else .list [])

def advised : Value :=
  .object [("class", .text "Device"), ("Common", .object [("class", .text "Tenant"),
    ("variables", .object [("class", .text "DbVariables"), ("ui.advisory.enabled", .text "true")])])]

def applianceReader (size : Nat) (advisory level : String) : DeviceReader where
  catalog := .packaged
  device := appliance size advisory level

def readsTwice (first second : DeviceReader) : Bool :=
  match (first.read advised {} .inMemory {}).1 with
  | .ok (after, .ok later) =>
    match (second.read advised after later {}).1 with
    | .ok (last, .ok _) =>
      isShaped (commonOf after.current) && isShaped (commonOf last.current) &&
        decide (diskSizeOf (commonOf last.current) < diskSizeOf (commonOf after.baseline))
    | _ => false
  | _ => false

theorem of_readsTwice {first second : DeviceReader} (twice : readsTwice first second = true) :
    ∃ after later last final,
      (first.read advised {} .inMemory {}).1 = .ok (after, .ok later) ∧
      (second.read advised after later {}).1 = .ok (last, .ok final) ∧
      Shaped (commonOf after.current) ∧ Shaped (commonOf last.current) ∧
      diskSizeOf (commonOf last.current) < diskSizeOf (commonOf after.baseline) := by
  unfold readsTwice at twice
  split at twice
  next after later run =>
    split at twice
    next last final again =>
      simp only [Bool.and_eq_true, decide_eq_true_eq] at twice
      obtain ⟨⟨shaped, shapedAgain⟩, smaller⟩ := twice
      exact ⟨after, later, last, final, run, again, shaped_of_isShaped shaped, shaped_of_isShaped shapedAgain, smaller⟩
    next => cases twice
  next => cases twice

theorem appliance_readsTwice :
    readsTwice (applianceReader 60 "true" "nominal") (applianceReader 40 "false" "none") = true := by
  decide +kernel

/-- The appliance is read again with a smaller disk, another value of its variable and the module gone. -/
theorem visits_evolve_appliance :
    ∃ first second : Visit "box",
      [first, second].IsChain Visit.Precedes ∧ (∀ visit ∈ [first, second], Shaped visit.current) ∧
      (∀ visit ∈ [first, second].head?, ∀ stored?, visit.store.stored "box" = .ok stored? →
        Shaped (commonOf (visit.origin stored?))) ∧
      diskSizeOf second.current < diskSizeOf (commonOf first.after.baseline) ∧
      second.StartsFrom first.after.baseline ∧
      Evolution .packaged second.current first.after.baseline second.after.baseline ∧
      Lasts (commonOf first.after.baseline) (commonOf second.after.baseline) := by
  obtain ⟨after, later, last, final, run, again, shaped, shapedAgain, smaller⟩ := of_readsTwice appliance_readsTwice
  have own : ∀ size advisory level identity, (appliance size advisory level).identity = .ok identity →
      (applianceReader size advisory level).storeKey identity = "box" := by
    intro size advisory level identity same
    cases same
    rfl
  let first : Visit "box" := ⟨_, advised, {}, .inMemory, {}, after, later, rfl, own _ _ _, run⟩
  let second : Visit "box" := ⟨_, advised, after, later, {}, last, final, rfl, own _ _ _, again⟩
  have chain : [first, second].IsChain Visit.Precedes := List.isChain_cons_cons.mpr ⟨rfl, .singleton _⟩
  have expected : ∀ visit ∈ [first, second], Shaped visit.current :=
    List.forall_mem_cons.mpr ⟨shaped, List.forall_mem_singleton.mpr shapedAgain⟩
  have start : ∀ visit ∈ [first, second].head?, ∀ stored?, visit.store.stored "box" = .ok stored? →
      Shaped (commonOf (visit.origin stored?)) := by
    intro visit head stored? found
    cases head
    cases found
    exact shaped
  have ⟨evolves, lasting⟩ := visits_evolve chain expected start
  have starts : second.StartsFrom first.after.baseline := (List.isChain_cons_cons.mp chain).1.stored
  exact ⟨first, second, chain, expected, start, smaller, starts,
    evolves second (List.mem_cons_of_mem _ (List.mem_cons_self ..)) _ starts,
    (List.pairwise_cons.mp lasting).1 second (List.mem_cons_self ..)⟩

end Reconcile
