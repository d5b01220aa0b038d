import Reconcile.Proofs.Observation.Evolution
import Reconcile.Proofs.Observation.Reading

/-!
What a read can rely on once the device lists its modules. Each class is read once. The class of the modules is an
object with something in it, so that a baseline that is widened by the read has room for every class that needs no
module.
-/

namespace Reconcile

/-- A device that, if it answers when it is asked for the levels of its modules, answers with a list, and not with an
empty one. -/
def Device.ListsModules (device : Device) : Prop :=
  ∀ query value, query.path = modulesPath → "level" ∈ query.select → device.answer query = .ok value →
    ∃ item items, value = .list (item :: items)

namespace Gatherer

variable {gatherer : Gatherer} {entry : Entry} {schemaClass : String} {before after : Gathering}

theorem begin_nodup (unique : (Assoc.keys before.classes).Nodup) (wanted : Bool) :
    (Assoc.keys (begin schemaClass wanted before).classes).Nodup := by
  unfold begin
  split
  next => exact Assoc.nodup_keys_putNew unique _ _
  next => exact unique

theorem stored_nodup (own : entry.class? = some schemaClass) {name? : Option Value} {value : Value}
    {classes raw : Fields} {object : Option Key} (unique : (Assoc.keys before.classes).Nodup)
    (stored : store entry schemaClass name? value before.classes = .ok classes)
    (referred : gatherer.refer entry object raw classes before = .ok after) : (Assoc.keys after.classes).Nodup := by
  rw [(grown_of_stored own stored referred).2]
  obtain ⟨content, rfl⟩ := store_put stored
  exact Assoc.nodup_keys_put unique _ content

theorem takeItem_nodup (own : entry.class? = some schemaClass) (unique : (Assoc.keys before.classes).Nodup)
    {raw : Value} (taken : gatherer.takeItem entry schemaClass before raw = .ok after) :
    (Assoc.keys after.classes).Nodup := by
  obtain ⟨fields, rfl | ⟨_, kept⟩⟩ := takeItem_cases taken
  · exact unique
  · rcases keepItem_cases kept with ⟨_, rfl⟩ | ⟨_, _, _, _, stored, referred⟩
    · exact unique
    · exact stored_nodup own unique stored referred

theorem takeAnswer_nodup (unique : (Assoc.keys before.classes).Nodup) {answer? : Option Value}
    (taken : gatherer.takeAnswer before entry answer? = .ok after) : (Assoc.keys after.classes).Nodup := by
  cases own : entry.class? with
  | none =>
    rcases (takeAnswer_classless own taken).2 with same | ⟨fields, _, same⟩
    · rw [same]
      exact unique
    · rw [same]
      exact Assoc.nodup_keys_putAll unique _
  | some schemaClass =>
    unfold takeAnswer at taken
    rw [own] at taken
    split at taken
    next same => cases same; cases taken; exact begin_nodup unique _
    next impossible => cases impossible
    next items same =>
      cases same
      exact Result.foldlM_keeps (fun state => (Assoc.keys state.classes).Nodup)
        (fun raw _ state next holds step => takeItem_nodup own holds step) (begin_nodup unique _) taken
    next fields same =>
      cases same
      rcases takeObject_cases taken with rfl | ⟨_, _, _, _, _, stored, referred⟩
      · exact unique
      · exact stored_nodup own unique stored referred
    next => cases taken; exact unique

theorem keys_finish {catalog : Catalog} {classes final : Fields} (done : gatherer.finish catalog classes = .ok final) :
    Assoc.keys final = Assoc.keys classes :=
  Result.keys_mapM (fun _ _ => finishClass_key) done

theorem takeItem_module {raw : Value}
    (taken : gatherer.takeItem Packaged.provision "Provision" before raw = .ok after) :
    ∃ key value, Assoc.get? after.classes "Provision" =
      some (.object (Assoc.put (Path.inner before.classes "Provision") key value)) := by
  cases raw with
  | object fields =>
    have whole : gatherer.takeItem Packaged.provision "Provision" before (.object fields) =
        gatherer.keepItem Packaged.provision "Provision" before fields := by
      rw [takeItem_object]
      rfl
    rw [whole] at taken
    rcases keepItem_cases taken with ⟨absent, _⟩ | ⟨value, classes, object, _, stored, referred⟩
    · obtain ⟨_, _, rest⟩ := Result.bind_eq_ok.mp absent
      obtain ⟨_, _, rest⟩ := Result.bind_eq_ok.mp rest
      obtain ⟨mapped, _, rest⟩ := Result.bind_eq_ok.mp rest
      cases mapped <;> cases rest
    · obtain ⟨key, _, put⟩ := store_named rfl stored
      rw [(grown_of_stored rfl stored referred).2, put, Assoc.get?_put_self]
      exact ⟨key, value, rfl⟩
  | _ => cases taken

def Filled (field? : Option Value) : Prop :=
  ∃ entry rest, field? = some (.object (entry :: rest))

theorem takeItem_filled {raw : Value} (taken : gatherer.takeItem Packaged.provision "Provision" before raw = .ok after) :
    Filled (Assoc.get? after.classes "Provision") := by
  obtain ⟨key, value, found⟩ := takeItem_module taken
  cases filed : Assoc.put (Path.inner before.classes "Provision") key value with
  | nil =>
    have some := Assoc.isEmpty_put (Path.inner before.classes "Provision") key value
    rw [filed] at some
    cases some
  | cons entry rest => exact ⟨entry, rest, by rw [found, filed]⟩

theorem takeAnswer_filled {item : Value} {items : List Value}
    (taken : gatherer.takeAnswer before Packaged.provision (some (.list (item :: items))) = .ok after) :
    Filled (Assoc.get? after.classes "Provision") := by
  change (item :: items).foldlM (gatherer.takeItem Packaged.provision "Provision") before = .ok after at taken
  rw [List.foldlM_cons] at taken
  obtain ⟨next, here, later⟩ := Result.bind_eq_ok.mp taken
  exact Result.foldlM_keeps (fun state => Filled (Assoc.get? state.classes (.named "Provision")))
    (fun raw _ state next _ step => takeItem_filled step) (takeItem_filled here) later

end Gatherer

theorem Catalog.packaged_modules : ∃ front back, Catalog.packaged.entries = front ++ Packaged.provision :: back ∧
    ∀ entry ∈ back, ∃ schemaClass, entry.class? = some schemaClass ∧ schemaClass ≠ "Provision" := by
  refine ⟨Packaged.systemEntries.take 4, Packaged.systemEntries.drop 5 ++ Packaged.networkEntries ++
    Packaged.clusterEntries ++ Packaged.monitoringEntries ++ Packaged.authenticationEntries ++
    Packaged.servicesEntries ++ Packaged.loadBalancingEntries ++ Packaged.securityEntries, rfl, ?_⟩
  have all : ∀ entry ∈ Packaged.systemEntries.drop 5 ++ Packaged.networkEntries ++
      Packaged.clusterEntries ++ Packaged.monitoringEntries ++ Packaged.authenticationEntries ++
      Packaged.servicesEntries ++ Packaged.loadBalancingEntries ++ Packaged.securityEntries,
      entry.class?.any (· ≠ "Provision") = true := by
    decide +kernel
  intro entry member
  have other := all entry member
  cases own : entry.class? with
  | none =>
    rw [own] at other
    cases other
  | some schemaClass =>
    rw [own] at other
    exact ⟨schemaClass, rfl, of_decide_eq_true other⟩

namespace DeviceReader

variable {reader : DeviceReader} {declaration : Value}

theorem sighted_modules (listed : reader.device.ListsModules) {front back : List Entry}
    (split : reader.catalog.entries = front ++ Packaged.provision :: back) {sighting : Sighting}
    (seen : reader.sighted = .ok sighting) :
    ∃ first item items last, reader.catalog.entries.zip sighting.answers =
      front.zip first ++ (Packaged.provision, some (.list (item :: items))) :: back.zip last := by
  obtain ⟨identity, _, rest⟩ := Result.bind_eq_ok.mp seen
  obtain ⟨version, _, rest⟩ := Result.bind_eq_ok.mp rest
  obtain ⟨provisioned, _, rest⟩ := Result.bind_eq_ok.mp rest
  obtain ⟨tokens, given, rest⟩ := Result.bind_eq_ok.mp rest
  obtain ⟨answers, all, done⟩ := Result.bind_eq_ok.mp rest
  cases done
  rw [split] at all ⊢
  obtain ⟨first, answer, last, here, cut⟩ := Result.zip_of_mapM all
  obtain ⟨value, answered, done⟩ := Result.bind_eq_ok.mp here
  cases done
  obtain ⟨query, asked, answered⟩ := Result.bind_eq_ok.mp answered
  obtain ⟨path, filled, done⟩ := Result.bind_eq_ok.mp asked
  cases done
  have asked : path = modulesPath := fillTokens_free (fun _ => rfl) (fun _ => rfl) (tokensGiven_names given) filled
  have level : "level" ∈ Packaged.provision.requested := by decide
  obtain ⟨item, items, rfl⟩ := listed _ _ asked level answered
  exact ⟨first, item, items, last, cut⟩

/-- What has been read has each class once, and something in the class of the modules. -/
structure Provisioned (classes : Fields) : Prop where
  unique : (Assoc.keys classes).Nodup
  modules : Gatherer.Filled (Assoc.get? classes "Provision")

theorem gathered_provisioned (packaged : reader.catalog = .packaged) (listed : reader.device.ListsModules)
    {sighting : Sighting} (seen : reader.sighted = .ok sighting) {watched : List Key} {gathering : Gathering}
    (gathered : reader.gathered declaration sighting watched = .ok gathering) : Provisioned gathering.classes := by
  constructor
  · refine Result.foldlM_keeps (fun state : Gathering => (Assoc.keys state.classes).Nodup)
      (fun answered _ state next holds step => Gatherer.takeAnswer_nodup holds step) ?_ gathered
    exact List.nodup_nil
  · obtain ⟨front, back, split, others⟩ := Catalog.packaged_modules
    rw [← packaged] at split
    obtain ⟨first, item, items, last, cut⟩ := sighted_modules listed split seen
    unfold DeviceReader.gathered at gathered
    rw [cut, List.foldlM_append] at gathered
    obtain ⟨middle, _, rest⟩ := Result.bind_eq_ok.mp gathered
    rw [List.foldlM_cons] at rest
    obtain ⟨kept, taken, late⟩ := Result.bind_eq_ok.mp rest
    refine Result.foldlM_keeps (fun state => Gatherer.Filled (Assoc.get? state.classes (.named "Provision"))) ?_
      (Gatherer.takeAnswer_filled taken) late
    intro answered member state next holds step
    obtain ⟨schemaClass, own, other⟩ := others _ (List.of_mem_zip member).1
    rw [(Gatherer.takeAnswer_grown own step).classes _ fun same => other (Key.named.inj same).symm]
    exact holds

theorem spliced_nodup {reference : Reference} {mapper : ItemMapper} {result : Value} {current after : Fields}
    (unique : (Assoc.keys current).Nodup) (spliced : reference.spliced mapper result current = .ok after) :
    (Assoc.keys after).Nodup := by
  unfold Reference.spliced at spliced
  dsimp only at spliced
  split at spliced
  next =>
    obtain ⟨value?, _, done⟩ := Result.bind_eq_ok.mp spliced
    cases value? with
    | none => cases done; exact unique
    | some value => cases done; exact Path.nodup_keys_put unique value
  next => cases spliced; exact unique

theorem classesFor_provisioned (packaged : reader.catalog = .packaged) (listed : reader.device.ListsModules)
    {sighting : Sighting} (seen : reader.sighted = .ok sighting) {watched : List Key} {classes : Fields}
    (read : reader.classesFor declaration sighting watched = .ok classes) : Provisioned classes := by
  have apart : ∀ entry ∈ reader.catalog.entries, entry.class? = some "Provision" → entry.references = [] := by
    rw [packaged]
    decide +kernel
  obtain ⟨gathering, gathered, same⟩ := classesFor_frame apart (fun _ _ => rfl) read
  have provisioned := gathered_provisioned packaged listed seen gathered
  obtain ⟨gathering', gathered', rest⟩ := Result.bind_eq_ok.mp read
  obtain rfl : gathering' = gathering := Except.ok.inj (gathered'.symm.trans gathered)
  obtain ⟨resolved, run, finished⟩ := Result.bind_eq_ok.mp rest
  obtain ⟨results, _, run⟩ := Result.bind_eq_ok.mp run
  constructor
  · rw [Gatherer.keys_finish finished]
    exact Result.foldlM_keeps (fun state => (Assoc.keys state).Nodup)
      (fun fetched _ state next holds step => spliced_nodup holds step) provisioned.unique run
  · rw [same]
    exact provisioned.modules

end DeviceReader

/-- A class that the catalog describes and that needs no module. -/
structure Catalog.Standing (catalog : Catalog) (schemaClass : String) : Prop where
  listed : ∃ entry ∈ catalog.entries, entry.class? = some schemaClass
  free : ∀ entry ∈ catalog.entries, entry.class? = some schemaClass → entry.requiredModule = none

namespace Widening

variable {catalog : Catalog} {observed : Value} {common after : Fields}

theorem withVariables_frame (widened : withVariables observed common = .ok after) {key : Key}
    (other : key ≠ "DbVariables") : Assoc.get? after key = Assoc.get? common key := by
  cases observed with
  | object settings =>
    rw [withVariables_object] at widened
    obtain ⟨known, _, done⟩ := Result.bind_eq_ok.mp widened
    cases done
    exact Assoc.get?_put_of_ne (Ne.symm other) known
  | _ => cases widened; rfl

theorem withDisk_frame (widened : withDisk observed common = .ok after) {key : Key} (other : key ≠ "Disk") :
    Assoc.get? after key = Assoc.get? common key := by
  rw [withDisk_eq] at widened
  obtain ⟨size, _, rest⟩ := Result.bind_eq_ok.mp widened
  split at rest
  next => cases rest; rfl
  next =>
    obtain ⟨known, _, compared⟩ := Result.bind_eq_ok.mp rest
    split at compared
    next => cases compared; exact Assoc.get?_put_of_ne (Ne.symm other) _
    next => cases compared; rfl
    next => cases compared

theorem withClasses_standing {schemaClass : String} (standing : catalog.Standing schemaClass) (level : Key × Value)
    (levels : Fields) :
    Assoc.get? (withClasses catalog (.object (level :: levels)) common) schemaClass =
      some ((Assoc.get? common schemaClass).getD .empty) := by
  have modules : ∀ entry ∈ catalog.entries, entry.class? = some schemaClass → given? entry.requiredModule = none :=
    fun entry member own => by rw [standing.free entry member own]; rfl
  change Assoc.get? (catalog.entries.foldl (withClass (level :: levels)) common) schemaClass = _
  rw [get?_foldl_withClass _ common modules, if_pos standing.listed]
  rfl

/-- A baseline that is widened while modules are listed is an object. Its common tenant has every class that needs no
module, as the baseline had it, or with nothing in it. -/
theorem widen_standing (some : catalog.classes.isEmpty = false) {current : Fields}
    (modules : Gatherer.Filled (Assoc.get? current "Provision")) {baseline after : Value}
    (widened : widen catalog current baseline = .ok after) :
    ∃ tenants common, baseline = .object tenants ∧ after = .object (Assoc.put tenants "Common" (.object common)) ∧
      ∀ schemaClass, catalog.Standing schemaClass → schemaClass ≠ "DbVariables" → schemaClass ≠ "Disk" →
        Assoc.get? common schemaClass = .some ((Path.get? ["Common", .named schemaClass] baseline).getD .empty) := by
  obtain ⟨level, levels, provision⟩ := modules
  have provision : current.lookup "Provision" = .object (level :: levels) := by
    rw [Fields.lookup, provision, Option.getD_some]
  obtain ⟨tenants, object, rest⟩ := Result.bind_eq_ok.mp widened
  obtain rfl : baseline = .object tenants := by
    cases baseline with
    | object fields => cases object; rfl
    | _ => cases object
  split at rest
  next common held =>
    obtain ⟨common', run, done⟩ := Result.bind_eq_ok.mp rest
    cases done
    refine ⟨tenants, common', rfl, rfl, fun schemaClass standing notVariables notDisk => ?_⟩
    obtain ⟨first, settings, run⟩ := Result.bind_eq_ok.mp run
    obtain ⟨second, disk, done⟩ := Result.bind_eq_ok.mp run
    cases done
    rw [provision, withClasses_standing standing, withDisk_frame disk fun same => notDisk (Key.named.inj same),
      withVariables_frame settings fun same => notVariables (Key.named.inj same), Path.get?_inner, inner_of_getD held]
  next =>
    have idle : widens catalog current = true := by
      rw [widens, provision, some, Bool.or_eq_true_iff]
      exact .inr rfl
    rw [if_pos idle] at rest
    cases rest

end Widening

end Reconcile
