import Reconcile.Proofs.Declaration.Leaves
import Reconcile.Proofs.Difference.Dropping
import Reconcile.Proofs.Engine.Planning
import Reconcile.Proofs.Observation.Provisioning

/-!
Drift: objects that a device has got beside its declaration and its baseline. In every class of named objects that is
compared, a plan that succeeds deletes exactly these.
-/

namespace Reconcile

/-- Baselines that have each key once, and objects under those classes of the common tenant that have names. -/
structure Catalog.HoldsObjects (catalog : Catalog) (baseline : Value) : Prop where
  proper : baseline.isProper = true
  objects : ∀ schemaClass ∈ catalog.classes, catalog.isNameless schemaClass = false →
    ∀ value, Path.get? ["Common", .named schemaClass] baseline = some value → value.isObject = true

/-- A class whose objects are watched for drift: every device has it, its objects have names, and both reading and
restoring treat it like any other class. -/
structure Catalog.Guarded (catalog : Catalog) (schemaClass : String) : Prop extends catalog.Standing schemaClass where
  described : schemaClass ∈ catalog.classes
  named : catalog.isNameless schemaClass = false
  plain : schemaClass ∉ ["hostname", "System", "Authentication", "DbVariables", "Disk"]

theorem Catalog.packaged_guarded {schemaClass : String} (truth : schemaClass ∈ defaultTruth)
    (described : schemaClass ∈ Catalog.packaged.classes) (named : Catalog.packaged.isNameless schemaClass = false) :
    Catalog.packaged.Guarded schemaClass := by
  have all : ∀ name ∈ defaultTruth, name ∈ Catalog.packaged.classes → Catalog.packaged.isNameless name = false →
      (∃ entry ∈ Catalog.packaged.entries, entry.class? = some name) ∧
        (∀ entry ∈ Catalog.packaged.entries, entry.class? = some name → entry.requiredModule = none) ∧
        name ∉ ["hostname", "System", "Authentication", "DbVariables", "Disk"] := by
    decide +kernel
  obtain ⟨listed, free, plain⟩ := all schemaClass truth described named
  exact ⟨⟨listed, free⟩, described, named, plain⟩

/-- What a read leaves for a comparison: the classes of the device, and a baseline that has an object for every guarded
class of which the device has something. -/
structure Catalog.Surveyed (catalog : Catalog) (state : DeviceState) (classes baseline common : Fields) : Prop where
  seen : state.current = .object [("Common", .object classes)]
  kept : state.baseline = .object baseline
  tenant : Assoc.get? baseline "Common" = some (.object common)
  unique : (Assoc.keys classes).Nodup
  once : (Assoc.keys baseline).Nodup
  objects : ∀ schemaClass, catalog.Guarded schemaClass → ∀ name,
    ((Assoc.get? classes schemaClass).bind (·.get? name)).isSome = true →
      ∃ known, Assoc.get? common schemaClass = some (.object known)

namespace DeviceReader

variable {reader : DeviceReader} {declaration : Value} {state after : DeviceState} {baselines : List (String × Value)}
  {key : String}

theorem stateGiven_provisioned (packaged : reader.catalog = .packaged) (listed : reader.device.ListsModules)
    (given : reader.stateGiven declaration state baselines = .ok (key, after)) :
    ∃ classes, after.current = .object [("Common", .object classes)] ∧ Provisioned classes ∧
      Widening.widen reader.catalog classes (baselineBefore classes state (storedIn baselines key)) =
        .ok after.baseline := by
  obtain ⟨⟨identity, classes⟩, observed, rest⟩ := Result.bind_eq_ok.mp given
  obtain ⟨baseline, widened, done⟩ := Result.bind_eq_ok.mp rest
  cases done
  obtain ⟨sighting, seen, rest⟩ := Result.bind_eq_ok.mp observed
  obtain ⟨known, _, rest⟩ := Result.bind_eq_ok.mp rest
  obtain ⟨declared, _, rest⟩ := Result.bind_eq_ok.mp rest
  obtain ⟨classes', gathered, done⟩ := Result.bind_eq_ok.mp rest
  cases done
  exact ⟨classes, rfl, classesFor_provisioned packaged listed seen gathered, widened⟩

theorem baselineBefore_cases {catalog : Catalog} (stored : ∀ entry ∈ baselines, catalog.HoldsObjects entry.2)
    (known : catalog.HoldsObjects state.baseline) (classes : Fields) (key : String) :
    catalog.HoldsObjects (baselineBefore classes state (storedIn baselines key)) ∨
      baselineBefore classes state (storedIn baselines key) = .object [("Common", .object classes)] := by
  cases found : storedIn baselines key with
  | some baseline =>
    have there := (Option.filter_eq_some_iff.mp found).1
    exact .inl (stored _ (Assoc.mem_of_get? there))
  | none =>
    rw [baselineBefore]
    split
    next => exact .inl known
    next => exact .inr rfl

theorem kept_object {catalog : Catalog} {schemaClass : String} (guarded : catalog.Guarded schemaClass)
    {classes : Fields} {before : Value}
    (kept : catalog.HoldsObjects before ∨ before = .object [("Common", .object classes)]) {name : Key}
    (held : ((Assoc.get? classes schemaClass).bind (·.get? name)).isSome = true) :
    ∃ known, (Path.get? ["Common", .named schemaClass] before).getD .empty = .object known := by
  cases found : Path.get? ["Common", .named schemaClass] before with
  | none => exact ⟨[], rfl⟩
  | some value =>
    have object : value.isObject = true := by
      rcases kept with holds | rfl
      · exact holds.objects _ guarded.described guarded.named value found
      · rw [Path.get?_inner] at found
        change Assoc.get? classes schemaClass = some value at found
        rw [found] at held
        cases value with
        | object => rfl
        | _ => cases held
    cases value with
    | object known => exact ⟨known, rfl⟩
    | _ => cases object

/-- A read that succeeds for a device that lists its modules leaves what a comparison needs. -/
theorem stateGiven_surveyed (packaged : reader.catalog = .packaged) (listed : reader.device.ListsModules)
    (stored : ∀ entry ∈ baselines, reader.catalog.HoldsObjects entry.2)
    (known : reader.catalog.HoldsObjects state.baseline)
    (given : reader.stateGiven declaration state baselines = .ok (key, after)) :
    ∃ classes baseline common, reader.catalog.Surveyed after classes baseline common := by
  obtain ⟨classes, current, provisioned, widened⟩ := stateGiven_provisioned packaged listed given
  have kept := baselineBefore_cases stored known classes key
  generalize baselineBefore classes state (storedIn baselines key) = before at kept widened
  have described : reader.catalog.classes.isEmpty = false := by
    rw [packaged]
    decide +kernel
  obtain ⟨tenants, common, rfl, baseline, room⟩ := Widening.widen_standing described provisioned.modules widened
  have once : (Assoc.keys tenants).Nodup := by
    rcases kept with holds | same
    · exact Value.nodup_of_isProper holds.proper
    · cases same
      exact List.nodup_singleton _
  refine ⟨classes, _, common, current, baseline, Assoc.get?_put_self .., provisioned.unique,
    Assoc.nodup_keys_put once _ _, fun schemaClass guarded name held => ?_⟩
  obtain ⟨known, same⟩ := kept_object guarded kept held
  refine ⟨known, ?_⟩
  rw [room schemaClass guarded.toStanding (fun same => guarded.plain (by simp [same]))
    (fun same => guarded.plain (by simp [same])), same]

end DeviceReader

section Wanted

variable {flattener : Flattener} {root : Value} {schemaClass : String} {leaves : List Leaf}
  (loose : ∀ value, .loose schemaClass value ∉ leaves) {flat : Fields}
  (filed : leaves.foldlM (flattener.file root) [] = .ok flat)

include loose filed

theorem Restoration.lacks_declared (named : flattener.catalog.isNameless schemaClass = false)
    (declared : ∃ key fields, .object schemaClass key fields ∈ leaves) (known? : Option Value) (name : Key) :
    (∃ wanted, mended known? (Assoc.get? flat schemaClass) = some (.object wanted) ∧ Assoc.has wanted name = false) ↔
      ¬∃ fields, .object schemaClass name fields ∈ leaves := by
  obtain ⟨key, fields, member⟩ := declared
  obtain ⟨objects, there, some, names⟩ := Flattener.run_declared named loose filed member
  rw [there, mended_filled some, ← names name, Bool.not_eq_true]
  simp

theorem Restoration.lacks_undeclared (undeclared : ¬∃ key fields, .object schemaClass key fields ∈ leaves)
    (known : Fields) (name : Key) :
    (∃ wanted, mended (some (.object known)) (Assoc.get? flat schemaClass) = some (.object wanted) ∧
      Assoc.has wanted name = false) ↔ Assoc.get? known name = none := by
  have absent := Flattener.run_undeclared loose (fun key fields member => undeclared ⟨key, fields, member⟩) filed
  rw [absent, mended_none]
  simp [Assoc.has_eq_isSome]

end Wanted

namespace Engine

variable {engine : Engine}

theorem planAfter_delta {start plan : Plan} {desired : FlatDeclaration} {desk planned : Desk} {current : Fields}
    (read : desk.state.current = .object current)
    (tenanted : Comparison.Tenanted desired.body current desk.state.baseline)
    (ended : engine.planAfter start desired desk = (planned, .ok plan)) :
    plan.tenants = start.tenants ∧ ∃ delta, plan.delta = some delta ∧
      delta.toDelete = engine.comparison.deletions
        (Restoration.restored engine.truth desk.state.baseline desired.body) current := by
  unfold planAfter at ended
  dsimp only at ended
  rw [(engine.configsTraced_state (.object desired.body) desk).1, read, Comparison.delta_eq tenanted rfl] at ended
  obtain ⟨summary, _, done⟩ := Result.bind_eq_ok.mp (Prod.mk.inj ended).2
  cases done
  exact ⟨rfl, _, rfl, rfl⟩

theorem compares_guarded {schemaClass : String} (guarded : engine.catalog.Guarded schemaClass)
    (truth : schemaClass ∈ engine.truth) :
    engine.comparison.compares schemaClass = true ∧ engine.comparison.isNameless schemaClass = false := by
  have notHost : schemaClass ≠ "hostname" := fun same => guarded.plain (by simp [same])
  refine ⟨by simpa [Comparison.compares, comparison, notHost] using truth, ?_⟩
  simp [Comparison.isNameless, comparison, Catalog.unnamedClasses, guarded.named]

theorem get?_tenant {tenants classes : Fields} {tenant : Key}
    (there : Assoc.get? tenants tenant = some (.object classes)) (schemaClass name : Key) :
    Path.get? [tenant, schemaClass, name] (.object tenants) = (Assoc.get? classes schemaClass).bind (·.get? name) := by
  rw [Path.get?_cons_object, there, Option.bind_some, Path.get?_pair]

theorem get?_common (classes : Fields) (schemaClass name : Key) :
    Path.get? ["Common", schemaClass, name] (.object [("Common", .object classes)]) =
      (Assoc.get? classes schemaClass).bind (·.get? name) :=
  get?_tenant rfl schemaClass name

/-- The names that a comparison deletes from a guarded class, by what is declared and what the baseline has. -/
theorem deletions_guarded {schemaClass : String} (guarded : engine.catalog.Guarded schemaClass)
    (truth : schemaClass ∈ engine.truth) {state : DeviceState} {classes baseline common : Fields}
    (surveyed : engine.catalog.Surveyed state classes baseline common) {body flat : Fields}
    (here : Assoc.get? body "Common" = some (.object flat)) (name : Key) :
    (Path.get? ["Common", .named schemaClass, name] (.object (engine.comparison.deletions
        (Restoration.restored engine.truth state.baseline body) [("Common", .object classes)]))).isSome = true ↔
      ((Assoc.get? classes schemaClass).bind (·.get? name)).isSome = true ∧
        ∃ wanted, Restoration.mended (Assoc.get? common schemaClass) (Assoc.get? flat schemaClass) = some (.object wanted) ∧
          Assoc.has wanted name = false := by
  obtain ⟨compared, named⟩ := compares_guarded guarded truth
  have notSystem : schemaClass ≠ "System" := fun same => guarded.plain (by simp [same])
  have notLogin : schemaClass ≠ "Authentication" := fun same => guarded.plain (by simp [same])
  have present := Restoration.get?_restored engine.truth surveyed.once surveyed.tenant here
  have exact := @Comparison.isSome_get?_deletions engine.comparison _ [("Common", .object classes)] _ "Common"
    (.named schemaClass) surveyed.unique present compared named name
  rw [Restoration.get?_restoreTenant_plain engine.truth notSystem notLogin, if_pos truth, get?_common] at exact
  rw [surveyed.kept]
  exact exact

/-- After every plan that succeeds for a device that lists its modules, the names to delete from a compared class of
named objects are exactly those that the device has and that are not declared, or, if nothing is declared of the class,
that the baseline does not have. -/
theorem drift_deleted (tracer : Option Trace.Tracer) {device : Device} (listed : device.ListsModules)
    {declaration : Value} {desk planned : Desk} {baselines : List (String × Value)}
    (inMemory : desk.store = .memory baselines) (stored : ∀ entry ∈ baselines, Catalog.packaged.HoldsObjects entry.2)
    (known : Catalog.packaged.HoldsObjects desk.state.baseline) {plan : Plan} {transcript : Transcript}
    (run : (Engine.plan ⟨.packaged, defaultTruth, tracer⟩ declaration device desk transcript).1 =
      .ok (planned, .ok plan))
    (success : plan.success = true) (tenant : .named "Common" ∈ plan.tenants)
    (classed : ∀ key value, .loose key value ∈ Leaf.ofTenant declaration "Common" →
      ∀ schemaClass ∈ Catalog.packaged.classes, key ≠ .named schemaClass) :
    ∃ delta, plan.delta = some delta ∧
      ∀ schemaClass ∈ defaultTruth, schemaClass ∈ Catalog.packaged.classes →
        Catalog.packaged.isNameless schemaClass = false → ∀ name,
          let deletes := (Path.get? ["Common", .named schemaClass, name] (.object delta.toDelete)).isSome = true
          let holds := (Path.get? ["Common", .named schemaClass, name] planned.state.current).isSome = true
          ((∃ key declared, .object schemaClass key declared ∈ Leaf.ofTenant declaration "Common") →
            (deletes ↔ holds ∧ ¬∃ declared, .object schemaClass name declared ∈ Leaf.ofTenant declaration "Common")) ∧
          ((¬∃ key declared, .object schemaClass key declared ∈ Leaf.ofTenant declaration "Common") →
            (deletes ↔ holds ∧ Path.get? ["Common", .named schemaClass, name] planned.state.baseline = none)) := by
  generalize made : (⟨.packaged, defaultTruth, tracer⟩ : Engine) = engine at *
  have packaged : engine.catalog = .packaged := made ▸ rfl
  have truth : engine.truth = defaultTruth := made ▸ rfl
  rw [engine.yields_plan inMemory declaration transcript] at run
  obtain ⟨start, desired, ⟨key, after⟩, flattened, tenants, read, ended, _⟩ := engine.planGiven_success run success
  obtain ⟨classes, baseline, common, surveyed⟩ := DeviceReader.stateGiven_surveyed packaged listed
    (by rw [← packaged] at stored; exact stored) (by rw [← packaged] at known; exact known) read
  cases declaration with
  | object fields =>
    obtain ⟨body, flat, done⟩ := Result.bind_eq_ok.mp flattened
    cases done
    have sameDesk := engine.planAfter_desk start ⟨Declaration.tenants fields, body⟩ (deskAfter desk baselines (key, after))
    rw [ended] at sameDesk
    have state : planned.state = after := sameDesk.1
    have tenanted : Comparison.Tenanted body [("Common", .object classes)] after.baseline := by
      refine ⟨Flattener.objects_flattenTenants flat, fun entry _ => ?_, by rw [surveyed.kept]; rfl⟩
      rw [Assoc.get?]
      split <;> rfl
    obtain ⟨sameTenants, delta, carried, deletes⟩ := planAfter_delta surveyed.seen tenanted ended
    rw [sameTenants, tenants] at tenant
    obtain ⟨declared, filed, here⟩ := Flattener.get?_flattenTenants flat tenant
    refine ⟨delta, carried, fun schemaClass among described named name => ?_⟩
    have guarded : engine.catalog.Guarded schemaClass := packaged ▸ Catalog.packaged_guarded among described named
    have loose : ∀ value, .loose schemaClass value ∉ Leaf.ofTenant (.object fields) "Common" :=
      fun value member => classed _ value member schemaClass described rfl
    have deleted := deletions_guarded guarded (truth ▸ among) surveyed here name
    change delta.toDelete = engine.comparison.deletions (Restoration.restored engine.truth after.baseline body) _ at deletes
    dsimp only
    rw [deletes, deleted, state, surveyed.seen, get?_common, surveyed.kept, get?_tenant surveyed.tenant]
    constructor
    · intro some
      exact and_congr_right fun _ => Restoration.lacks_declared loose filed guarded.named some _ name
    · intro undeclared
      refine and_congr_right fun held => ?_
      obtain ⟨known, there⟩ := surveyed.objects schemaClass guarded name held
      rw [there]
      exact Restoration.lacks_undeclared loose filed undeclared known name
  | _ => cases flattened

def oneModule : Device where
  id := oneVlan.id
  identity := oneVlan.identity
  answer query :=
    if query.select.contains "level" then .ok (.list [.object [("name", .text "ltm"), ("level", .text "nominal")]])
    else oneVlan.answer query

theorem oneModule_listed : oneModule.ListsModules := by
  intro query value _ asked answered
  unfold oneModule at answered
  dsimp only at answered
  rw [if_pos (List.contains_iff_mem.mpr asked)] at answered
  cases answered
  exact ⟨_, _, rfl⟩

theorem emptyBaselines_hold : ∀ entry ∈ emptyBaselines, Catalog.packaged.HoldsObjects entry.2 := by
  have objects : ∀ entry ∈ emptyBaselines, ∀ schemaClass ∈ Catalog.packaged.classes,
      (Path.get? ["Common", .named schemaClass] entry.2).all Value.isObject = true := by
    decide +kernel
  refine fun entry member => ⟨?_, fun schemaClass described _ value found => ?_⟩
  · rw [List.mem_singleton.mp member]
    rfl
  · simpa [found] using objects entry member schemaClass described

theorem oneModule_deleted : Result.passes (fun outcome => Result.passes (fun plan =>
      plan.success && plan.tenants.contains "Common" && plan.delta.any fun delta =>
        (Path.get? ["Common", "VLAN", "wire"] (.object delta.toDelete)).isSome) outcome.2)
    (planGiven ⟨.packaged, defaultTruth, none⟩ bareTenant oneModule { store := .memory emptyBaselines } emptyBaselines) =
      true := by
  decide +kernel

/-- The plan is to delete the VLAN, because the device has it, nothing is declared, and the baseline does not have it. -/
theorem drift_deleted_vlan :
    let engine : Engine := ⟨.packaged, defaultTruth, none⟩
    ∃ planned plan delta,
      (engine.plan bareTenant oneModule { store := .memory emptyBaselines } {}).1 = .ok (planned, .ok plan) ∧
      plan.success = true ∧ .named "Common" ∈ plan.tenants ∧ plan.delta = some delta ∧
      (Path.get? ["Common", "VLAN", "wire"] (.object delta.toDelete)).isSome = true ∧
      (Path.get? ["Common", "VLAN", "wire"] planned.state.current).isSome = true ∧
      Path.get? ["Common", "VLAN", "wire"] planned.state.baseline = none := by
  intro engine
  obtain ⟨⟨planned, _⟩, given, made⟩ := Result.of_passes oneModule_deleted
  obtain ⟨plan, rfl, made⟩ := Result.of_passes made
  obtain ⟨both, deletes⟩ := Bool.and_eq_true_iff.mp made
  obtain ⟨success, tenant⟩ := Bool.and_eq_true_iff.mp both
  have run : (engine.plan bareTenant oneModule { store := .memory emptyBaselines } {}).1 = .ok (planned, .ok plan) :=
    (engine.yields_plan rfl bareTenant {}).trans given
  have nothing : Leaf.ofTenant bareTenant "Common" = [] := rfl
  have known : Catalog.packaged.HoldsObjects .null := ⟨rfl, fun _ _ _ _ found => by cases found⟩
  obtain ⟨delta, carried, exact⟩ := drift_deleted none oneModule_listed rfl emptyBaselines_hold known run success
    (List.contains_iff_mem.mp tenant) (by simp [nothing])
  rw [carried, Option.any_some] at deletes
  obtain ⟨_, undeclared⟩ := exact "VLAN" (by decide) (by decide +kernel) (by decide +kernel) "wire"
  have drifted := (undeclared (by simp [nothing])).mp deletes
  exact ⟨planned, plan, delta, run, success, List.contains_iff_mem.mp tenant, carried, deletes, drifted⟩

end Engine

end Reconcile
