import Reconcile.Proofs.Path
import Reconcile.Proofs.Observation.Widening

/-!
What widening a baseline changes, exactly: variables join and stay, the disk grows to what was read, and classes come
and go only while they are empty.
-/

namespace Reconcile.Widening

def commonOf : Value → Fields
  | .object tenants => Path.inner tenants "Common"
  | _ => []

def settingOf? (common : Fields) (name : Key) : Option Value :=
  Assoc.get? (Path.inner common "DbVariables") name

def diskField? (common : Fields) (key : Key) : Option Value :=
  Assoc.get? (Path.inner common "Disk") key

def diskSizeOf (common : Fields) : Nat :=
  match diskField? common "applicationData" with
  | some (.int size) => size.toNat
  | _ => 0

/-- Tenants whose variables and disk are objects and whose disk size, if there is one, is a natural number. -/
structure Shaped (common : Fields) : Prop where
  settings : ∀ value, Assoc.get? common "DbVariables" = some value → value.isObject = true
  disk : ∀ value, Assoc.get? common "Disk" = some value → value.isObject = true
  size : ∀ value, diskField? common "applicationData" = some value → ∃ size : Nat, value = .int size

def Listed (catalog : Catalog) (key : Key) : Prop :=
  ∃ entry ∈ catalog.entries, ∃ name, entry.class? = some name ∧ key = .named name

def Deprovisioned (catalog : Catalog) (current : Fields) (key : Key) : Prop :=
  ∃ entry ∈ catalog.entries, ∃ name module, entry.class? = some name ∧ key = .named name ∧
    entry.requiredModule = some module ∧
    Assoc.get? (Path.inner current "Provision") module = some (.text "none")

/-- What may become of a class: it stays as it is, an empty one goes with its module, and one of the catalog is made
room for. -/
inductive Settled (catalog : Catalog) (current : Fields) (key : Key) : Option Value → Option Value → Prop where
  | kept (value? : Option Value) : Settled catalog current key value? value?
  | withdrawn (module : Deprovisioned catalog current key) : Settled catalog current key (some .empty) none
  | placed (listed : Listed catalog key) : Settled catalog current key none (some .empty)

/-- What widening by a configuration makes of the common tenant of a baseline. -/
structure Evolves (catalog : Catalog) (current common after : Fields) : Prop where
  classes : ∀ key : Key, key ≠ "DbVariables" → key ≠ "Disk" →
    Settled catalog current key (Assoc.get? common key) (Assoc.get? after key)
  settings : ∀ name, settingOf? after name = (settingOf? common name).or (settingOf? current name)
  disk : ∀ key : Key, key ≠ "applicationData" → diskField? after key = diskField? common key
  size : diskField? after "applicationData" =
    if 0 < diskSizeOf current then some (.int (max (diskSizeOf common) (diskSizeOf current) : Nat))
    else diskField? common "applicationData"

theorem inner_congr {common other : Fields} {key : Key} (same : Assoc.get? common key = Assoc.get? other key) :
    Path.inner common key = Path.inner other key := by
  rw [Path.inner, same, Path.inner]

theorem getD_empty_eq_inner {common : Fields} {key : Key}
    (object : ∀ value, Assoc.get? common key = some value → value.isObject = true) :
    (Assoc.get? common key).getD .empty = .object (Path.inner common key) := by
  unfold Path.inner
  cases found : Assoc.get? common key with
  | none => rfl
  | some value =>
    cases value with
    | object fields => rfl
    | _ => cases object _ found

theorem inner_of_getD {common inner : Fields} {key : Key}
    (held : (Assoc.get? common key).getD .empty = .object inner) : Path.inner common key = inner := by
  unfold Path.inner
  cases found : Assoc.get? common key with
  | none =>
    rw [found] at held
    cases held
    rfl
  | some value =>
    rw [found, Option.getD_some] at held
    rw [held]

theorem foldlM_addVariable (settings known : Fields) :
    ∃ after, settings.foldlM addVariable (.object known) = .ok (.object after) ∧
      ∀ name, Assoc.get? after name = (Assoc.get? known name).or (Assoc.get? settings name) := by
  induction settings generalizing known with
  | nil => exact ⟨known, rfl, fun name => (Option.or_none).symm⟩
  | cons entry rest ih =>
    obtain ⟨key, value⟩ := entry
    by_cases present : Assoc.has known key = true
    · obtain ⟨after, run, names⟩ := ih known
      have step : addVariable (.object known) (key, value) = .ok (.object known) := by
        simp only [addVariable, Value.mentions, present]
        rfl
      refine ⟨after, by rw [List.foldlM_cons, step]; exact run, fun name => ?_⟩
      rw [names, Assoc.get?]
      split
      next same =>
        subst same
        rw [Assoc.has_eq_isSome] at present
        rw [Option.or_of_isSome present, Option.or_of_isSome present]
      next => rfl
    · obtain ⟨after, run, names⟩ := ih (Assoc.put known key value)
      have step : addVariable (.object known) (key, value) = .ok (.object (Assoc.put known key value)) := by
        simp only [addVariable, Value.mentions, present]
        rfl
      refine ⟨after, by rw [List.foldlM_cons, step]; exact run, fun name => ?_⟩
      rw [names, Assoc.get?_put, Assoc.get?]
      split
      next same =>
        subst same
        rw [Assoc.has_eq_isSome, Option.isSome_iff_ne_none, not_not] at present
        rw [present]
        rfl
      next => rfl

theorem withVariables_evolves {current common : Fields} (shaped : Shaped common)
    (read : ∀ value, Assoc.get? current "DbVariables" = some value → value.isObject = true) :
    ∃ after, withVariables (current.lookup "DbVariables") common = .ok after ∧
      (∀ key : Key, key ≠ "DbVariables" → Assoc.get? after key = Assoc.get? common key) ∧
      (∀ value, Assoc.get? after "DbVariables" = some value → value.isObject = true) ∧
      ∀ name, settingOf? after name = (settingOf? common name).or (settingOf? current name) := by
  cases found : Assoc.get? current "DbVariables" with
  | none =>
    have nothing : ∀ name, settingOf? current name = none := fun name => by
      rw [settingOf?, Path.inner, found, Assoc.get?_nil]
    refine ⟨common, ?_, fun _ _ => rfl, shaped.settings, fun name => ?_⟩
    · rw [Fields.lookup, found]
      rfl
    · rw [nothing, Option.or_none]
  | some value =>
    cases value with
    | object settings =>
      obtain ⟨known, run, names⟩ := foldlM_addVariable settings (Path.inner common "DbVariables")
      refine ⟨Assoc.put common "DbVariables" (.object known), ?_, ?_, ?_, fun name => ?_⟩
      · rw [Fields.lookup, found, Option.getD_some, withVariables_object, getD_empty_eq_inner shaped.settings, run]
        rfl
      · exact fun key other => Assoc.get?_put_of_ne (Ne.symm other) _
      · intro value same
        rw [Assoc.get?_put_self] at same
        cases same
        rfl
      · rw [settingOf?, Path.inner_put_self, names, settingOf?, settingOf?]
        simp only [Path.inner, found]
    | _ => cases read _ found

theorem less?_natural (left right : Nat) : (Value.int left).less? (.int right) = some (decide (left < right)) := by
  simp [Value.less?, Value.ratio?, Ratio.less, Ratio.ofInt]

theorem diskSizeOf_spec {common : Fields} (shaped : Shaped common) :
    (diskField? common "applicationData" = none ∧ diskSizeOf common = 0) ∨
      diskField? common "applicationData" = some (.int (diskSizeOf common)) := by
  unfold diskSizeOf
  cases found : diskField? common "applicationData" with
  | none => exact .inl ⟨rfl, rfl⟩
  | some value =>
    obtain ⟨size, rfl⟩ := shaped.size value found
    exact .inr rfl

theorem orElse_empty_eq_inner {common : Fields} {key : Key}
    (object : ∀ value, Assoc.get? common key = some value → value.isObject = true) :
    (common.lookup key).orElse .empty = .object (Path.inner common key) := by
  unfold Fields.lookup Path.inner
  cases found : Assoc.get? common key with
  | none => rfl
  | some value =>
    cases value with
    | object fields => cases fields <;> rfl
    | _ => cases object _ found

theorem lookup_size {common : Fields} (shaped : Shaped common) :
    ((Path.inner common "Disk").lookup "applicationData").orElse (.int 0) = .int (diskSizeOf common) := by
  have same : (Path.inner common "Disk").lookup "applicationData" =
      (diskField? common "applicationData").getD .null := rfl
  rw [same]
  rcases diskSizeOf_spec shaped with ⟨absent, zero⟩ | found
  · rw [absent, zero]
    rfl
  · rw [found, Option.getD_some, Value.orElse]
    split
    next => rfl
    next zero => 
      have : (diskSizeOf common : Int) = 0 := by simpa [Value.truthy] using zero
      rw [this]

theorem withDisk_shaped {current common : Fields} (shaped : Shaped common) (read : Shaped current) :
    withDisk (current.lookup "Disk") common = .ok
      (if diskSizeOf common < diskSizeOf current then
        Assoc.put common "Disk"
          (.object (Assoc.put (Path.inner common "Disk") "applicationData" (.int (diskSizeOf current))))
      else common) := by
  have asked : ((current.lookup "Disk").orElse .empty).field "applicationData" =
      .ok ((diskField? current "applicationData").getD .null) := by
    rw [orElse_empty_eq_inner read.disk]
    rfl
  rw [withDisk_eq, asked, Result.ok_bind, diskOf, orElse_empty_eq_inner shaped.disk]
  rcases diskSizeOf_spec read with ⟨absent, zero⟩ | found
  · rw [absent, zero, if_neg (Nat.not_lt_zero _)]
    rfl
  · rw [found, Option.getD_some]
    by_cases zero : diskSizeOf current = 0
    · rw [zero, if_neg (Nat.not_lt_zero _)]
      rfl
    · have given : (Value.int (diskSizeOf current)).truthy = true := by simp [Value.truthy, zero]
      simp only [given, Bool.not_true, Bool.false_eq_true, ↓reduceIte, Value.fieldsOrFail, Result.ok_bind,
        lookup_size shaped, less?_natural]
      by_cases grows : diskSizeOf common < diskSizeOf current
      · simp only [grows, decide_true, if_true]
        rfl
      · simp only [grows, decide_false, if_false]
        rfl

theorem withDisk_evolves {current common : Fields} (shaped : Shaped common) (read : Shaped current) :
    ∃ after, withDisk (current.lookup "Disk") common = .ok after ∧
      (∀ key : Key, key ≠ "Disk" → Assoc.get? after key = Assoc.get? common key) ∧
      (∀ value, Assoc.get? after "Disk" = some value → value.isObject = true) ∧
      (∀ key : Key, key ≠ "applicationData" → diskField? after key = diskField? common key) ∧
      diskField? after "applicationData" =
        if 0 < diskSizeOf current then some (.int (max (diskSizeOf common) (diskSizeOf current) : Nat))
        else diskField? common "applicationData" := by
  refine ⟨_, withDisk_shaped shaped read, ?_⟩
  by_cases grows : diskSizeOf common < diskSizeOf current
  · rw [if_pos grows]
    refine ⟨fun key other => Assoc.get?_put_of_ne (Ne.symm other) _, ?_, fun key other => ?_, ?_⟩
    · intro value same
      rw [Assoc.get?_put_self] at same
      cases same
      rfl
    · rw [diskField?, Path.inner_put_self, Assoc.get?_put_of_ne (Ne.symm other), diskField?]
    · rw [diskField?, Path.inner_put_self, Assoc.get?_put_self, if_pos (Nat.zero_lt_of_lt grows)]
      rw [Nat.max_eq_right (Nat.le_of_lt grows)]
  · rw [if_neg grows]
    refine ⟨fun _ _ => rfl, shaped.disk, fun _ _ => rfl, ?_⟩
    split
    next positive =>
      rcases diskSizeOf_spec shaped with ⟨_, zero⟩ | found
      · omega
      · rw [found, Nat.max_eq_left (Nat.le_of_not_lt grows)]
    next => rfl

theorem get?_foldl_of_ne_named {key : Key} (unlike : ∀ name, .named name ≠ key) (entries : List Entry)
    (levels common : Fields) :
    Assoc.get? (entries.foldl (withClass levels) common) key = Assoc.get? common key := by
  induction entries generalizing common with
  | nil => rfl
  | cons entry rest ih =>
    rw [List.foldl_cons, ih]
    cases own : entry.class? with
    | none => rw [withClass, own]
    | some name =>
      rw [withClass_eq levels common own]
      split
      next => rw [Assoc.get?_putNew, if_neg (unlike name)]
      next =>
        split
        next => exact Assoc.get?_erase_of_ne (unlike name)
        next => rfl

theorem eq_text_of_spells {value : Value} {content : String} (spells : value.spells content = true) :
    value = .text content := by
  cases value with
  | text other => rw [beq_iff_eq.mp spells]
  | _ => cases spells

theorem settleClass_settled {catalog : Catalog} {current levels : Fields} {entry : Entry} {name : String}
    (member : entry ∈ catalog.entries) (own : entry.class? = some name)
    (provision : Assoc.get? current "Provision" = some (.object levels)) (field? : Option Value) :
    Settled catalog current name field? (settleClass levels (given? entry.requiredModule) field?) := by
  unfold settleClass
  split
  next =>
    cases field? with
    | none => exact .placed ⟨entry, member, name, own, rfl⟩
    | some value => exact .kept _
  next =>
    split
    next gone =>
      obtain ⟨bare, listed⟩ := Bool.and_eq_true_iff.mp gone
      match field? with
      | some (.object []) =>
        cases needed : given? entry.requiredModule with
        | none =>
          rw [needed] at listed
          cases listed
        | some module =>
          have required : entry.requiredModule = some module := (Option.filter_eq_some_iff.mp needed).1
          rw [needed, Option.map_some, Option.getD_some, isDeprovisioned] at listed
          split at listed
          next level found =>
            refine .withdrawn ⟨entry, member, name, module, own, rfl, required, ?_⟩
            rw [Path.inner, provision, found, eq_text_of_spells listed]
          next => cases listed
    next => exact .kept _

theorem withClasses_settled {catalog : Catalog} (coherent : catalog.Coherent) (current common : Fields) (key : Key) :
    Settled catalog current key (Assoc.get? common key)
      (Assoc.get? (withClasses catalog (current.lookup "Provision") common) key) := by
  cases found : Assoc.get? current "Provision" with
  | none =>
    rw [Fields.lookup, found]
    exact .kept _
  | some provision =>
    rw [Fields.lookup, found, Option.getD_some]
    match provision with
    | .object [] => exact .kept _
    | .object (level :: levels) =>
      have fold : withClasses catalog (.object (level :: levels)) common =
          catalog.entries.foldl (withClass (level :: levels)) common := rfl
      rw [fold]
      cases key with
      | named name =>
        by_cases listed : ∃ entry ∈ catalog.entries, entry.class? = some name
        · have ⟨entry, member, own⟩ := listed
          have modules : ∀ other ∈ catalog.entries, other.class? = some name →
              given? other.requiredModule = given? entry.requiredModule := fun other inside same => by
            rw [coherent.modules other inside entry member (same.trans own.symm)]
          rw [get?_foldl_withClass _ common modules, if_pos listed]
          exact settleClass_settled member own found _
        · have modules : ∀ other ∈ catalog.entries, other.class? = some name →
              given? other.requiredModule = none := fun other inside same => absurd ⟨other, inside, same⟩ listed
          rw [get?_foldl_withClass _ common modules, if_neg listed]
          exact .kept _
      | _ =>
        rw [get?_foldl_of_ne_named (fun _ => Key.noConfusion)]
        exact .kept _
    | .null | .bool _ | .int _ | .real _ | .text _ | .list _ => exact .kept _

theorem Settled.inner_eq {catalog : Catalog} {current common after : Fields} {key : Key}
    (settled : Settled catalog current key (Assoc.get? common key) (Assoc.get? after key)) :
    Path.inner after key = Path.inner common key := by
  unfold Path.inner
  generalize Assoc.get? common key = before?, Assoc.get? after key = after? at settled ⊢
  cases settled <;> rfl

theorem Settled.isObject {catalog : Catalog} {current : Fields} {key : Key} {before? after? : Option Value}
    (settled : Settled catalog current key before? after?)
    (object : ∀ value, before? = some value → value.isObject = true) :
    ∀ value, after? = some value → value.isObject = true := by
  cases settled with
  | kept => exact object
  | withdrawn => exact fun _ absent => by cases absent
  | placed =>
    intro value same
    cases same
    rfl

/-- Widening a tenant of the expected shape always works, and leaves one of that shape. -/
theorem widenTenant_evolves {catalog : Catalog} (coherent : catalog.Coherent) {current common : Fields}
    (read : Shaped current) (shaped : Shaped common) :
    ∃ after, widenTenant catalog current common = .ok after ∧ Evolves catalog current common after ∧ Shaped after := by
  obtain ⟨first, widened, others, settings, names⟩ := withVariables_evolves shaped read.settings
  have diskFirst : ∀ key, diskField? first key = diskField? common key := fun key => by
    rw [diskField?, inner_congr (others "Disk" (by decide)), diskField?]
  have sizeFirst : diskSizeOf first = diskSizeOf common := by rw [diskSizeOf, diskFirst, diskSizeOf]
  have shapedFirst : Shaped first := by
    refine ⟨settings, fun value same => shaped.disk value ?_, fun value same => shaped.size value ?_⟩
    · rw [← others "Disk" (by decide), same]
    · rw [← diskFirst, same]
  obtain ⟨second, grown, apart, disk, fields, size⟩ := withDisk_evolves shapedFirst read
  have settled := withClasses_settled coherent current second
  refine ⟨_, by rw [widenTenant, widened, Result.ok_bind, grown, Result.ok_bind]; rfl, ⟨?_, ?_, ?_, ?_⟩, ⟨?_, ?_, ?_⟩⟩
  · intro key notSettings notDisk
    rw [← others key notSettings, ← apart key notDisk]
    exact settled key
  · intro name
    rw [settingOf?, (settled "DbVariables").inner_eq, inner_congr (apart "DbVariables" (by decide))]
    exact names name
  · intro key other
    rw [diskField?, (settled "Disk").inner_eq, ← diskFirst]
    exact fields key other
  · rw [diskField?, (settled "Disk").inner_eq, ← diskFirst, ← sizeFirst]
    exact size
  · refine (settled "DbVariables").isObject fun value same => settings value ?_
    rw [← apart "DbVariables" (by decide), same]
  · exact (settled "Disk").isObject disk
  · intro value same
    rw [diskField?, (settled "Disk").inner_eq] at same
    rw [← diskField?, size] at same
    split at same
    next => exact ⟨_, (Option.some.inj same).symm⟩
    next => exact shapedFirst.size value same

theorem diskSizeOf_eq_zero {current : Fields} (read : Shaped current)
    (silent : tellsSize (current.lookup "Disk") = false) : diskSizeOf current = 0 := by
  rcases diskSizeOf_spec read with ⟨_, zero⟩ | size
  · exact zero
  · unfold diskField? Path.inner at size
    unfold Fields.lookup at silent
    cases found : Assoc.get? current "Disk" with
    | none =>
      rw [found] at size
      cases size
    | some value =>
      rw [found] at size silent
      cases value with
      | object disk =>
        rw [Option.getD_some, tellsSize, Fields.lookup, size, Option.getD_some] at silent
        simpa [Value.truthy] using silent
      | _ => cases size

theorem evolves_self {catalog : Catalog} {current : Fields} (read : Shaped current)
    (idle : widens catalog current = false) (common : Fields) : Evolves catalog current common common := by
  simp only [widens, Bool.or_eq_false_iff] at idle
  obtain ⟨⟨settings, disk⟩, -⟩ := idle
  constructor
  · exact fun _ _ _ => .kept _
  · intro name
    have nothing : settingOf? current name = none := by
      cases found : Assoc.get? current "DbVariables" with
      | none => rw [settingOf?, Path.inner, found, Assoc.get?_nil]
      | some value =>
        rw [Fields.lookup, found, Option.getD_some, read.settings value found] at settings
        cases settings
    rw [nothing, Option.or_none]
  · exact fun _ _ => rfl
  · rw [diskSizeOf_eq_zero read disk, if_neg (Nat.lt_irrefl 0)]

/-- What widening a baseline makes of it. -/
structure Evolution (catalog : Catalog) (current : Fields) (baseline after : Value) : Prop where
  tenants : ∀ tenant : Key, tenant ≠ "Common" → after.get? tenant = baseline.get? tenant
  common : Evolves catalog current (commonOf baseline) (commonOf after)

theorem widen_evolution {catalog : Catalog} (coherent : catalog.Coherent) {current : Fields} {baseline after : Value}
    (read : Shaped current) (shaped : Shaped (commonOf baseline))
    (widened : widen catalog current baseline = .ok after) :
    Evolution catalog current baseline after ∧ Shaped (commonOf after) := by
  obtain ⟨tenants, object, rest⟩ := Result.bind_eq_ok.mp widened
  obtain rfl : baseline = .object tenants := by
    cases baseline with
    | object fields =>
      cases object
      rfl
    | _ => cases object
  split at rest
  next common held =>
    have same : commonOf (.object tenants) = common := inner_of_getD held
    rw [same] at shaped
    obtain ⟨common', run, evolves, kept⟩ := widenTenant_evolves coherent read shaped
    rw [run] at rest
    cases rest
    have now : commonOf (.object (Assoc.put tenants "Common" (.object common'))) = common' :=
      Path.inner_put_self tenants "Common" common'
    refine ⟨⟨fun tenant other => Assoc.get?_put_of_ne (Ne.symm other) _, ?_⟩, ?_⟩
    · rw [same, now]
      exact evolves
    · rw [now]
      exact kept
  next =>
    split at rest
    next => cases rest
    next idle =>
      cases rest
      exact ⟨⟨fun _ _ => rfl, evolves_self read (Bool.eq_false_iff.mpr idle) _⟩, shaped⟩

theorem Settled.keeps {catalog : Catalog} {current : Fields} {key : Key} {before? after? : Option Value}
    (settled : Settled catalog current key before? after?) {value : Value} (filled : value ≠ .empty)
    (found : before? = some value) : after? = some value := by
  cases settled with
  | kept => exact found
  | withdrawn => exact absurd (Option.some.inj found).symm filled
  | placed => cases found

theorem Evolves.diskSizeOf_le {catalog : Catalog} {current common after : Fields}
    (evolves : Evolves catalog current common after) : diskSizeOf common ≤ diskSizeOf after := by
  have size := evolves.size
  split at size
  next =>
    have now : diskSizeOf after = max (diskSizeOf common) (diskSizeOf current) := by
      rw [diskSizeOf, size]
      exact Int.toNat_natCast _
    rw [now]
    exact Nat.le_max_left ..
  next =>
    have now : diskSizeOf after = diskSizeOf common := by rw [diskSizeOf, size, diskSizeOf]
    exact Nat.le_of_eq now.symm

end Reconcile.Widening
