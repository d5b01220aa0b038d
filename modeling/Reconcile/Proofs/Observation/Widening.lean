import Reconcile.Catalog.Packaged
import Reconcile.Observation.Widening
import Reconcile.Proofs.Document
import Reconcile.Proofs.Result

/-!
Widening a baseline is idempotent: what has been widened by a configuration is not widened further by it. Each of the
three ways of widening comes to rest after one step, and the later ones do not disturb the earlier ones.
-/

namespace Reconcile

namespace Value

theorem lessItems?_self {items : List Value} (proper : (Value.list items).isProper = true) :
    lessItems? items items = some false := by
  rw [isProper_list] at proper
  induction items with
  | nil => rfl
  | cons item rest ih =>
    have ⟨first, others⟩ := List.forall_mem_cons.mp proper
    rw [lessItems?, looseEq, equalBy_self true item first, if_pos rfl, ih others]

theorem less?_self {known size : Value} {before : Bool} (compared : known.less? size = some before)
    (proper : size.isList = true → size.isProper = true) : size.less? size = some false := by
  cases size with
  | null => cases known <;> simp [less?, ratio?] at compared
  | object fields => cases known <;> simp [less?, ratio?] at compared
  | text content => simp [less?]
  | list items =>
    rw [less?]
    exact lessItems?_self (proper rfl)
  | bool flag => simp [less?, ratio?, Ratio.less]
  | int number => simp [less?, ratio?, Ratio.less]
  | real number => simp [less?, ratio?, Ratio.less]

end Value

/-- Catalogs in which entries of one class need the same module, and variables and disks need none. -/
structure Catalog.Coherent (catalog : Catalog) : Prop where
  modules : ∀ entry ∈ catalog.entries, ∀ other ∈ catalog.entries,
    entry.class? = other.class? → entry.requiredModule = other.requiredModule
  forVariables : ∀ entry ∈ catalog.entries, entry.class? = some "DbVariables" → entry.requiredModule = none
  forDisk : ∀ entry ∈ catalog.entries, entry.class? = some "Disk" → entry.requiredModule = none

theorem Catalog.packaged_coherent : Catalog.packaged.Coherent where
  modules := by decide +kernel
  forVariables := by decide +kernel
  forDisk := by decide +kernel

namespace Widening

def addVariable (known : Value) (entry : Key × Value) : Result Value := do
  if ← known.mentions entry.1 then return known else known.putOrFail entry.1 entry.2

theorem withVariables_object (settings common : Fields) :
    withVariables (.object settings) common =
      (settings.foldlM addVariable ((Assoc.get? common "DbVariables").getD .empty) >>= fun known =>
        .ok (Assoc.put common "DbVariables" known)) := rfl

theorem addVariable_mentions {known next : Value} {entry : Key × Value} (added : addVariable known entry = .ok next) :
    next.mentions entry.1 = .ok true ∧
      ∀ other, known.mentions other = .ok true → next.mentions other = .ok true := by
  obtain ⟨present, mentioned, done⟩ := Result.bind_eq_ok.mp added
  cases present with
  | true =>
    cases done
    exact ⟨mentioned, fun _ holds => holds⟩
  | false =>
    cases known with
    | object fields =>
      cases done
      constructor
      · simp [Value.mentions, Assoc.has_eq_isSome]
      · intro other holds
        simp only [Value.mentions, Assoc.has_eq_isSome, Except.ok.injEq] at holds ⊢
        rw [Assoc.get?_put]
        split
        next => rfl
        next => exact holds
    | _ => cases done

theorem foldlM_mentions {settings : Fields} {known next : Value}
    (added : settings.foldlM addVariable known = .ok next) :
    (∀ entry ∈ settings, next.mentions entry.1 = .ok true) ∧
      ∀ other, known.mentions other = .ok true → next.mentions other = .ok true := by
  induction settings generalizing known with
  | nil =>
    cases added
    exact ⟨fun _ member => (List.not_mem_nil member).elim, fun _ holds => holds⟩
  | cons entry rest ih =>
    rw [List.foldlM_cons] at added
    obtain ⟨middle, first, later⟩ := Result.bind_eq_ok.mp added
    have ⟨mentioned, kept⟩ := addVariable_mentions first
    have ⟨others, keptLater⟩ := ih later
    exact ⟨List.forall_mem_cons.mpr ⟨keptLater _ mentioned, others⟩,
      fun other holds => keptLater other (kept other holds)⟩

theorem foldlM_eq_self {settings : Fields} {known : Value}
    (mentioned : ∀ entry ∈ settings, known.mentions entry.1 = .ok true) :
    settings.foldlM addVariable known = .ok known := by
  induction settings with
  | nil => rfl
  | cons entry rest ih =>
    have ⟨first, others⟩ := List.forall_mem_cons.mp mentioned
    have step : addVariable known entry = .ok known := by
      rw [addVariable, first]
      rfl
    rw [List.foldlM_cons, step]
    exact ih others

/-- Whether a tenant has all variables that were read. -/
def KnowsVariables (observed : Value) (common : Fields) : Prop :=
  ∀ settings, observed = .object settings → ∃ known, Assoc.get? common "DbVariables" = some known ∧
    ∀ entry ∈ settings, known.mentions entry.1 = .ok true

theorem withVariables_knows {observed : Value} {common after : Fields}
    (widened : withVariables observed common = .ok after) : KnowsVariables observed after := by
  rintro settings rfl
  rw [withVariables_object] at widened
  obtain ⟨known, added, done⟩ := Result.bind_eq_ok.mp widened
  cases done
  exact ⟨known, Assoc.get?_put_self .., (foldlM_mentions added).1⟩

theorem withVariables_eq_self {observed : Value} {common : Fields} (knows : KnowsVariables observed common) :
    withVariables observed common = .ok common := by
  cases observed with
  | object settings =>
    obtain ⟨known, found, mentioned⟩ := knows settings rfl
    rw [withVariables_object, found, Option.getD_some, foldlM_eq_self mentioned, Result.ok_bind,
      Assoc.put_eq_self found]
  | _ => rfl

def diskOf (common : Fields) : Value :=
  (common.lookup "Disk").orElse .empty

/-- Whether the disk that was read has a size, and if so, whether the tenant has a disk of that size or a larger one. -/
def KnowsDisk (observed : Value) (common : Fields) : Prop :=
  ∃ size, (observed.orElse .empty).field "applicationData" = .ok size ∧
    (size.truthy = true → ∃ known, diskOf common = .object known ∧
      ((Fields.lookup known "applicationData").orElse (.int 0)).less? size = some false)

theorem withDisk_eq (observed : Value) (common : Fields) :
    withDisk observed common = (do
      let size ← (observed.orElse .empty).field "applicationData"
      if !size.truthy then return common
      let known ← (diskOf common).fieldsOrFail
      match ((Fields.lookup known "applicationData").orElse (.int 0)).less? size with
      | some true => return Assoc.put common "Disk" (.object (Assoc.put known "applicationData" size))
      | some false => return common
      | none => .error .wrongKind) := rfl

theorem withDisk_eq_self {observed : Value} {common : Fields} (knows : KnowsDisk observed common) :
    withDisk observed common = .ok common := by
  obtain ⟨size, read, enough⟩ := knows
  rw [withDisk_eq, read, Result.ok_bind]
  cases given : size.truthy with
  | false => rfl
  | true =>
    obtain ⟨known, disk, notLess⟩ := enough given
    rw [disk]
    simp only [Value.fieldsOrFail, Result.ok_bind, notLess]
    rfl

theorem withDisk_knows {observed : Value} {common after : Fields} (widened : withDisk observed common = .ok after)
    (proper : ∀ size, (observed.orElse .empty).field "applicationData" = .ok size → size.isList = true →
      size.isProper = true) :
    KnowsDisk observed after ∧ ∀ key : Key, key ≠ "Disk" → Assoc.get? after key = Assoc.get? common key := by
  rw [withDisk_eq] at widened
  obtain ⟨size, read, rest⟩ := Result.bind_eq_ok.mp widened
  cases given : size.truthy with
  | false =>
    simp only [given] at rest
    cases rest
    exact ⟨⟨size, read, fun truthy => by rw [given] at truthy; cases truthy⟩, fun _ _ => rfl⟩
  | true =>
    simp only [given, Bool.not_true, Bool.false_eq_true, ↓reduceIte] at rest
    obtain ⟨known, disk, compare⟩ := Result.bind_eq_ok.mp rest
    have held : diskOf common = .object known := by
      cases same : diskOf common with
      | object fields =>
        rw [same] at disk
        cases disk
        rfl
      | _ => rw [same] at disk; cases disk
    cases compared : ((Fields.lookup known "applicationData").orElse (.int 0)).less? size with
    | none =>
      rw [compared] at compare
      cases compare
    | some less =>
      rw [compared] at compare
      cases less with
      | false =>
        cases compare
        exact ⟨⟨size, read, fun _ => ⟨known, held, compared⟩⟩, fun _ _ => rfl⟩
      | true =>
        cases compare
        have grown : diskOf (Assoc.put common "Disk" (.object (Assoc.put known "applicationData" size))) =
            .object (Assoc.put known "applicationData" size) := by
          rw [diskOf, Fields.lookup, Assoc.get?_put_self, Option.getD_some, Value.orElse, Value.truthy,
            Assoc.isEmpty_put]
          rfl
        refine ⟨⟨size, read, fun _ => ⟨_, grown, ?_⟩⟩, fun key other => Assoc.get?_put_of_ne (Ne.symm other) _⟩
        rw [Fields.lookup, Assoc.get?_put_self, Option.getD_some, Value.orElse, if_pos given]
        exact Value.less?_self compared (proper size read)

def isBare : Option Value → Bool
  | some (.object []) => true
  | _ => false

/-- What a class becomes: it gets room where its module has a level, or where it needs none, and an empty one goes
with its module. -/
def settleClass (levels : Fields) (module? : Option String) (field? : Option Value) : Option Value :=
  if (module?.map (isProvisioned levels)).getD true then some (field?.getD .empty)
  else if isBare field? && (module?.map (isDeprovisioned levels)).getD false then none
  else field?

theorem settleClass_again (levels : Fields) (module? : Option String) (field? : Option Value) :
    settleClass levels module? (settleClass levels module? field?) = settleClass levels module? field? := by
  unfold settleClass
  cases (module?.map (isProvisioned levels)).getD true with
  | true => rfl
  | false =>
    cases goes : isBare field? && (module?.map (isDeprovisioned levels)).getD false with
    | true => rfl
    | false => simp only [goes, Bool.false_eq_true, ↓reduceIte]

theorem withClass_eq (levels common : Fields) {entry : Entry} {name : String} (own : entry.class? = some name) :
    withClass levels common entry =
      if ((given? entry.requiredModule).map (isProvisioned levels)).getD true then Assoc.putNew common name .empty
      else if isBare (Assoc.get? common name) &&
        ((given? entry.requiredModule).map (isDeprovisioned levels)).getD false then Assoc.erase common name
      else common := by
  rw [withClass, own]
  refine ite_congr rfl (fun _ => rfl) fun _ => ?_
  cases Assoc.get? common name with
  | none => rfl
  | some value =>
    cases value with
    | object fields => cases fields <;> rfl
    | _ => rfl

theorem get?_withClass_same (levels common : Fields) {entry : Entry} {name : String}
    (same : entry.class? = some name) :
    Assoc.get? (withClass levels common entry) name =
      settleClass levels (given? entry.requiredModule) (Assoc.get? common name) := by
  rw [withClass_eq levels common same, settleClass]
  split
  next => rw [Assoc.get?_putNew, if_pos rfl]
  next =>
    split
    next => rw [Assoc.get?_erase, if_pos rfl]
    next => rfl

theorem get?_withClass_other (levels common : Fields) {entry : Entry} {name : String}
    (other : entry.class? ≠ some name) :
    Assoc.get? (withClass levels common entry) name = Assoc.get? common name := by
  cases own : entry.class? with
  | none => rw [withClass, own]
  | some schemaClass =>
    have differ : (schemaClass : Key) ≠ name := by
      rintro same
      rw [own, Key.named.inj same] at other
      exact other rfl
    rw [withClass_eq levels common own]
    split
    next => rw [Assoc.get?_putNew, if_neg differ]
    next =>
      split
      next => exact Assoc.get?_erase_of_ne differ
      next => rfl

theorem withClass_eq_self {levels common : Fields} {entry : Entry} {name : String} (same : entry.class? = some name)
    (settled : settleClass levels (given? entry.requiredModule) (Assoc.get? common name) = Assoc.get? common name) :
    withClass levels common entry = common := by
  unfold settleClass at settled
  rw [withClass_eq levels common same]
  split at settled
  next available =>
    rw [if_pos available]
    exact Assoc.putNew_eq_self (by rw [Assoc.has_eq_isSome, ← settled]; rfl)
  next missing =>
    rw [if_neg missing]
    split at settled
    next gone => rw [if_pos gone, Assoc.erase_eq_self settled.symm]
    next stays => rw [if_neg stays]

/-- The classes one after the other: each class that has an entry is settled, once and for all. -/
theorem get?_foldl_withClass {entries : List Entry} (levels common : Fields) {name : String} {module? : Option String}
    (modules : ∀ entry ∈ entries, entry.class? = some name → given? entry.requiredModule = module?) :
    Assoc.get? (entries.foldl (withClass levels) common) name =
      if ∃ entry ∈ entries, entry.class? = some name then settleClass levels module? (Assoc.get? common name)
      else Assoc.get? common name := by
  induction entries generalizing common with
  | nil => simp
  | cons entry rest ih =>
    obtain ⟨first, others⟩ := List.forall_mem_cons.mp modules
    rw [List.foldl_cons, ih _ others]
    by_cases here : entry.class? = some name
    · have some : ∃ other ∈ entry :: rest, other.class? = some name := ⟨entry, List.mem_cons_self .., here⟩
      rw [get?_withClass_same levels common here, first here, if_pos some, settleClass_again, ite_self]
    · have later : (∃ other ∈ entry :: rest, other.class? = some name) ↔ ∃ other ∈ rest, other.class? = some name := by
        simp [here]
      rw [get?_withClass_other levels common here]
      simp only [later]

theorem foldl_withClass_again {catalog : Catalog} (coherent : catalog.Coherent) (levels common : Fields) :
    catalog.entries.foldl (withClass levels) (catalog.entries.foldl (withClass levels) common) =
      catalog.entries.foldl (withClass levels) common := by
  apply Result.foldl_eq_self
  intro entry member
  cases own : entry.class? with
  | none => rw [withClass, own]
  | some name =>
    have modules : ∀ other ∈ catalog.entries, other.class? = some name →
        given? other.requiredModule = given? entry.requiredModule := by
      intro other otherMember otherOwn
      rw [coherent.modules other otherMember entry member (otherOwn.trans own.symm)]
    apply withClass_eq_self own
    rw [get?_foldl_withClass levels common modules, if_pos ⟨entry, member, own⟩, settleClass_again]

theorem withClasses_again {catalog : Catalog} (coherent : catalog.Coherent) (observed : Value) (common : Fields) :
    withClasses catalog observed (withClasses catalog observed common) = withClasses catalog observed common := by
  cases observed with
  | object levels =>
    cases levels with
    | nil => rfl
    | cons entry rest => exact foldl_withClass_again coherent (entry :: rest) common
  | _ => rfl

theorem get?_withClasses {catalog : Catalog} (observed : Value) (common : Fields) {name : String}
    (free : ∀ entry ∈ catalog.entries, entry.class? = some name → entry.requiredModule = none) :
    Assoc.get? (withClasses catalog observed common) name = Assoc.get? common name ∨
      Assoc.get? (withClasses catalog observed common) name = some ((Assoc.get? common name).getD .empty) := by
  have modules : ∀ entry ∈ catalog.entries, entry.class? = some name → given? entry.requiredModule = none :=
    fun entry member own => by rw [free entry member own]; rfl
  cases observed with
  | object levels =>
    cases levels with
    | nil => exact .inl rfl
    | cons entry rest =>
      rw [withClasses, get?_foldl_withClass (entry :: rest) common modules]
      · split
        next => exact .inr rfl
        next => exact .inl rfl
      · simp
  | _ => exact .inl rfl

theorem KnowsVariables.congr {observed : Value} {common other : Fields} (knows : KnowsVariables observed common)
    (kept : ∀ known, Assoc.get? common "DbVariables" = some known → Assoc.get? other "DbVariables" = some known) :
    KnowsVariables observed other := by
  intro settings same
  obtain ⟨known, found, mentioned⟩ := knows settings same
  exact ⟨known, kept known found, mentioned⟩

theorem KnowsDisk.congr {observed : Value} {common other : Fields} (knows : KnowsDisk observed common)
    (same : diskOf other = diskOf common) : KnowsDisk observed other := by
  obtain ⟨size, read, enough⟩ := knows
  exact ⟨size, read, same ▸ enough⟩

def SizeProper (current : Fields) : Prop :=
  ∀ size, ((current.lookup "Disk").orElse .empty).field "applicationData" = .ok size → size.isList = true →
    size.isProper = true

theorem widenTenant_again {catalog : Catalog} (coherent : catalog.Coherent) {current common after : Fields}
    (proper : SizeProper current) (widened : widenTenant catalog current common = .ok after) :
    widenTenant catalog current after = .ok after := by
  obtain ⟨first, settings, rest⟩ := Result.bind_eq_ok.mp widened
  obtain ⟨second, disk, done⟩ := Result.bind_eq_ok.mp rest
  cases done
  have ⟨knowsDisk, others⟩ := withDisk_knows disk proper
  -- What the variables and the disk have gained is not undone by the steps after them.
  have knowsVariables : KnowsVariables (current.lookup "DbVariables")
      (withClasses catalog (current.lookup "Provision") second) := by
    apply (withVariables_knows settings).congr
    intro known found
    have before : Assoc.get? second "DbVariables" = some known := (others "DbVariables" (by decide)).trans found
    rcases get?_withClasses (current.lookup "Provision") second coherent.forVariables with same | same
    · rw [same, before]
    · rw [same, before, Option.getD_some]
  have knowsDisk' : KnowsDisk (current.lookup "Disk") (withClasses catalog (current.lookup "Provision") second) := by
    apply knowsDisk.congr
    rcases get?_withClasses (current.lookup "Provision") second coherent.forDisk with same | same
    · rw [diskOf, Fields.lookup, same]
      rfl
    · rw [diskOf, Fields.lookup, same, diskOf, Fields.lookup]
      cases Assoc.get? second "Disk" <;> rfl
  rw [widenTenant, withVariables_eq_self knowsVariables, Result.ok_bind, withDisk_eq_self knowsDisk', Result.ok_bind,
    withClasses_again coherent]
  rfl

theorem widen_cases {catalog : Catalog} {current : Fields} {baseline after : Value}
    (widened : widen catalog current baseline = .ok after) :
    (∃ tenants common common', after = .object (Assoc.put tenants "Common" (.object common')) ∧
        widenTenant catalog current common = .ok common') ∨
      (∃ tenants, after = .object tenants ∧ after = baseline) := by
  obtain ⟨tenants, object, rest⟩ := Result.bind_eq_ok.mp widened
  obtain rfl : baseline = .object tenants := by
    cases baseline with
    | object fields =>
      cases object
      rfl
    | _ => cases object
  split at rest
  next common _ =>
    obtain ⟨common', done, same⟩ := Result.bind_eq_ok.mp rest
    cases same
    exact .inl ⟨tenants, common, common', rfl, done⟩
  next =>
    split at rest
    next => cases rest
    next =>
      cases rest
      exact .inr ⟨tenants, rfl, rfl⟩

theorem widen_object {catalog : Catalog} {current : Fields} {baseline after : Value}
    (widened : widen catalog current baseline = .ok after) : ∃ tenants, after = .object tenants := by
  rcases widen_cases widened with ⟨tenants, _, common, same, _⟩ | ⟨tenants, same, _⟩
  · exact ⟨_, same⟩
  · exact ⟨_, same⟩

/-- Widening a baseline a second time by the same configuration changes nothing. -/
theorem widen_again {catalog : Catalog} (coherent : catalog.Coherent) {current : Fields} {baseline after : Value}
    (proper : SizeProper current) (widened : widen catalog current baseline = .ok after) :
    widen catalog current after = .ok after := by
  rcases widen_cases widened with ⟨tenants, common, common', rfl, done⟩ | ⟨_, _, rfl⟩
  · have again := widenTenant_again coherent proper done
    simp only [widen, Value.fieldsOrFail, Result.ok_bind, Assoc.get?_put_self, Option.getD_some, again]
    rw [Assoc.put_eq_self (Assoc.get?_put_self ..)]
    rfl
  · exact widened

end Widening

end Reconcile
