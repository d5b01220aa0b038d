import Reconcile.Proofs.Difference.Touching

/-!
A comparison keeps to the classes in charge. Any other class is written as desired and appears in no change, and
what the device has there, or in tenants that are not desired, has no influence on the outcome.
-/

namespace Reconcile

namespace Path

theorem get?_put_class {tenant schemaClass : Key} (rest : Path) (value : Value) (fields : Fields)
    (tenant' : Key) {schemaClass' : Key} (differ : schemaClass ≠ schemaClass') :
    get? [tenant', schemaClass'] (.object (put (tenant :: schemaClass :: rest) value fields)) =
      get? [tenant', schemaClass'] (.object fields) := by
  apply get?_put_apart
  by_cases same : tenant = tenant'
  · exact same ▸ apart_cons.mpr (apart_of_head_ne differ rest [])
  · exact apart_of_head_ne same (schemaClass :: rest) [schemaClass']

end Path

namespace Comparison

variable {comparison : Comparison}

theorem concerns_ofField (tenant key : Key) (left : Value) (right? : Option Value) :
    (Change.ofField [tenant] key left right?).filter comparison.concerns =
      if comparison.compares key then Change.ofField [tenant] key left right? else [] := by
  have all : ∀ change ∈ Change.ofField [tenant] key left right?,
      comparison.concerns change = comparison.compares key := by
    intro change member
    cases right? with
    | none =>
      rw [List.mem_singleton.mp member]
      rfl
    | some right =>
      have place := Change.between_under [tenant, key] [] left right
      rw [List.append_nil] at place
      rw [Change.ofField, List.singleton_append, place, List.mem_map] at member
      obtain ⟨inner, _, rfl⟩ := member
      rfl
  cases compared : comparison.compares key with
  | true => exact List.filter_eq_self.mpr fun change member => (all change member).trans compared
  | false =>
    apply List.filter_eq_nil_iff.mpr
    intro change member reported
    rw [all change member, compared] at reported
    cases reported

theorem concerns_betweenFields (tenant : Key) (rights lefts : Fields) :
    (Change.betweenFields [tenant] rights lefts).filter comparison.concerns =
      Change.betweenFields [tenant] rights (lefts.filter fun entry => comparison.compares entry.1) := by
  induction lefts with
  | nil => rfl
  | cons entry rest ih =>
    obtain ⟨key, left⟩ := entry
    rw [Change.betweenFields_cons, List.filter_append, concerns_ofField, ih, List.filter_cons]
    cases compared : comparison.compares key with
    | true => exact (Change.betweenFields_cons ..).symm
    | false => rfl

theorem concerns_created (tenant : Key) (lefts rights : Fields) :
    (Change.created [tenant] lefts rights).filter comparison.concerns =
      Change.created [tenant] (lefts.filter fun entry => comparison.compares entry.1)
        (rights.filter fun entry => comparison.compares entry.1) := by
  simp only [Change.created, List.filter_map, List.filter_filter]
  congr 1
  apply List.filter_congr
  intro entry _
  simp only [Assoc.has_eq_isSome, Assoc.get?_filter lefts comparison.compares]
  cases compared : comparison.compares entry.1 <;> simp [concerns, compared]

theorem concerns_tenant (tenant : Key) (lefts rights : Fields) :
    (Change.between [tenant] (.object lefts) (.object rights)).filter comparison.concerns =
      Change.betweenFields [tenant] rights (lefts.filter fun entry => comparison.compares entry.1) ++
        Change.created [tenant] (lefts.filter fun entry => comparison.compares entry.1)
          (rights.filter fun entry => comparison.compares entry.1) := by
  rw [Change.between_object, List.filter_append, concerns_betweenFields, concerns_created]

/-- Whether two configurations have the same in the compared classes of some tenants. -/
def SameInCharge (comparison : Comparison) (tenants : List Key) (current other : Fields) : Prop :=
  ∀ tenant ∈ tenants, (Path.inner current tenant).filter (fun entry => comparison.compares entry.1) =
    (Path.inner other tenant).filter fun entry => comparison.compares entry.1

theorem concerns_before {target current other : Fields} (objects : ∀ entry ∈ target, entry.2.isObject = true)
    {tenants : Fields} (same : comparison.SameInCharge (Assoc.keys tenants) current other) :
    (Change.betweenFields [] target (before tenants current)).filter comparison.concerns =
      (Change.betweenFields [] target (before tenants other)).filter comparison.concerns := by
  induction tenants with
  | nil => rfl
  | cons entry rest ih =>
    obtain ⟨tenant, _⟩ := entry
    rw [Assoc.keys_cons] at same
    have ⟨here, others⟩ := List.forall_mem_cons.mp same
    simp only [before, List.map_cons, Change.betweenFields_cons, List.filter_append]
    rw [← before, ← before, ih others]
    cases found : Assoc.get? target tenant with
    | none => rfl
    | some value =>
      cases value with
      | object classes => rw [Change.ofField, Change.ofField, List.nil_append, concerns_tenant, concerns_tenant, here]
      | _ => cases objects _ (Assoc.mem_of_get? found)

variable {target current other : Fields}

theorem found_congr (objects : ∀ entry ∈ target, entry.2.isObject = true)
    (same : comparison.SameInCharge (Assoc.keys target) current other) :
    comparison.found target current = comparison.found target other := by
  have created : Change.created [] (before target current) target = Change.created [] (before target other) target := by
    simp only [Change.created, Assoc.has_eq_isSome, get?_before, Option.isSome_map]
  rw [found, found, Change.between_object, Change.between_object, List.filter_append, List.filter_append,
    concerns_before objects same, created]

theorem worked_congr (objects : ∀ entry ∈ target, entry.2.isObject = true)
    (same : comparison.SameInCharge (Assoc.keys target) current other) {tenant schemaClass : Key}
    (compared : comparison.compares schemaClass = true) :
    Path.get? [tenant, schemaClass] (.object (comparison.worked target current)) =
      Path.get? [tenant, schemaClass] (.object (comparison.worked target other)) := by
  have start : Path.get? [tenant, schemaClass] (.object (before target current)) =
      Path.get? [tenant, schemaClass] (.object (before target other)) := by
    rw [Path.get?_pair, Path.get?_pair, get?_before, get?_before]
    cases found : Assoc.get? target tenant with
    | none => rfl
    | some value =>
      have here := same tenant (Assoc.mem_keys_iff.mpr (by rw [found]; rfl))
      have seen := Assoc.get?_filter (Path.inner current tenant) comparison.compares schemaClass
      rw [here, Assoc.get?_filter _ comparison.compares, compared] at seen
      exact seen.symm
  rw [worked, worked, get?_replay_class, get?_replay_class, start, found_congr objects same]

theorem compares_of_touched {entry : Touched} (member : entry ∈ comparison.touched target current) :
    comparison.compares entry.schemaClass = true := by
  have named : (entry.tenant, entry.schemaClass) ∈ Assoc.keys (entries (comparison.touched target current)) := by
    rw [Assoc.keys, entries, List.map_map]
    exact List.mem_map_of_mem member
  rw [Assoc.mem_keys_iff, get?_touched] at named
  cases below : Change.below entry.schemaClass (Change.below entry.tenant (comparison.found target current)) with
  | nil =>
    rw [below] at named
    cases named
  | cons change rest =>
    obtain ⟨path, edit⟩ := change
    have here : ⟨path, edit⟩ ∈ Change.below entry.schemaClass
        (Change.below entry.tenant (comparison.found target current)) := below ▸ List.mem_cons_self ..
    rw [Change.mem_below, Change.mem_below] at here
    obtain ⟨tenant, schemaClass, tail, same, compared⟩ := path_of_mem_found here
    obtain ⟨-, rfl, -⟩ : entry.tenant = tenant ∧ entry.schemaClass = schemaClass ∧ path = tail := by simpa using same
    exact compared

theorem updates_congr (objects : ∀ entry ∈ target, entry.2.isObject = true)
    (same : comparison.SameInCharge (Assoc.keys target) current other) :
    comparison.updates target current = comparison.updates target other := by
  have touchedSame : comparison.touched target current = comparison.touched target other := by
    rw [touched, touched, found_congr objects same]
  have keptSame : comparison.kept target current = comparison.kept target other := by
    rw [kept, kept, touchedSame]
  rw [updates, updates, ← touchedSame, ← keptSame]
  apply List.foldl_ext
  intro update entry member
  have seen : Path.get? [entry.tenant, entry.schemaClass] (.object (comparison.worked target current)) =
      Path.get? [entry.tenant, entry.schemaClass] (.object (comparison.worked target other)) :=
    worked_congr objects same (compares_of_touched member)
  rw [updateOf, updateOf, seen]

theorem below_uncompared (tenant : Key) {key : Key} (outside : comparison.compares key = false) :
    Change.below key (Change.below tenant (comparison.found target current)) = [] := by
  rw [List.eq_nil_iff_forall_not_mem]
  rintro ⟨path, edit⟩ member
  rw [Change.mem_below, Change.mem_below] at member
  obtain ⟨_, schemaClass, _, same, compared⟩ := path_of_mem_found member
  obtain ⟨-, rfl, -⟩ : tenant = _ ∧ key = schemaClass ∧ path = _ := by simpa using same
  rw [outside] at compared
  cases compared

theorem noteDeleted_uncompared {change : Change} {tenant schemaClass : Key} {rest : Path}
    (path : change.path = tenant :: schemaClass :: rest) (toDelete : Fields) (tenant' : Key) {key : Key}
    (differ : schemaClass ≠ key) :
    Path.get? [tenant', key] (.object (comparison.noteDeleted toDelete change)) =
      Path.get? [tenant', key] (.object toDelete) := by
  unfold noteDeleted
  split
  next outer schemaClass' name _ same =>
    obtain ⟨rfl, rfl, rfl⟩ : tenant = outer ∧ schemaClass = schemaClass' ∧ rest = [name] := by
      simpa [path] using same
    split
    next => rfl
    next => exact Path.get?_put_class _ _ _ _ differ
  next => rfl

theorem deletions_spared {tenant key : Key}
    (spared : ∀ change ∈ comparison.found target current, ∀ toDelete : Fields,
      Path.get? [tenant, key] (.object (comparison.noteDeleted toDelete change)) =
        Path.get? [tenant, key] (.object toDelete)) :
    Path.get? [tenant, key] (.object (comparison.deletions target current)) = none := by
  have run : ∀ changes : List Change, (∀ change ∈ changes, change ∈ comparison.found target current) →
      ∀ start : Fields, Path.get? [tenant, key] (.object (changes.foldl comparison.noteDeleted start)) =
        Path.get? [tenant, key] (.object start) := by
    intro changes
    induction changes with
    | nil => exact fun _ _ => rfl
    | cons change rest ih =>
      intro members start
      have ⟨first, others⟩ := List.forall_mem_cons.mp members
      rw [List.foldl_cons, ih others, spared change first]
  rw [deletions, run _ fun change member => member, Path.get?_pair, Assoc.get?_map target (fun _ _ => Value.empty)]
  cases Assoc.get? target tenant <;> rfl

theorem deletions_uncompared (tenant : Key) {key : Key} (outside : comparison.compares key = false) :
    Path.get? [tenant, key] (.object (comparison.deletions target current)) = none := by
  apply deletions_spared
  intro change member toDelete
  obtain ⟨_, schemaClass, _, path, compared⟩ := path_of_mem_found member
  apply noteDeleted_uncompared path toDelete tenant
  rintro rfl
  rw [outside] at compared
  cases compared

variable {desired : Fields} {baseline : Value}

/-- A comparison keeps to the classes in charge, among which the host name never is. Every other class of a desired
tenant is written exactly as desired, no change and no deletion names it, and the whole outcome is the same for any
other current configuration that has the same in the compared classes of the desired tenants. -/
theorem delta_isolated (comparison : Comparison) (tenanted : Tenanted desired current baseline) :
    comparison.compares "hostname" = false ∧ ∃ target delta,
      comparison.wanted (.object desired) baseline = .ok (.object target) ∧
      comparison.delta (.object desired) (.object current) baseline = .ok delta ∧
      (∀ tenant key, comparison.compares key = false →
        Path.get? [tenant, key] (.object delta.toUpdate) = Path.get? [tenant, key] (.object target)) ∧
      (∀ change ∈ delta.changes, ∃ tenant schemaClass rest,
        change.path = tenant :: schemaClass :: rest ∧ comparison.compares schemaClass = true) ∧
      (∀ tenant key, comparison.compares key = false →
        Path.get? [tenant, key] (.object delta.toDelete) = none) ∧
      ∀ other, Tenanted desired other baseline → comparison.SameInCharge (Assoc.keys desired) current other →
        comparison.delta (.object desired) (.object other) baseline = .ok delta := by
  have names := Restoration.keys_restored comparison.truth baseline desired
  have objects := Restoration.objects_restored comparison.truth baseline tenanted.objects
  have wanted : comparison.wanted (.object desired) baseline =
      .ok (.object (Restoration.restored comparison.truth baseline desired)) := wanted_object tenanted
  generalize restored : Restoration.restored comparison.truth baseline desired = target at *
  refine ⟨rfl, target, _, wanted, delta_eq tenanted restored, ?_, ?_, ?_, ?_⟩
  · intro tenant key outside
    rw [get?_updates, get?_touched, below_uncompared tenant outside]
    exact (get?_kept objects tenant key).trans (if_pos (.inl outside))
  · exact fun change member => path_of_mem_found member
  · exact fun tenant key outside => deletions_uncompared tenant outside
  · intro other tenantedOther same
    rw [← names] at same
    rw [delta_eq tenantedOther restored, deletions, deletions, found_congr objects same, updates_congr objects same]

/-- A pool of the device, which no comparison looks at, and a tenant that is not desired make no difference. -/
theorem delta_isolated_pool :
    let desired : Fields := [("Common", .object [("DNS", .object [("search", .null)]), ("hostname", .text "north")])]
    let current : Fields := [("Common", .object [("DNS", .empty)])]
    let other : Fields := [("Spare", .int 1), ("Common", .object [("Pool", .int 2), ("DNS", .empty)])]
    Tenanted desired current .null ∧ Tenanted desired other .null ∧
      Comparison.delta {} (.object desired) (.object other) .null =
        Comparison.delta {} (.object desired) (.object current) .null := by
  intro desired current other
  have tenanted : Tenanted desired current .null := ⟨by decide, by decide, rfl⟩
  have tenantedOther : Tenanted desired other .null := ⟨by decide, by decide, rfl⟩
  refine ⟨tenanted, tenantedOther, ?_⟩
  obtain ⟨-, target, delta, -, outcome, -, -, -, sameFor⟩ := delta_isolated {} tenanted
  rw [outcome]
  apply sameFor other tenantedOther
  intro tenant member
  obtain rfl : tenant = "Common" := by simpa [desired] using member
  rfl

end Comparison

end Reconcile
