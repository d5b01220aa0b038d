import Reconcile.Difference.Delta
import Reconcile.Proofs.Difference.Between
import Reconcile.Proofs.Difference.Restoration
import Reconcile.Proofs.Result

/-!
What a comparison finds. When the tenants are objects it always has an outcome, and below a class of a desired tenant
it finds the changes between what the two sides have there, if the class is compared, and none otherwise.
-/

namespace Reconcile

namespace Comparison

def wanted (comparison : Comparison) (desired baseline : Value) : Result Value :=
  if baseline.truthy then Restoration.restore comparison.truth desired baseline else .ok desired

/-- What a comparison relies on: desired tenants are objects, the current ones objects or nothing, and the baseline
is an object or not given. -/
structure Tenanted (desired current : Fields) (baseline : Value) : Prop where
  objects : ∀ entry ∈ desired, entry.2.isObject = true
  held : ∀ entry ∈ desired, ((Assoc.get? current entry.1).all fun value => value.isObject || !value.truthy) = true
  known : (baseline.isObject || !baseline.truthy) = true

def before (target current : Fields) : Fields :=
  target.map fun entry => (entry.1, .object (Path.inner current entry.1))

def found (comparison : Comparison) (target current : Fields) : List Change :=
  (Change.between [] (.object (before target current)) (.object target)).filter comparison.concerns

def worked (comparison : Comparison) (target current : Fields) : Fields :=
  Change.replay (comparison.found target current) (before target current)

def touched (comparison : Comparison) (target current : Fields) : List Touched :=
  (comparison.found target current).foldl comparison.touch []

def kept (comparison : Comparison) (target current : Fields) : Fields :=
  target.map fun entry => (entry.1, .object
    (comparison.passedThrough (comparison.touched target current) entry.1 (entry.2.fields?.getD [])))

def updates (comparison : Comparison) (target current : Fields) : Fields :=
  (comparison.touched target current).foldl (fun update entry =>
    Path.put [entry.tenant, entry.schemaClass]
      (comparison.updateOf (.object (comparison.worked target current)) entry) update)
    (comparison.kept target current)

def deletions (comparison : Comparison) (target current : Fields) : Fields :=
  (comparison.found target current).foldl comparison.noteDeleted (target.map fun entry => (entry.1, .empty))

theorem currentTenant_object (current : Fields) (tenant : Key)
    (held : ((Assoc.get? current tenant).all fun value => value.isObject || !value.truthy) = true) :
    currentTenant (.object current) tenant = .ok (.object (Path.inner current tenant)) := by
  cases current with
  | nil => rfl
  | cons entry rest =>
    have value : ((Fields.lookup (entry :: rest) tenant).orElse .empty) =
        .object (Path.inner (entry :: rest) tenant) := by
      rw [Fields.lookup, Path.inner_eq_inside]
      cases found : Assoc.get? (entry :: rest) tenant with
      | none => rfl
      | some value =>
        rw [found] at held
        cases value with
        | object fields => cases fields <;> rfl
        | _ => simp_all [Value.isObject, Value.orElse, Path.inside, Value.fields?, Value.empty]
    exact congrArg Except.ok value

variable {comparison : Comparison} {desired current : Fields} {baseline : Value}

theorem wanted_object (tenanted : Tenanted desired current baseline) :
    comparison.wanted (.object desired) baseline =
      .ok (.object (Restoration.restored comparison.truth baseline desired)) := by
  unfold wanted
  have known := tenanted.known
  cases baseline with
  | object fields =>
    split
    next => exact Restoration.restore_object comparison.truth fields desired
    next empty =>
      have none : fields = [] := by simpa [Value.truthy] using empty
      rw [none]
      rfl
  | _ =>
    split
    next given => simp_all [Value.isObject]
    next => rfl

theorem before_eq_mapM {target : Fields}
    (held : ∀ entry ∈ target,
      ((Assoc.get? current entry.1).all fun value => value.isObject || !value.truthy) = true) :
    target.mapM (fun entry => (do return (entry.1, ← currentTenant (.object current) entry.1) : Result (Key × Value))) =
      .ok (before target current) := by
  induction target with
  | nil => rfl
  | cons entry rest ih =>
    rw [List.mapM_cons, currentTenant_object current entry.1 (held entry (List.mem_cons_self ..)),
      ih fun other member => held other (List.mem_cons_of_mem _ member)]
    rfl

theorem inside_found (target : Fields) : Change.Inside (comparison.found target current) :=
  (Change.inside_between _ _).filter _

theorem delta_of_wanted {desired wanted : Value} (current : Fields)
    (restored : comparison.wanted desired baseline = .ok wanted) :
    comparison.delta desired (.object current) baseline = comparison.delta wanted (.object current) .null := by
  unfold Comparison.wanted at restored
  unfold delta
  by_cases given : baseline.truthy = true
  · rw [if_pos given] at restored
    simp only [given, ↓reduceIte, restored]
    rfl
  · rw [if_neg given, Except.ok.injEq] at restored
    simp only [given, restored]
    rfl

theorem delta_eq (tenanted : Tenanted desired current baseline) {target : Fields}
    (restored : Restoration.restored comparison.truth baseline desired = target) :
    comparison.delta (.object desired) (.object current) baseline =
      .ok ⟨comparison.updates target current, comparison.deletions target current,
        comparison.found target current⟩ := by
  have objects : ∀ entry ∈ target, entry.2.isObject = true :=
    restored ▸ Restoration.objects_restored comparison.truth baseline tenanted.objects
  have names : Assoc.keys target = Assoc.keys desired := restored ▸ Restoration.keys_restored _ _ _
  have held : ∀ entry ∈ target,
      ((Assoc.get? current entry.1).all fun value => value.isObject || !value.truthy) = true := by
    intro entry member
    have named : entry.1 ∈ Assoc.keys desired := names ▸ List.mem_map_of_mem member
    obtain ⟨other, otherMember, same⟩ := List.mem_map.mp named
    exact same ▸ tenanted.held other otherMember
  have all : target.filter (fun entry => entry.2.isObject) = target := List.filter_eq_self.mpr objects
  rw [delta_of_wanted current (restored ▸ wanted_object tenanted)]
  unfold delta
  simp only [Value.truthy, Bool.false_eq_true, ↓reduceIte, Result.pure_eq_ok, Result.ok_bind, Value.fieldsOrFail, all]
  have starts := before_eq_mapM held
  simp only [Result.pure_eq_ok] at starts
  have run : (comparison.found target current).foldlM (fun document change => change.apply document)
      (Value.object (before target current)) = .ok (.object (comparison.worked target current)) :=
    Change.foldlM_apply (inside_found target) _
  unfold found at run
  rw [starts, Result.ok_bind, run]
  rfl

def covers (comparison : Comparison) (change : Change) : Bool :=
  match change.path with
  | schemaClass :: _ => comparison.compares schemaClass
  | [] => false

theorem below_concerns (tenant : Key) (changes : List Change) :
    Change.below tenant (changes.filter comparison.concerns) =
      (Change.below tenant changes).filter comparison.covers := by
  rw [Change.below, Change.below, List.filterMap_filter, List.filter_filterMap]
  congr 1
  funext change
  obtain ⟨path, edit⟩ := change
  rcases path with _ | ⟨head, _ | ⟨schemaClass, rest⟩⟩
  · rfl
  · by_cases same : head = tenant <;> simp [Change.below?, concerns, covers, same, Option.filter]
  · cases compared : comparison.compares schemaClass <;>
      by_cases same : head = tenant <;> simp [Change.below?, concerns, covers, same, compared, Option.filter]

theorem below_covers (schemaClass : Key) (changes : List Change) :
    Change.below schemaClass (changes.filter comparison.covers) =
      if comparison.compares schemaClass then Change.below schemaClass changes else [] := by
  have seen (change : Change) : (if comparison.covers change then Change.below? schemaClass change else none) =
      if comparison.compares schemaClass then Change.below? schemaClass change else none := by
    obtain ⟨path, edit⟩ := change
    cases path with
    | nil => simp [Change.below?]
    | cons head rest =>
      by_cases same : head = schemaClass <;> simp [Change.below?, covers, same]
  rw [Change.below, List.filterMap_filter, funext seen]
  split
  next => rfl
  next => simp

theorem inside_below_found (target : Fields) (tenant : Key) :
    Change.Inside (Change.below tenant (comparison.found target current)) := by
  intro change member empty
  rw [found, below_concerns, List.mem_filter] at member
  simp [covers, empty] at member

theorem path_of_mem_found {target : Fields} {change : Change} (member : change ∈ comparison.found target current) :
    ∃ tenant schemaClass rest, change.path = tenant :: schemaClass :: rest ∧
      comparison.compares schemaClass = true := by
  have concerned := (List.mem_filter.mp member).2
  obtain ⟨path, edit⟩ := change
  rcases path with _ | ⟨tenant, _ | ⟨schemaClass, rest⟩⟩
  · cases concerned
  · cases concerned
  · exact ⟨tenant, schemaClass, rest, rfl, concerned⟩

/-- What a replay leaves in a class depends only on the changes below it. -/
theorem get?_replay_class (target start : Fields) (tenant schemaClass : Key) :
    Path.get? [tenant, schemaClass] (.object (Change.replay (comparison.found target current) start)) =
      Change.settle (Change.below schemaClass (Change.below tenant (comparison.found target current)))
        (Path.get? [tenant, schemaClass] (.object start)) := by
  rw [Path.get?_pair, Path.get?_pair, Change.get?_replay (inside_found target),
    Change.settle_get? (inside_below_found target tenant)]

theorem get?_before (target current : Fields) (tenant : Key) :
    Assoc.get? (before target current) tenant =
      (Assoc.get? target tenant).map fun _ => .object (Path.inner current tenant) :=
  Assoc.get?_map target (fun tenant _ => Value.object (Path.inner current tenant)) tenant

theorem keys_before (target current : Fields) : Assoc.keys (before target current) = Assoc.keys target :=
  Assoc.keys_map target fun tenant _ => Value.object (Path.inner current tenant)

/-- Both sides of a comparison with each key once, the tenants of the desired one being objects. -/
structure Proper (target current : Fields) : Prop where
  objects : ∀ entry ∈ target, entry.2.isObject = true
  target : (Value.object target).isProper = true
  current : (Value.object current).isProper = true

section Found

variable {target current : Fields} (proper : Proper target current)

include proper

theorem Proper.tenant_cases (tenant : Key) :
    (Assoc.get? target tenant = none ∧ tenant ∉ Assoc.keys target) ∨
      ∃ fields, Assoc.get? target tenant = some (.object fields) ∧ tenant ∈ Assoc.keys target := by
  cases found : Assoc.get? target tenant with
  | none => exact .inl ⟨rfl, Assoc.get?_eq_none_iff.mp found⟩
  | some value =>
    have object := proper.objects _ (Assoc.mem_of_get? found)
    have member : tenant ∈ Assoc.keys target := Assoc.mem_keys_iff.mpr (by rw [found]; rfl)
    cases value with
    | object fields => exact .inr ⟨fields, rfl, member⟩
    | _ => cases object

theorem Proper.classes (tenant schemaClass : Key) :
    (∀ value, Path.get? [tenant, schemaClass] (.object current) = some value → value.isProper = true) ∧
      ∀ value, Path.get? [tenant, schemaClass] (.object target) = some value → value.isProper = true := by
  constructor
  · intro value found
    rw [Path.get?_inner] at found
    exact Value.isProper_of_get? (Path.isProper_inner proper.current tenant) found
  · intro value found
    rw [Path.get?_pair] at found
    obtain ⟨outer, foundOuter, foundInner⟩ := Option.bind_eq_some_iff.mp found
    have inside := Value.isProper_of_get? proper.target foundOuter
    cases outer with
    | object fields => exact Value.isProper_of_get? inside foundInner
    | _ => cases foundInner

theorem Proper.below_class (comparison : Comparison) (tenant schemaClass : Key) :
    Change.below schemaClass (Change.below tenant (comparison.found target current)) =
      if tenant ∈ Assoc.keys target ∧ comparison.compares schemaClass = true then
        Change.between? (Path.get? [tenant, schemaClass] (.object current))
          (Path.get? [tenant, schemaClass] (.object target))
      else [] := by
  have uniqueBefore : (Assoc.keys (before target current)).Nodup :=
    keys_before target current ▸ Value.nodup_of_isProper proper.target
  rw [found, below_concerns, below_covers,
    Change.below_between uniqueBefore (Value.nodup_of_isProper proper.target), get?_before]
  rcases proper.tenant_cases tenant with ⟨absent, outside⟩ | ⟨fields, present, member⟩
  · simp [absent, outside, Change.between?]
  · have uniqueFields : (Assoc.keys fields).Nodup :=
      Value.nodup_of_isProper (Value.isProper_of_get? proper.target present)
    have uniqueHeld := Value.nodup_of_isProper (Path.isProper_inner proper.current tenant)
    simp only [present, member, true_and, Option.map_some, Change.between?,
      Change.below_between uniqueHeld uniqueFields, Path.get?_inner]
    simp [Path.inner, present]

theorem Proper.below_tenant {comparison : Comparison} {tenant : Key} (outside : tenant ∉ Assoc.keys target) :
    Change.below tenant (comparison.found target current) = [] := by
  rw [List.eq_nil_iff_forall_not_mem]
  rintro ⟨path, edit⟩ member
  obtain ⟨head, schemaClass, rest, same, _⟩ := path_of_mem_found (Change.mem_below.mp member)
  obtain ⟨rfl, rfl⟩ := List.cons.inj same
  have here := Change.mem_below.mpr member
  rw [proper.below_class, if_neg fun both => outside both.1] at here
  cases here

/-- Whatever a replay starts from, if it has what the device has in a compared class, it leaves there what is
desired. -/
theorem Proper.replay_class {comparison : Comparison} {start : Fields} {tenant schemaClass : Key}
    (desired : tenant ∈ Assoc.keys target) (compared : comparison.compares schemaClass = true)
    (same : Path.get? [tenant, schemaClass] (.object start) = Path.get? [tenant, schemaClass] (.object current)) :
    Value.Agree
      (Path.get? [tenant, schemaClass] (.object (Change.replay (comparison.found target current) start)))
      (Path.get? [tenant, schemaClass] (.object target)) := by
  rw [get?_replay_class, same, proper.below_class, if_pos ⟨desired, compared⟩]
  exact Change.settle_between? (proper.classes tenant schemaClass).1 (proper.classes tenant schemaClass).2

theorem Proper.replay_other {comparison : Comparison} (start : Fields) {tenant schemaClass : Key}
    (other : ¬(tenant ∈ Assoc.keys target ∧ comparison.compares schemaClass = true)) :
    Path.get? [tenant, schemaClass] (.object (Change.replay (comparison.found target current) start)) =
      Path.get? [tenant, schemaClass] (.object start) := by
  rw [get?_replay_class, proper.below_class, if_neg other]
  rfl

end Found

end Comparison

end Reconcile
