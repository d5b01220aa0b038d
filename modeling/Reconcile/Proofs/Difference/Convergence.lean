import Reconcile.Proofs.Difference.Comparison

/-!
A comparison converges: carried out on the current configuration, its changes bring every compared class to what is
desired and leave everything else alone, and a second comparison finds nothing.
-/

namespace Reconcile

def Change.carryOut (changes : List Change) (document : Value) : Result Value :=
  changes.foldlM (fun document change => change.apply document) document

namespace Comparison

/-- A configuration with an empty object for every desired tenant that it lacks. -/
def withTenants (desired current : Fields) : Fields :=
  desired.foldl (fun config entry => Assoc.putNew config entry.1 .empty) current

/-- Inputs of the shape that a comparison relies on, with each key once. -/
structure WellFormed (desired current : Fields) (baseline : Value) : Prop extends
    Tenanted desired current baseline where
  desired_proper : (Value.object desired).isProper = true
  current_proper : (Value.object current).isProper = true
  baseline_proper : baseline.isProper = true

theorem get?_withTenants (desired current : Fields) (tenant : Key) :
    Assoc.get? (withTenants desired current) tenant =
      if tenant ∈ Assoc.keys desired then some ((Assoc.get? current tenant).getD .empty)
      else Assoc.get? current tenant := by
  unfold withTenants
  induction desired generalizing current with
  | nil => simp
  | cons entry rest ih =>
    obtain ⟨head, value⟩ := entry
    rw [List.foldl_cons, ih, Assoc.get?_putNew, Assoc.keys_cons]
    by_cases same : head = tenant
    · simp [same]
    · simp [same, Ne.symm same]

theorem class_withTenants (desired current : Fields) (tenant schemaClass : Key) :
    Path.get? [tenant, schemaClass] (.object (withTenants desired current)) =
      Path.get? [tenant, schemaClass] (.object current) := by
  rw [Path.get?_pair, Path.get?_pair, get?_withTenants]
  cases Assoc.get? current tenant with
  | none =>
    split
    next => rfl
    next => rfl
  | some value => simp

theorem isProper_withTenants (desired : Fields) {current : Fields} (proper : (Value.object current).isProper = true) :
    (Value.object (withTenants desired current)).isProper = true := by
  unfold withTenants
  induction desired generalizing current with
  | nil => exact proper
  | cons entry rest ih => exact ih (Value.isProper_putNew proper entry.1 rfl)

def isHeld (field? : Option Value) : Bool :=
  field?.all fun value => value.isObject || !value.truthy

theorem isHeld_onField (key : Key) (path : Path) (edit : Edit) {field? : Option Value} (held : isHeld field? = true) :
    isHeld (Change.onField ⟨key :: path, edit⟩ field?) = true := by
  unfold Change.onField
  cases Change.after? ⟨key :: path, edit⟩ with
  | some value => rfl
  | none =>
    cases field? with
    | none => rfl
    | some value =>
      cases value with
      | object fields => rfl
      | _ => exact held

theorem isHeld_settle {changes : List Change} (inside : Change.Inside changes) {field? : Option Value}
    (held : isHeld field? = true) : isHeld (Change.settle changes field?) = true := by
  induction changes generalizing field? with
  | nil => exact held
  | cons change rest ih =>
    obtain ⟨key, path, edit, rfl⟩ := inside.head
    rw [Change.settle_cons]
    exact ih inside.tail (isHeld_onField key path edit held)

variable {comparison : Comparison} {desired current : Fields} {baseline : Value}

theorem WellFormed.proper (inputs : WellFormed desired current baseline) (truth : List String) :
    Proper (Restoration.restored truth baseline desired) current where
  objects := Restoration.objects_restored truth baseline inputs.objects
  target := Restoration.isProper_restored truth inputs.baseline_proper inputs.desired_proper
  current := inputs.current_proper

theorem Proper.found_eq_nil {target current : Fields} (proper : Proper target current)
    (agree : ∀ tenant ∈ Assoc.keys target, ∀ schemaClass, comparison.compares schemaClass = true →
      Value.Agree (Path.get? [tenant, schemaClass] (.object current))
        (Path.get? [tenant, schemaClass] (.object target))) : comparison.found target current = [] := by
  rw [List.eq_nil_iff_forall_not_mem]
  rintro ⟨path, edit⟩ member
  obtain ⟨tenant, schemaClass, rest, rfl, compared⟩ := path_of_mem_found member
  rw [← Change.mem_below, ← Change.mem_below, proper.below_class] at member
  split at member
  next both =>
    have classes := proper.classes tenant schemaClass
    rw [(Change.between?_eq_nil_iff classes.1 classes.2).mpr (agree tenant both.1 schemaClass compared)] at member
    cases member
  next => cases member

theorem WellFormed.again (comparison : Comparison) (inputs : WellFormed desired current baseline)
    (truth : List String) :
    WellFormed desired
      (Change.replay (comparison.found (Restoration.restored truth baseline desired) current)
        (withTenants desired current)) baseline where
  objects := inputs.objects
  known := inputs.known
  desired_proper := inputs.desired_proper
  baseline_proper := inputs.baseline_proper
  current_proper := by
    apply Change.isProper_replay _ (isProper_withTenants desired inputs.current_proper)
    intro change member
    exact Change.isProper_after [] _ (inputs.proper truth).target change (List.mem_filter.mp member).1
  held := by
    intro entry member
    have start := inputs.held entry member
    have named : entry.1 ∈ Assoc.keys desired := List.mem_map_of_mem member
    rw [Change.get?_replay (inside_found _), get?_withTenants, if_pos named]
    apply isHeld_settle (inside_below_found _ _)
    cases found : Assoc.get? current entry.1 with
    | none => rfl
    | some value => rwa [found] at start

/-- The changes of a comparison, carried out in order on the current configuration, bring every compared class of a
desired tenant to what is desired. No other class and no other tenant changes, and comparing again finds no change
and nothing to delete. -/
theorem delta_converges (comparison : Comparison) (inputs : WellFormed desired current baseline) :
    ∃ target delta after,
      comparison.wanted (.object desired) baseline = .ok (.object target) ∧
      comparison.delta (.object desired) (.object current) baseline = .ok delta ∧
      Change.carryOut delta.changes (.object (withTenants desired current)) = .ok (.object after) ∧
      (∀ tenant ∈ Assoc.keys target, ∀ schemaClass, comparison.compares schemaClass = true →
        Value.Agree (Path.get? [tenant, schemaClass] (.object after))
          (Path.get? [tenant, schemaClass] (.object target))) ∧
      (∀ tenant ∈ Assoc.keys target, ∀ key, comparison.compares key = false →
        Path.get? [tenant, key] (.object after) = Path.get? [tenant, key] (.object current)) ∧
      (∀ tenant, tenant ∉ Assoc.keys target → Assoc.get? after tenant = Assoc.get? current tenant) ∧
      ∃ again, comparison.delta (.object desired) (.object after) baseline = .ok again ∧
        again.changes = [] ∧ ∀ entry ∈ again.toDelete, entry.2 = .empty := by
  have names := Restoration.keys_restored comparison.truth baseline desired
  have proper := inputs.proper comparison.truth
  have inputsAgain := inputs.again comparison comparison.truth
  have properAgain := inputsAgain.proper comparison.truth
  generalize restored : Restoration.restored comparison.truth baseline desired = target at *
  have settled : ∀ tenant ∈ Assoc.keys target, ∀ schemaClass, comparison.compares schemaClass = true →
      Value.Agree (Path.get? [tenant, schemaClass]
          (.object (Change.replay (comparison.found target current) (withTenants desired current))))
        (Path.get? [tenant, schemaClass] (.object target)) :=
    fun tenant member schemaClass compared =>
      proper.replay_class member compared (class_withTenants desired current tenant schemaClass)
  refine ⟨target, _, Change.replay (comparison.found target current) (withTenants desired current),
    restored ▸ wanted_object inputs.toTenanted, delta_eq inputs.toTenanted restored,
    Change.foldlM_apply (inside_found target) _, settled, ?_, ?_, ?_⟩
  · intro tenant _ key outside
    rw [proper.replay_other _ (by simp [outside]), class_withTenants]
  · intro tenant outside
    have undesired : tenant ∉ Assoc.keys desired := by rwa [← names]
    rw [Change.get?_replay (inside_found target), proper.below_tenant outside, get?_withTenants, if_neg undesired]
    rfl
  · have nothing := properAgain.found_eq_nil settled
    refine ⟨_, delta_eq inputsAgain.toTenanted restored, nothing, ?_⟩
    rw [deletions, nothing]
    intro entry member
    obtain ⟨source, _, rfl⟩ := List.mem_map.mp member
    rfl

/-- A self IP that is no longer desired goes, a new one appears, and a pool, being no compared class, stays. -/
theorem delta_converges_selfIps :
    let desired : Fields := [("Common", .object [("SelfIp", .object [("outer", .object [("mask", .int 24)])])])]
    let current : Fields := [("Common", .object [("SelfIp", .object [("inner", .empty)]), ("Pool", .int 1)])]
    WellFormed desired current .null ∧ ∃ delta after,
      Comparison.delta {} (.object desired) (.object current) .null = .ok delta ∧
      Change.carryOut delta.changes (.object (withTenants desired current)) = .ok (.object after) ∧
      Value.Agree (Path.get? ["Common", "SelfIp"] (.object after)) (Path.get? ["Common", "SelfIp"] (.object desired)) ∧
      Path.get? ["Common", "Pool"] (.object after) = some (.int 1) := by
  intro desired current
  have inputs : WellFormed desired current .null :=
    ⟨⟨by decide, by decide, rfl⟩, by decide, by decide, rfl⟩
  refine ⟨inputs, ?_⟩
  obtain ⟨target, delta, after, wanted, outcome, carried, settled, others, _⟩ := delta_converges {} inputs
  have same : target = desired := by
    cases wanted
    rfl
  subst same
  exact ⟨delta, after, outcome, carried, settled "Common" (by decide) "SelfIp" (by decide),
    others "Common" (by decide) "Pool" (by decide)⟩

end Comparison

end Reconcile
