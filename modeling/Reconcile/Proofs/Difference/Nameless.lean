import Reconcile.Proofs.Difference.Exactness
import Reconcile.Proofs.Difference.Isolation

/-!
Classes without names. Such a class is written as a whole, with or without changes in it; one that is no longer wanted
is written as the empty object, and none of what it holds is ever deleted by name.
-/

namespace Reconcile.Comparison

variable {comparison : Comparison} {target current : Fields} {tenant schemaClass : Key}

def whole : Option Value → Value
  | some .null | none => .empty
  | some value => value

theorem whole_of_given {value : Value} (given : value.isNull = false) : whole (some value) = value := by
  cases value with
  | null => cases given
  | _ => rfl

theorem updateOf_nameless (nameless : comparison.isNameless schemaClass = true) (working : Value) (names : List Key) :
    comparison.updateOf working ⟨tenant, schemaClass, names⟩ = whole (Path.get? [tenant, schemaClass] working) := by
  unfold updateOf
  cases Path.get? [tenant, schemaClass] working with
  | none => rfl
  | some value =>
    cases value with
    | object fields => exact if_pos nameless
    | _ => rfl

theorem isNull_of_strictEq {written value : Value} (equal : written.strictEq value = true)
    (given : value.isNull = false) : written.isNull = false := by
  cases written with
  | null =>
    cases value with
    | null => cases given
    | _ => cases equal
  | _ => rfl

section Written

variable (proper : Proper target current) (compared : comparison.compares schemaClass = true)
  (nameless : comparison.isNameless schemaClass = true)

include proper nameless

/-- A class that changes is written as the replay leaves it, one that does not change as it is wanted. -/
theorem Proper.get?_updates_nameless (tenant : Key) :
    Path.get? [tenant, schemaClass] (.object (comparison.updates target current)) =
      if Change.below schemaClass (Change.below tenant (comparison.found target current)) = [] then
        Path.get? [tenant, schemaClass] (.object target)
      else some (whole (Path.get? [tenant, schemaClass] (.object (comparison.worked target current)))) := by
  rw [Comparison.get?_updates, get?_touched, get?_kept proper.objects]
  cases Change.below schemaClass (Change.below tenant (comparison.found target current)) with
  | nil => simp [nameless]
  | cons change rest => exact congrArg some (updateOf_nameless nameless _ _)

include compared

theorem Proper.writes_wanted {value : Value} (wanted : Path.get? [tenant, schemaClass] (.object target) = some value)
    (given : value.isNull = false) :
    ∃ written, Path.get? [tenant, schemaClass] (.object (comparison.updates target current)) = some written ∧
      written.strictEq value = true := by
  have member : tenant ∈ Assoc.keys target := by
    rw [Path.get?_cons_object] at wanted
    exact Assoc.mem_keys_iff.mpr (Option.isSome_of_isSome_bind (by rw [wanted]; rfl))
  rw [proper.get?_updates_nameless nameless]
  split
  next => exact ⟨value, wanted, Value.strictEq_self value ((proper.classes tenant schemaClass).2 value wanted)⟩
  next =>
    have agree := proper.worked_agrees member compared
    rw [wanted] at agree
    cases replayed : Path.get? [tenant, schemaClass] (.object (comparison.worked target current)) with
    | none =>
      rw [replayed] at agree
      cases agree
    | some written =>
      rw [replayed] at agree
      exact ⟨written, congrArg some (whole_of_given (isNull_of_strictEq agree given)), agree⟩

variable (unwanted : Path.get? [tenant, schemaClass] (.object target) = none)

include unwanted

theorem Proper.writes_emptied (desired : tenant ∈ Assoc.keys target)
    (held : (Path.get? [tenant, schemaClass] (.object current)).isSome = true) :
    Path.get? [tenant, schemaClass] (.object (comparison.updates target current)) = some .empty := by
  obtain ⟨value, held⟩ := Option.isSome_iff_exists.mp held
  have agree := proper.worked_agrees desired compared
  rw [unwanted] at agree
  have gone : Path.get? [tenant, schemaClass] (.object (comparison.worked target current)) = none := by
    cases replayed : Path.get? [tenant, schemaClass] (.object (comparison.worked target current)) with
    | none => rfl
    | some written =>
      rw [replayed] at agree
      cases agree
  have deleted := proper.below_class comparison tenant schemaClass
  rw [if_pos ⟨desired, compared⟩, unwanted, held] at deleted
  rw [proper.get?_updates_nameless nameless, deleted, gone]
  rfl

omit compared in
theorem Proper.writes_nothing (held : Path.get? [tenant, schemaClass] (.object current) = none) :
    Path.get? [tenant, schemaClass] (.object (comparison.updates target current)) = none := by
  rw [proper.get?_updates_nameless nameless, proper.below_class, held, unwanted]
  simp [Change.between?]

end Written

theorem noteDeleted_nameless (nameless : comparison.isNameless schemaClass = true) (change : Change)
    (toDelete : Fields) :
    Path.get? [tenant, schemaClass] (.object (comparison.noteDeleted toDelete change)) =
      Path.get? [tenant, schemaClass] (.object toDelete) := by
  unfold noteDeleted
  split
  next outer other name _ _ =>
    split
    next => rfl
    next named =>
      apply Path.get?_put_class
      rintro rfl
      exact named nameless
  next => rfl

variable {desired : Fields} {baseline : Value}

/-- A compared class without names is written in full whenever it is wanted, changed or not. When it is not wanted it is
written as the empty object if the device has it, and not at all otherwise. Nothing of it is deleted by name. -/
theorem delta_nameless (comparison : Comparison) (inputs : WellFormed desired current baseline) :
    ∃ target delta, comparison.wanted (.object desired) baseline = .ok (.object target) ∧
      comparison.delta (.object desired) (.object current) baseline = .ok delta ∧
      ∀ tenant schemaClass, comparison.compares schemaClass = true → comparison.isNameless schemaClass = true →
        (∀ value, Path.get? [tenant, schemaClass] (.object target) = some value → value.isNull = false →
          ∃ written, Path.get? [tenant, schemaClass] (.object delta.toUpdate) = some written ∧
            written.strictEq value = true) ∧
        (Path.get? [tenant, schemaClass] (.object target) = none → tenant ∈ Assoc.keys desired →
          (Path.get? [tenant, schemaClass] (.object current)).isSome = true →
            Path.get? [tenant, schemaClass] (.object delta.toUpdate) = some .empty) ∧
        (Path.get? [tenant, schemaClass] (.object target) = none →
          Path.get? [tenant, schemaClass] (.object current) = none →
            Path.get? [tenant, schemaClass] (.object delta.toUpdate) = none) ∧
        Path.get? [tenant, schemaClass] (.object delta.toDelete) = none := by
  have proper := inputs.proper comparison.truth
  have names := Restoration.keys_restored comparison.truth baseline desired
  have restored : comparison.wanted (.object desired) baseline =
      .ok (.object (Restoration.restored comparison.truth baseline desired)) := wanted_object inputs.toTenanted
  refine ⟨_, _, restored, delta_eq inputs.toTenanted rfl, ?_⟩
  generalize Restoration.restored comparison.truth baseline desired = target at proper names
  intro tenant schemaClass compared nameless
  refine ⟨fun value wanted given => proper.writes_wanted compared nameless wanted given, ?_, ?_, ?_⟩
  · exact fun unwanted member held => proper.writes_emptied compared nameless unwanted (names ▸ member) held
  · exact fun unwanted held => proper.writes_nothing nameless unwanted held
  · exact deletions_spared fun change _ toDelete => noteDeleted_nameless nameless change toDelete

/-- The name servers change and the time servers do not: both classes are written in full. The web server is no longer
wanted, and the search list of the name servers goes without being deleted by name. -/
theorem delta_nameless_servers :
    let comparison : Comparison := { nameless := ["DNS", "NTP", "HTTPD", "SSHD"] }
    let time : Value := .object [("servers", .list [.text "10.0.0.3"])]
    let desired : Fields := [("Common", .object [
      ("DNS", .object [("nameServers", .list [.text "10.0.0.1"])]), ("NTP", time)])]
    let current : Fields := [("Common", .object [
      ("DNS", .object [("nameServers", .list []), ("search", .list [.text "example.com"])]), ("NTP", time),
      ("HTTPD", .object [("allow", .text "all")])])]
    WellFormed desired current .null ∧ ∃ delta,
      comparison.delta (.object desired) (.object current) .null = .ok delta ∧
      (∃ written, Path.get? ["Common", "DNS"] (.object delta.toUpdate) = some written ∧
        written.strictEq (.object [("nameServers", .list [.text "10.0.0.1"])]) = true) ∧
      (∃ written, Path.get? ["Common", "NTP"] (.object delta.toUpdate) = some written ∧
        written.strictEq time = true) ∧
      Path.get? ["Common", "HTTPD"] (.object delta.toUpdate) = some .empty ∧
      Path.get? ["Common", "SSHD"] (.object delta.toUpdate) = none ∧
      Path.get? ["Common", "DNS"] (.object delta.toDelete) = none := by
  intro comparison time desired current
  have inputs : WellFormed desired current .null :=
    ⟨⟨by decide, by decide, rfl⟩, by decide, by decide, rfl⟩
  refine ⟨inputs, ?_⟩
  obtain ⟨target, delta, wanted, outcome, written⟩ := delta_nameless comparison inputs
  have same : target = desired := by
    cases wanted
    rfl
  subst same
  obtain ⟨whole, _, _, spared⟩ := written "Common" "DNS" (by decide) (by decide)
  obtain ⟨unchanged, _, _, _⟩ := written "Common" "NTP" (by decide) (by decide)
  obtain ⟨_, emptied, _, _⟩ := written "Common" "HTTPD" (by decide) (by decide)
  obtain ⟨_, _, nothing, _⟩ := written "Common" "SSHD" (by decide) (by decide)
  exact ⟨delta, outcome, whole _ rfl rfl, unchanged _ rfl rfl, emptied rfl (by decide) rfl, nothing rfl rfl, spared⟩

end Reconcile.Comparison
