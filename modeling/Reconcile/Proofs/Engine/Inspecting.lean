import Reconcile.Engine.Inspect
import Reconcile.Proofs.Engine.Planning
import Reconcile.Proofs.Inspection.Acceptance

/-!
What inspecting a device comes to. The declaration that is rebuilt from a device is valid unless several objects have
been produced under one key, and nothing else is ever held against it.
-/

namespace Reconcile.Engine

open Observed

variable (engine : Engine)

theorem verified_rebuilt {engine : Engine} (declares : engine.catalog.Declares) {version : String} {config : Fields}
    (host : ∀ value, Assoc.get? config "hostname" = some value → value.isObject = false) {inspection : Inspection}
    (done : (Rebuild.rebuilt engine.catalog version [("Common", .object config)] >>= engine.verified) = .ok inspection) :
    ∃ pairs, Rebuild.produced engine.catalog config = .ok pairs ∧
      inspection.valid = decide ((Assoc.keys pairs).Nodup ∧ .named "class" ∉ Assoc.keys pairs) ∧
      inspection.errors = if inspection.valid then [] else [Rebuild.collisionError, unverified] := by
  obtain ⟨rebuilt, built, verified⟩ := Result.bind_eq_ok.mp done
  obtain ⟨⟨fields, free⟩, run, built⟩ := Result.bind_eq_ok.mp built
  cases built
  obtain ⟨state, run, last⟩ := Result.bind_eq_ok.mp run
  cases last
  obtain ⟨draft, drafted, step⟩ := Result.bind_eq_ok.mp run
  cases step
  obtain ⟨pairs, produced, drafted⟩ := Result.bind_eq_ok.mp drafted
  cases drafted
  refine ⟨pairs, produced, ?_⟩
  have start : (Assoc.keys Rebuild.Draft.start.fields).Nodup := List.nodup_singleton _
  have distinct : (pairs.foldl Rebuild.Draft.add .start).duplicates.isEmpty = true ↔
      (Assoc.keys pairs).Nodup ∧ .named "class" ∉ Assoc.keys pairs := by
    rw [Rebuild.Draft.isEmpty_duplicates_iff rfl start, and_comm]
    exact List.nodup_cons
  obtain ⟨report, validated, verified⟩ := Result.bind_eq_ok.mp verified
  obtain ⟨report', checked, validated⟩ := Result.bind_eq_ok.mp validated
  obtain ⟨valid, _⟩ := Rebuild.report_rebuilt declares host produced version checked
  rw [valid] at validated
  cases validated
  simp only [↓reduceIte, Bool.true_and] at verified
  cases free : (pairs.foldl Rebuild.Draft.add .start).duplicates.isEmpty with
  | true =>
    simp only [free, ↓reduceIte] at verified
    cases verified
    exact ⟨(decide_eq_true (distinct.mp free)).symm, rfl⟩
  | false =>
    simp only [free, Bool.false_eq_true, ↓reduceIte] at verified
    cases verified
    refine ⟨(decide_eq_false fun apart => ?_).symm, rfl⟩
    rw [distinct.mpr apart] at free
    cases free

theorem yields_inspect {device : Device} {task : String} {read : String × DeviceState}
    (given : (engine.readerOf device true).stateGiven .empty { task := some task } [] = .ok read) :
    (engine.inspect task device).Yields
      (read.2.current.fieldsOrFail >>= Rebuild.rebuilt engine.catalog currentVersion >>= engine.verified) := by
  have seen : (engine.read .empty device true { state := { task := some task } }).Yields _ :=
    engine.yields_readOf device true rfl .empty
  rw [given] at seen
  exact seen.bind_attempt ((yields_logged (Rebuild.yields_declaration engine.catalog currentVersion _)).bind
    fun inspection => yields_lift (engine.verified inspection))

/-- For a device that can be read and whose host name is no object, the rebuilt declaration is valid, without any
error, if all objects are produced under keys of their own. Otherwise it is invalid, for that reason and as not
verified, and the check of declarations adds nothing of its own. -/
theorem inspect_verdict (truth : List String) (tracer : Option Trace.Tracer) {device : Device} {task : String}
    {before transcript : Transcript} {desk : Desk}
    (read : (Engine.read ⟨.packaged, truth, tracer⟩ .empty device true { state := { task := some task } } before).1 =
      .ok (desk, .ok ()))
    (host : ∀ value, Path.get? ["Common", "hostname"] desk.state.current = some value → value.isObject = false)
    {inspection : Inspection}
    (done : (Engine.inspect ⟨.packaged, truth, tracer⟩ task device transcript).1 = .ok inspection) :
    ∃ config pairs, Path.get? ["Common"] desk.state.current = some (.object config) ∧
      Rebuild.produced .packaged config = .ok pairs ∧
      ((Assoc.keys pairs).Nodup ∧ .named "class" ∉ Assoc.keys pairs →
        inspection.valid = true ∧ inspection.errors = []) ∧
      (¬((Assoc.keys pairs).Nodup ∧ .named "class" ∉ Assoc.keys pairs) →
        inspection.valid = false ∧ inspection.errors = [Rebuild.collisionError, unverified]) := by
  generalize made : (⟨.packaged, truth, tracer⟩ : Engine) = engine at *
  have packaged : engine.catalog = .packaged := made ▸ rfl
  rw [engine.yields_readOf device true rfl .empty before] at read
  obtain ⟨⟨key, state⟩, given, done'⟩ := Result.bind_eq_ok.mp read
  cases done'
  rw [engine.yields_inspect given transcript] at done
  obtain ⟨⟨identity, config⟩, _, rest⟩ := Result.bind_eq_ok.mp given
  obtain ⟨baseline, _, rest⟩ := Result.bind_eq_ok.mp rest
  cases rest
  have shown : ∀ value, Assoc.get? config "hostname" = some value → value.isObject = false := by
    intro value found
    refine host value ?_
    simp only [deskAfter, Path.get?, Value.get?, Assoc.get?, ↓reduceIte, found]
  obtain ⟨pairs, produced, valid, errors⟩ := verified_rebuilt (packaged ▸ Catalog.packaged_declares) shown done
  refine ⟨config, pairs, rfl, packaged ▸ produced, fun apart => ?_, fun clash => ?_⟩
  · rw [decide_eq_true apart] at valid
    exact ⟨valid, by rw [errors, valid]; rfl⟩
  · rw [decide_eq_false clash] at valid
    exact ⟨valid, by rw [errors, valid]; rfl⟩

/-- A device with one VLAN is rebuilt as a valid declaration. -/
theorem inspect_verdict_vlan :
    let engine : Engine := ⟨.packaged, defaultTruth, none⟩
    ∃ desk inspection config pairs,
      (engine.read .empty oneVlan true { state := { task := some "task" } } {}).1 = .ok (desk, .ok ()) ∧
      (∀ value, Path.get? ["Common", "hostname"] desk.state.current = some value → value.isObject = false) ∧
      (engine.inspect "task" oneVlan {}).1 = .ok inspection ∧
      Path.get? ["Common"] desk.state.current = some (.object config) ∧
      Rebuild.produced .packaged config = .ok pairs ∧ .named "wire" ∈ Assoc.keys pairs ∧
      inspection.valid = true ∧ inspection.errors = [] := by
  intro engine
  have seen : Result.passes (fun read => Result.passes (fun _ => true) read.2 &&
      (Path.get? ["Common", "hostname"] read.1.state.current).all (!·.isObject) &&
      ((Path.get? ["Common"] read.1.state.current).bind Value.fields?).any fun config =>
        Result.passes (fun pairs => (Assoc.keys pairs).Nodup && .named "class" ∉ Assoc.keys pairs &&
          .named "wire" ∈ Assoc.keys pairs) (Rebuild.produced .packaged config))
      (engine.read .empty oneVlan true { state := { task := some "task" } } {}).1 = true := by
    decide +kernel
  have made : Result.passes (fun _ => true) (engine.inspect "task" oneVlan {}).1 = true := by decide +kernel
  obtain ⟨⟨desk, ended⟩, read, shown⟩ := Result.of_passes seen
  obtain ⟨inspection, done, _⟩ := Result.of_passes made
  simp only [Bool.and_eq_true] at shown
  obtain ⟨⟨ended, host⟩, apart⟩ := shown
  obtain ⟨⟨⟩, rfl, _⟩ := Result.of_passes ended
  have host : ∀ value, Path.get? ["Common", "hostname"] desk.state.current = some value → value.isObject = false := by
    intro value found
    simpa [found] using host
  obtain ⟨config, pairs, common, produced, verdict, _⟩ := inspect_verdict defaultTruth none read host done
  simp only [common, Option.bind_some, Value.fields?, Option.any_some, produced, Result.passes, Bool.and_eq_true,
    decide_eq_true_eq] at apart
  obtain ⟨valid, errors⟩ := verdict apart.1
  exact ⟨desk, inspection, config, pairs, read, host, done, common, produced, apart.2, valid, errors⟩

end Reconcile.Engine
