import Reconcile.Difference.Summary
import Reconcile.Proofs.Naming
import Reconcile.Proofs.Result

/-!
The summary of a comparison. It can be written exactly when every step on the way to every change is a name; the
objects to delete never stand in its way.
-/

namespace Reconcile

open Result

/-- Whether every step on the way to a change is a name. -/
def Change.isNamed (change : Change) : Bool :=
  change.path.all Key.isNamed

namespace Summary

theorem succeeds_place {path : Path} (named : path.all Key.isNamed = true) : Succeeds (place path) := by
  refine Succeeds.bind (.mapM fun key member => ?_) fun names => .ok _
  have isNamed := List.all_eq_true.mp named key member
  cases key with
  | named name => exact .ok name
  | _ => cases isNamed

theorem place_eq_error {path : Path} (nameless : path.all Key.isNamed = false) : place path = .error .wrongKind := by
  obtain ⟨key, member, unnamed⟩ := List.all_eq_false.mp nameless
  unfold place
  rw [mapM_eq_error (fun (other : Key) _ fault failed => ?only) member ?here]
  case here =>
    cases key with
    | named name => exact absurd rfl unnamed
    | _ => rfl
  case only => cases other <;> cases failed <;> rfl
  rfl

theorem succeeds_linesOf {change : Change} (named : change.isNamed = true) : Succeeds (linesOf change) := by
  refine (succeeds_place named).bind fun place => ?_
  cases change.edit <;> exact .ok _

theorem linesOf_eq_error {change : Change} (nameless : change.isNamed = false) :
    linesOf change = .error .wrongKind := by
  unfold linesOf
  rw [place_eq_error nameless]
  rfl

/-- Whether a value files objects. -/
def FilesObjects (value : Value) : Prop :=
  ∃ classes, value = .object classes ∧ ∀ inner ∈ classes, inner.2.isObject = true

/-- Whether deletions are filed by tenant and class. -/
def Tiered (toDelete : Fields) : Prop :=
  ∀ entry ∈ toDelete, FilesObjects entry.2

theorem succeeds_deletions {toDelete : Fields} (tiered : Tiered toDelete) : Succeeds (deletions toDelete) := by
  refine Succeeds.bind (.mapM fun entry member => ?_) fun groups => .ok _
  obtain ⟨tenant, value⟩ := entry
  obtain ⟨classes, rfl, objects⟩ := tiered _ member
  change Succeeds (List.mapM _ classes >>= _)
  refine Succeeds.bind (.mapM fun inner place => ?_) fun groups => .ok _
  obtain ⟨schemaClass, names⟩ := inner
  have isObject : names.isObject = true := objects _ place
  cases names with
  | object names => exact .ok _
  | _ => cases isObject

theorem tiered_put {toDelete : Fields} (tiered : Tiered toDelete) (tenant schemaClass name : Key) :
    Tiered (Path.put [tenant, schemaClass, name] .empty toDelete) := by
  have objects : ∀ inner ∈ Path.inner toDelete tenant, inner.2.isObject = true := by
    intro inner member
    unfold Path.inner at member
    split at member
    next classes found =>
      obtain ⟨filed, same, objects⟩ := tiered _ (Assoc.mem_of_get? found)
      cases same
      exact objects inner member
    next => exact absurd member List.not_mem_nil
  refine Assoc.forall_mem_put FilesObjects tiered ⟨_, rfl, ?_⟩
  exact Assoc.forall_mem_put (fun value : Value => value.isObject = true) objects rfl

theorem tiered_noteDeleted (comparison : Comparison) {toDelete : Fields} (tiered : Tiered toDelete) (change : Change) :
    Tiered (comparison.noteDeleted toDelete change) := by
  unfold Comparison.noteDeleted
  split
  next tenant schemaClass name _ _ =>
    split
    next => exact tiered
    next => exact tiered_put tiered tenant schemaClass name
  next => exact tiered

theorem tiered_foldl (comparison : Comparison) {toDelete : Fields} (tiered : Tiered toDelete) (changes : List Change) :
    Tiered (changes.foldl comparison.noteDeleted toDelete) := by
  induction changes generalizing toDelete with
  | nil => exact tiered
  | cons change rest ih => exact ih (tiered_noteDeleted comparison tiered change)

end Summary

theorem Comparison.tiered_delta {comparison : Comparison} {desired current baseline : Value} {delta : Delta}
    (compared : comparison.delta desired current baseline = .ok delta) : Summary.Tiered delta.toDelete := by
  unfold Comparison.delta at compared
  dsimp only at compared
  split at compared
  all_goals
    obtain ⟨wanted, _, tenants⟩ := bind_eq_ok.mp compared
    obtain ⟨fields, _, starts⟩ := bind_eq_ok.mp tenants
    obtain ⟨before, _, changed⟩ := bind_eq_ok.mp starts
    obtain ⟨working, _, done⟩ := bind_eq_ok.mp changed
    cases done
    refine Summary.tiered_foldl comparison (fun entry member => ?_) _
    obtain ⟨source, _, rfl⟩ := List.mem_map.mp member
    exact ⟨[], rfl, fun inner place => absurd place List.not_mem_nil⟩

theorem Delta.succeeds_summary {delta : Delta} (tiered : Summary.Tiered delta.toDelete)
    (named : ∀ change ∈ delta.changes, change.isNamed = true) : Succeeds delta.summary := by
  unfold summary Summary.ofChanges
  refine .ite (.ok _) ?_
  refine Succeeds.bind (.mapM fun change member => Summary.succeeds_linesOf (named change member)) fun lines => ?_
  exact (Summary.succeeds_deletions tiered).bind fun gone => .ok _

/-- A single change that lies behind a key without a name is enough for the summary to fail. -/
theorem Delta.summary_eq_error {delta : Delta} {change : Change} (member : change ∈ delta.changes)
    (nameless : change.isNamed = false) : delta.summary = .error .wrongKind := by
  have fails : delta.changes.mapM Summary.linesOf = .error .wrongKind := by
    refine mapM_eq_error (fun other _ fault failed => ?_) member (Summary.linesOf_eq_error nameless)
    cases named : other.isNamed with
    | true =>
      obtain ⟨lines, written⟩ := Summary.succeeds_linesOf named
      cases failed.symm.trans written
    | false =>
      rw [Summary.linesOf_eq_error named] at failed
      cases failed
      rfl
  have some : delta.changes.isEmpty = false := by
    cases changes : delta.changes with
    | nil => exact absurd (changes ▸ member) List.not_mem_nil
    | cons => rfl
  unfold summary Summary.ofChanges
  rw [some, fails]
  rfl

end Reconcile
