import Reconcile.Declaration.Report
import Reconcile.Proofs.Result

/-!
Checking a declaration follows the same pointers as flattening it. What has been checked can be resolved, except for
pointers that refer to themselves.
-/

namespace Reconcile

variable {α β : Type}

/-- Whether a computation fails, if it does, because a pointer refers to itself. -/
def Result.FailsOnPointers (action : Result α) : Prop :=
  ∀ fault, action = .error fault → ∃ pointer, fault = .selfPointer pointer

namespace Result.FailsOnPointers

theorem ok (value : α) : FailsOnPointers (.ok value) := fun _ failed => nomatch failed

theorem of_succeeds {action : Result α} (succeeds : Succeeds action) : FailsOnPointers action := by
  obtain ⟨value, rfl⟩ := succeeds
  exact ok value

theorem bind {action : Result α} {next : α → Result β} (first : FailsOnPointers action)
    (second : ∀ value, action = .ok value → FailsOnPointers (next value)) : FailsOnPointers (action >>= next) := by
  intro fault failed
  cases done : action with
  | error cause =>
    rw [done] at failed
    obtain rfl : cause = fault := Except.error.inj failed
    exact first cause done
  | ok value =>
    rw [done] at failed
    exact second value done fault failed

end Result.FailsOnPointers

open Result

namespace Declaration

/-- Whether a check has followed all pointers inside a value. -/
def Followed (root value : Value) : Prop :=
  ∃ place findings, Succeeds (Report.followPointers root place findings value)

theorem Followed.fields {root : Value} {fields : Fields} (followed : Followed root (.object fields)) :
    ∀ field ∈ fields, Followed root field.2 := by
  obtain ⟨place, findings, after, run⟩ := followed
  rw [Report.followPointers] at run
  induction fields generalizing findings with
  | nil => exact fun _ member => (List.not_mem_nil member).elim
  | cons field rest ih =>
    obtain ⟨key, value⟩ := field
    rw [Report.followPointerFields] at run
    obtain ⟨middle, here, later⟩ := bind_eq_ok.mp run
    exact List.forall_mem_cons.mpr ⟨⟨_, _, _, here⟩, ih _ later⟩

theorem Followed.items {root : Value} {items : List Value} (followed : Followed root (.list items)) :
    ∀ item ∈ items, Followed root item := by
  obtain ⟨place, findings, after, run⟩ := followed
  rw [Report.followPointers] at run
  induction items generalizing findings with
  | nil => exact fun _ member => (List.not_mem_nil member).elim
  | cons item rest ih =>
    rw [Report.followPointerItems] at run
    obtain ⟨middle, here, later⟩ := bind_eq_ok.mp run
    exact List.forall_mem_cons.mpr ⟨⟨_, _, _, here⟩, ih _ later⟩

theorem resolveText_fails {root : Value} {content : String} (followed : Followed root (.text content)) :
    FailsOnPointers (resolveText root content) := by
  unfold resolveText
  split
  next slash =>
    have found : Succeeds (Pointer.resolve root content) := by
      by_cases whole : content = "/"
      · rw [whole]
        exact .ok root
      · obtain ⟨place, findings, after, run⟩ := followed
        rw [Report.followPointers, if_pos (by simp [slash, whole])] at run
        obtain ⟨target, found, _⟩ := bind_eq_ok.mp run
        exact ⟨target, found⟩
    refine (FailsOnPointers.of_succeeds found).bind fun target _ => ?_
    split
    next =>
      split
      next => exact fun fault failed => ⟨_, (Except.error.inj failed).symm⟩
      next => exact .ok _
    next => exact .ok _
  next => exact .ok _

mutual

theorem resolveTexts_fails {root : Value} :
    ∀ value, Followed root value → FailsOnPointers (resolveTexts root value)
  | .text content, followed => by
    rw [resolveTexts]
    exact resolveText_fails followed
  | .list items, followed => by
    rw [resolveTexts]
    exact (resolveItems_fails items followed.items).bind fun _ _ => .ok _
  | .object fields, followed => by
    rw [resolveTexts]
    exact (resolveFields_fails fields followed.fields).bind fun _ _ => .ok _
  | .null, _ | .bool _, _ | .int _, _ | .real _, _ => by
    rw [resolveTexts]
    · exact .ok _
    all_goals simp

theorem resolveItems_fails {root : Value} :
    ∀ items : List Value, (∀ item ∈ items, Followed root item) → FailsOnPointers (resolveItems root items)
  | [], _ => .ok _
  | item :: rest, followed => by
    obtain ⟨first, others⟩ := List.forall_mem_cons.mp followed
    rw [resolveItems]
    exact (resolveTexts_fails item first).bind fun _ _ => (resolveItems_fails rest others).bind fun _ _ => .ok _

theorem resolveFields_fails {root : Value} :
    ∀ fields : Fields, (∀ field ∈ fields, Followed root field.2) → FailsOnPointers (resolveFields root fields)
  | [], _ => .ok _
  | (_, value) :: rest, followed => by
    obtain ⟨first, others⟩ := List.forall_mem_cons.mp followed
    rw [resolveFields]
    exact (resolveTexts_fails value first).bind fun _ _ => (resolveFields_fails rest others).bind fun _ _ => .ok _

end

end Declaration

end Reconcile
