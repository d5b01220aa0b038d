import Reconcile.Catalog.Packaged.Cluster
import Reconcile.Proofs.Observation.Gathering

/-!
Items that a read passes over. An answer with such items is put together like the answer without them, unless nothing
else is in it: a class that the device lists nothing for begins empty, and one whose items are all passed over does not
begin at all.
-/

namespace Reconcile

namespace Gatherer

/-- Whether a read passes over an item: a rule says to ignore it, it is in none of the entry's partitions, or it is a
database variable that nobody asked for. -/
def rejects (gatherer : Gatherer) (entry : Entry) (schemaClass : String) : Value → Bool
  | .object fields =>
    (Observation.isIgnored entry.ignore (.object fields)).passes id || !inPartition entry fields ||
      (gatherer.isUnwanted schemaClass (itemName fields)).passes id
  | _ => false

/-- The items that a read does not pass over. -/
def accepted (gatherer : Gatherer) (entry : Entry) (schemaClass : String) (items : List Value) : List Value :=
  items.filter fun raw => !gatherer.rejects entry schemaClass raw

variable {gatherer : Gatherer} {entry : Entry} {schemaClass : String}

theorem rejects_object (fields : Fields) :
    gatherer.rejects entry schemaClass (.object fields) =
      ((Observation.isIgnored entry.ignore (.object fields)).passes id || !inPartition entry fields ||
        (gatherer.isUnwanted schemaClass (itemName fields)).passes id) := rfl

theorem isIgnored_object (rules : List (Key × String)) (fields : Fields) :
    ∃ ignored, Observation.isIgnored rules (.object fields) = .ok ignored := by
  unfold Observation.isIgnored
  split
  next => exact ⟨false, rfl⟩
  next => exact ⟨_, rfl⟩

theorem takeItem_rejected {raw : Value} (rejected : gatherer.rejects entry schemaClass raw = true)
    (gathering : Gathering) : gatherer.takeItem entry schemaClass gathering raw = .ok gathering := by
  cases raw with
  | object fields =>
    rw [takeItem_object]
    rw [rejects_object] at rejected
    obtain ⟨ignored, heeded⟩ := isIgnored_object entry.ignore fields
    rw [heeded] at rejected ⊢
    cases ignored with
    | true => rfl
    | false =>
      cases inside : inPartition entry fields with
      | false => rfl
      | true =>
        rw [inside] at rejected
        have unasked : (gatherer.isUnwanted schemaClass (itemName fields)).passes id = true := rejected
        obtain ⟨unwanted, asked, rfl : unwanted = true⟩ := Result.of_passes unasked
        rw [asked]
        rfl
  | _ => cases rejected

theorem takeItem_kept {fields : Fields} (kept : gatherer.rejects entry schemaClass (.object fields) = false)
    (gathering : Gathering) :
    gatherer.takeItem entry schemaClass gathering (.object fields) = (do
      let _ ← gatherer.isUnwanted schemaClass (itemName fields)
      gatherer.keepItem entry schemaClass gathering fields) := by
  obtain ⟨ignored, heeded⟩ := isIgnored_object entry.ignore fields
  rw [rejects_object, heeded] at kept
  rw [takeItem_object, heeded]
  cases ignored with
  | true => cases kept
  | false =>
    cases inside : inPartition entry fields with
    | false => rw [inside] at kept; cases kept
    | true =>
      rw [inside] at kept
      have asked : (gatherer.isUnwanted schemaClass (itemName fields)).passes id = false := kept
      cases found : gatherer.isUnwanted schemaClass (itemName fields) with
      | error fault => rfl
      | ok unwanted =>
        rw [found] at asked
        cases asked
        rfl

theorem takeItem_atom {raw : Value} (atom : raw.isObject = false) (gathering : Gathering) :
    gatherer.takeItem entry schemaClass gathering raw = .error .noFields := by
  cases raw with
  | object fields => cases atom
  | _ =>
    unfold takeItem Observation.isIgnored
    cases entry.ignore.isEmpty <;> rfl

theorem foldlM_accepted (items : List Value) (gathering : Gathering) :
    items.foldlM (gatherer.takeItem entry schemaClass) gathering =
      (gatherer.accepted entry schemaClass items).foldlM (gatherer.takeItem entry schemaClass) gathering :=
  Result.foldlM_filter (fun _ _ rejected => takeItem_rejected (by simpa using rejected)) gathering

theorem takeAnswer_items (own : entry.class? = some schemaClass) (before : Gathering) (items : List Value) :
    gatherer.takeAnswer before entry (some (.list items)) =
      items.foldlM (gatherer.takeItem entry schemaClass) (begin schemaClass items.isEmpty before) := by
  unfold takeAnswer
  rw [own]

theorem begin_eq_self_iff (schemaClass : String) (gathering : Gathering) :
    begin schemaClass true gathering = gathering ↔ Assoc.has gathering.classes (.named schemaClass) = true := by
  constructor
  · intro same
    have classes : Assoc.putNew gathering.classes (.named schemaClass) .empty = gathering.classes :=
      congrArg Gathering.classes same
    rw [Assoc.has_eq_isSome, ← classes, Assoc.get?_putNew, if_pos rfl]
    rfl
  · intro present
    rw [begin, if_pos rfl, Assoc.putNew_eq_self present]

/-- An answer comes to the same as the answer that the device would have given without the items that are passed over,
exactly if it is empty anyway, keeps an item, or its class has begun. Otherwise the class is left out where it should
have begun empty. -/
theorem takeAnswer_accepted (own : entry.class? = some schemaClass) (before : Gathering) (items : List Value) :
    (gatherer.takeAnswer before entry (some (.list items)) =
        gatherer.takeAnswer before entry (some (.list (gatherer.accepted entry schemaClass items))) ↔
      items = [] ∨ gatherer.accepted entry schemaClass items ≠ [] ∨
        Assoc.has before.classes (.named schemaClass) = true) ∧
    (items ≠ [] → gatherer.accepted entry schemaClass items = [] →
      gatherer.takeAnswer before entry (some (.list items)) = .ok before ∧
      gatherer.takeAnswer before entry (some (.list [])) = .ok (begin schemaClass true before)) := by
  have passed : items ≠ [] → gatherer.accepted entry schemaClass items = [] →
      gatherer.takeAnswer before entry (some (.list items)) = .ok before ∧
      gatherer.takeAnswer before entry (some (.list [])) = .ok (begin schemaClass true before) := by
    intro something nothing
    rw [takeAnswer_items own, takeAnswer_items own, foldlM_accepted, nothing, List.isEmpty_eq_false_iff.mpr something]
    exact ⟨rfl, rfl⟩
  refine ⟨?_, passed⟩
  by_cases empty : items = []
  · subst empty
    exact iff_of_true rfl (.inl rfl)
  · by_cases nothing : gatherer.accepted entry schemaClass items = []
    · obtain ⟨raw, filtered⟩ := passed empty nothing
      rw [nothing, raw, filtered, Except.ok.injEq, eq_comm, begin_eq_self_iff]
      simp [empty]
    · refine iff_of_true ?_ (.inr (.inl nothing))
      rw [takeAnswer_items own, takeAnswer_items own, foldlM_accepted items, List.isEmpty_eq_false_iff.mpr empty,
        List.isEmpty_eq_false_iff.mpr nothing]

def ownGroup : Value := .object [("name", .text "datasync-global-dg")]

def failoverGroup : Value := .object [("name", .text "failover")]

/-- The group that devices keep for themselves makes no difference beside another one. -/
theorem takeAnswer_accepted_deviceGroup :
    let gatherer : Gatherer := { translate := false, mapper := {}, declaration := .empty, watched := [] }
    Packaged.deviceGroup.class? = some "DeviceGroup" ∧
      gatherer.takeAnswer {} Packaged.deviceGroup (some (.list [ownGroup, failoverGroup])) =
        gatherer.takeAnswer {} Packaged.deviceGroup (some (.list [failoverGroup])) := by
  intro gatherer
  have kept : gatherer.accepted Packaged.deviceGroup "DeviceGroup" [ownGroup, failoverGroup] = [failoverGroup] := by
    have passed : gatherer.rejects Packaged.deviceGroup "DeviceGroup" ownGroup = true := by decide +kernel
    have taken : gatherer.rejects Packaged.deviceGroup "DeviceGroup" failoverGroup = false := by decide +kernel
    simp [accepted, passed, taken]
  obtain ⟨agree, -⟩ := @takeAnswer_accepted gatherer Packaged.deviceGroup "DeviceGroup" rfl {}
    [ownGroup, failoverGroup]
  rw [kept] at agree
  exact ⟨rfl, agree.mpr (.inr (.inl (List.cons_ne_nil _ _)))⟩

/-- Alone, it makes the device one that is read without device groups, where a device that has none at all is read with
the empty class. -/
theorem sole_rejected_group_unplaced :
    let gatherer : Gatherer := { translate := false, mapper := {}, declaration := .empty, watched := [] }
    gatherer.accepted Packaged.deviceGroup "DeviceGroup" [ownGroup] = [] ∧
      gatherer.takeAnswer {} Packaged.deviceGroup (some (.list [ownGroup])) = .ok {} ∧
      gatherer.takeAnswer {} Packaged.deviceGroup (some (.list [])) = .ok ⟨[("DeviceGroup", .empty)], []⟩ := by
  intro gatherer
  have passed : gatherer.rejects Packaged.deviceGroup "DeviceGroup" ownGroup = true := by decide +kernel
  refine ⟨by simp [accepted, passed], ?_, rfl⟩
  rw [takeAnswer_items rfl, List.foldlM_cons, takeItem_rejected passed]
  rfl

end Gatherer

end Reconcile
