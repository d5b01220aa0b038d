import Reconcile.Baseline.Checksum
import Reconcile.Proofs.Document

/-!
Documents in which every object files by name. Names can always be put in order, so that such a document has a
checksum.
-/

namespace Reconcile

def Key.isNamed : Key → Bool
  | .named _ => true
  | _ => false

namespace Value

mutual

def isNamed : Value → Bool
  | .list items => namedItems items
  | .object fields => namedFields fields
  | _ => true

def namedItems : List Value → Bool
  | [] => true
  | item :: rest => isNamed item && namedItems rest

def namedFields : Fields → Bool
  | [] => true
  | (key, value) :: rest => key.isNamed && isNamed value && namedFields rest

end

theorem isNamed_list {items : List Value} :
    (Value.list items).isNamed = true ↔ ∀ item ∈ items, item.isNamed = true := by
  rw [isNamed]
  induction items with
  | nil => simp [namedItems]
  | cons item rest ih => simp [namedItems, ih]

theorem isNamed_object {fields : Fields} :
    (Value.object fields).isNamed = true ↔ ∀ entry ∈ fields, entry.1.isNamed = true ∧ entry.2.isNamed = true := by
  rw [isNamed]
  induction fields with
  | nil => simp [namedFields]
  | cons entry rest ih => simp [namedFields, ih]

theorem isSome_keyBefore? {left right : Key} (leftNamed : left.isNamed = true) (rightNamed : right.isNamed = true) :
    (keyBefore? left right).isSome = true := by
  cases left with
  | named left =>
    cases right with
    | named right => rfl
    | _ => cases rightNamed
  | _ => cases leftNamed

theorem unorderedKeys?_of_named {keys : List Key} (named : ∀ key ∈ keys, key.isNamed = true) :
    unorderedKeys? keys = none := by
  cases keys with
  | nil => rfl
  | cons first rest =>
    have ⟨firstNamed, restNamed⟩ := List.forall_mem_cons.mp named
    rw [unorderedKeys?, Option.map_eq_none_iff, List.find?_eq_none]
    intro key member unordered
    have ordered := isSome_keyBefore? (restNamed key member) firstNamed
    rw [Option.isNone_iff_eq_none] at unordered
    rw [unordered] at ordered
    cases ordered

variable {α : Type}

theorem perm_insertField (entry : Key × α) (fields : List (Key × α)) :
    (insertField entry fields).Perm (entry :: fields) := by
  induction fields with
  | nil => exact .refl _
  | cons other rest ih =>
    rw [insertField]
    split
    next => exact .refl _
    next => exact (ih.cons other).trans (.swap entry other rest)

theorem perm_sortFields (fields : List (Key × α)) : (sortFields fields).Perm fields := by
  induction fields with
  | nil => exact .refl _
  | cons entry rest ih => exact (perm_insertField entry (sortFields rest)).trans (ih.cons entry)

theorem unorderedFields_eq_map (fields : Fields) :
    unorderedFields fields = fields.map fun entry => (entry.1, entry.2.unordered?) := by
  induction fields with
  | nil => rfl
  | cons entry rest ih => rw [unorderedFields, ih, List.map_cons]

theorem unorderedItem?_eq_none {items : List Value} (ordered : ∀ item ∈ items, item.unordered? = none) :
    unorderedItem? items = none := by
  induction items with
  | nil => rfl
  | cons item rest ih =>
    have ⟨first, others⟩ := List.forall_mem_cons.mp ordered
    rw [unorderedItem?, first, Option.none_or, ih others]

theorem unordered?_of_isNamed (value : Value) (named : value.isNamed = true) : value.unordered? = none := by
  induction value using byParts with
  | scalar value plain => cases value <;> first | rfl | cases plain
  | list items ih =>
    rw [isNamed_list] at named
    exact unorderedItem?_eq_none fun item member => ih item member (named item member)
  | object fields ih =>
    rw [isNamed_object] at named
    have keys : unorderedKeys? (Assoc.keys fields) = none :=
      unorderedKeys?_of_named (List.forall_mem_map.mpr fun entry member => (named entry member).1)
    rw [unordered?, keys, Option.none_or, unorderedFields_eq_map, List.findSome?_eq_none_iff]
    intro entry member
    obtain ⟨field, present, rfl⟩ := List.mem_map.mp ((perm_sortFields _).mem_iff.mp member)
    exact ih field present (named field present).2

theorem checksum_of_ordered {value : Value} (ordered : value.unordered? = none) :
    ∃ checksum, value.checksum = .ok checksum := by
  rw [checksum, ordered]
  exact ⟨_, rfl⟩

theorem checksum_of_unordered {value : Value} {left right : Key} (unordered : value.unordered? = some (left, right)) :
    value.checksum = .error (.unordered left right) := by
  rw [checksum, unordered]

end Value

end Reconcile
