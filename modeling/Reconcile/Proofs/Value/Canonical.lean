import Mathlib.Data.List.Perm.Basic
import Reconcile.Proofs.Value.Reading
import Reconcile.Value.Literal

/-!
The canonical text of a document says what is in it and nothing else: documents have the same text exactly when they
differ at most in the order in which their objects list their keys, at any depth.
-/

namespace Reconcile.Value

section Order

variable {α : Type}

def InOrder (first second : Key × α) : Prop :=
  first.1.display ≤ second.1.display

theorem keyBefore?_of_named {left right : Key} (leftNamed : left.isNamed = true) (rightNamed : right.isNamed = true) :
    keyBefore? left right = some (decide (left.display < right.display)) := by
  cases left with
  | named left =>
    cases right with
    | named right => rfl
    | _ => cases rightNamed
  | _ => cases leftNamed

theorem eq_of_display {left right : Key} (leftNamed : left.isNamed = true) (rightNamed : right.isNamed = true)
    (same : left.display = right.display) : left = right := by
  cases left with
  | named left =>
    cases right with
    | named right => exact congrArg Key.named same
    | _ => cases rightNamed
  | _ => cases leftNamed

theorem pairwise_insertField {entry : Key × α} (named : entry.1.isNamed = true) {fields : List (Key × α)}
    (others : ∀ other ∈ fields, other.1.isNamed = true) (ordered : fields.Pairwise InOrder) :
    (insertField entry fields).Pairwise InOrder := by
  induction fields with
  | nil => exact List.pairwise_singleton InOrder entry
  | cons other rest ih =>
    have ⟨otherNamed, restNamed⟩ := List.forall_mem_cons.mp others
    have ⟨least, restOrdered⟩ := List.pairwise_cons.mp ordered
    rw [insertField, keyBefore?_of_named named otherNamed, Option.getD_some]
    split_ifs with before
    · have before : InOrder entry other := Std.le_of_lt (of_decide_eq_true before)
      refine ordered.cons (List.forall_mem_cons.mpr ⟨before, fun later member => ?_⟩)
      exact String.le_trans before (least later member)
    · have after : InOrder other entry := String.not_lt.mp fun less => before (decide_eq_true less)
      refine (ih restNamed restOrdered).cons fun later member => ?_
      rcases List.mem_cons.mp ((perm_insertField entry rest).mem_iff.mp member) with rfl | member
      · exact after
      · exact least later member

theorem pairwise_sortFields {fields : List (Key × α)} (named : ∀ entry ∈ fields, entry.1.isNamed = true) :
    (sortFields fields).Pairwise InOrder := by
  induction fields with
  | nil => exact .nil
  | cons entry rest ih =>
    have ⟨first, later⟩ := List.forall_mem_cons.mp named
    have others : ∀ other ∈ sortFields rest, other.1.isNamed = true := fun other member =>
      later other ((perm_sortFields rest).mem_iff.mp member)
    exact pairwise_insertField first others (ih later)

theorem sortFields_eq_iff {fields others : List (Key × α)} (unique : (Assoc.keys fields).Nodup)
    (named : ∀ entry ∈ fields, entry.1.isNamed = true) :
    sortFields fields = sortFields others ↔ fields.Perm others := by
  constructor
  · intro same
    exact (perm_sortFields fields).symm.trans (same ▸ perm_sortFields others)
  · intro perm
    have othersNamed : ∀ entry ∈ others, entry.1.isNamed = true := fun entry member =>
      named entry (perm.mem_iff.mpr member)
    have sortedPerm := (perm_sortFields fields).trans (perm.trans (perm_sortFields others).symm)
    refine sortedPerm.eq_of_pairwise ?_ (pairwise_sortFields named) (pairwise_sortFields othersNamed)
    -- The order decides between distinct names, so that entries that it does not tell apart are one and the same.
    intro entry other member otherMember before after
    have member : entry ∈ fields := (perm_sortFields fields).mem_iff.mp member
    have otherMember : other ∈ fields := perm.mem_iff.mpr ((perm_sortFields others).mem_iff.mp otherMember)
    have sameKey : entry.1 = other.1 :=
      eq_of_display (named entry member) (named other otherMember) (String.le_antisymm before after)
    exact List.inj_on_of_nodup_map unique member otherMember sameKey

end Order

section Rearranging

mutual

/-- Whether two documents differ at most in the order in which their objects list their keys, at any depth. -/
def Rearranged : Value → Value → Prop
  | .list items, .list others => RearrangedItems items others
  | .object fields, .object others => ∃ listed : Fields, listed.Perm others ∧ RearrangedFields fields listed
  | value, other => value = other

def RearrangedItems : List Value → List Value → Prop
  | [], [] => True
  | item :: rest, other :: others => Rearranged item other ∧ RearrangedItems rest others
  | _, _ => False

def RearrangedFields : Fields → Fields → Prop
  | [], [] => True
  | (key, value) :: rest, (key', other) :: others =>
    key = key' ∧ Rearranged value other ∧ RearrangedFields rest others
  | _, _ => False

end

def sortedField (entry : Key × Value) : Key × Value :=
  (entry.1, entry.2.sorted)

theorem sortedItems_eq_map (items : List Value) : sortedItems items = items.map sorted := by
  induction items with
  | nil => rfl
  | cons item rest ih => rw [sortedItems, ih, List.map_cons]

theorem sortedFields_eq_map (fields : Fields) : sortedFields fields = fields.map sortedField := by
  induction fields with
  | nil => rfl
  | cons entry rest ih => rw [sortedFields, ih, List.map_cons, sortedField]

theorem keys_sortedField (fields : Fields) : Assoc.keys (fields.map sortedField) = Assoc.keys fields :=
  List.map_map

theorem isContainer_sorted (value : Value) : value.sorted.isContainer = value.isContainer := by
  cases value <;> rfl

theorem sorted_of_scalar {value : Value} (scalar : value.isContainer = false) : value.sorted = value := by
  cases value <;> first | rfl | cases scalar

theorem rearranged_of_scalar {value other : Value} (scalar : value.isContainer = false) :
    Rearranged value other ↔ value = other := by
  cases value with
  | list items => cases scalar
  | object fields => cases scalar
  | _ => rw [Rearranged] <;> simp

theorem sortedItems_eq_iff {items others : List Value}
    (each : ∀ item ∈ items, ∀ other : Value, item.sorted = other.sorted ↔ Rearranged item other) :
    items.map sorted = others.map sorted ↔ RearrangedItems items others := by
  induction items generalizing others with
  | nil => cases others <;> simp [RearrangedItems]
  | cons item rest ih =>
    have ⟨first, later⟩ := List.forall_mem_cons.mp each
    cases others with
    | nil => simp [RearrangedItems]
    | cons other others => rw [List.map_cons, List.map_cons, RearrangedItems, List.cons.injEq, first, ih later]

theorem sortedFields_eq_iff {fields others : Fields}
    (each : ∀ entry ∈ fields, ∀ other : Value, entry.2.sorted = other.sorted ↔ Rearranged entry.2 other) :
    fields.map sortedField = others.map sortedField ↔ RearrangedFields fields others := by
  induction fields generalizing others with
  | nil => cases others <;> simp [RearrangedFields]
  | cons entry rest ih =>
    obtain ⟨key, value⟩ := entry
    have ⟨first, later⟩ := List.forall_mem_cons.mp each
    cases others with
    | nil => simp [RearrangedFields]
    | cons entry others =>
      obtain ⟨key', other⟩ := entry
      rw [List.map_cons, List.map_cons, RearrangedFields, List.cons.injEq, sortedField, sortedField, Prod.mk.injEq,
        first, ih later, and_assoc]

theorem perm_map_iff {α β : Type} (change : α → β) (entries others : List α) :
    (entries.map change).Perm (others.map change) ↔
      ∃ listed : List α, listed.Perm others ∧ entries.map change = listed.map change := by
  constructor
  · intro perm
    have matched : List.Forall₂ (fun image entry => image = change entry) (others.map change) others :=
      List.forall₂_map_left_iff.mpr (List.forall₂_same.mpr fun _ _ => rfl)
    obtain ⟨listed, images, order⟩ := List.perm_comp_forall₂ perm matched
    refine ⟨listed, order, ?_⟩
    rwa [← List.forall₂_eq_eq_eq, List.forall₂_map_right_iff]
  · rintro ⟨listed, perm, same⟩
    exact same ▸ perm.map change

theorem sorted_eq_iff (value other : Value) (proper : value.isProper = true) (named : value.isNamed = true) :
    value.sorted = other.sorted ↔ Rearranged value other := by
  induction value using byParts generalizing other with
  | scalar value scalar =>
    rw [rearranged_of_scalar scalar]
    exact eq_iff_of_scalar isContainer_sorted sorted_of_scalar scalar
  | list items ih =>
    rw [isProper_list] at proper
    rw [isNamed_list] at named
    cases other with
    | list others =>
      rw [sorted, sorted, Rearranged, Value.list.injEq, sortedItems_eq_map, sortedItems_eq_map]
      exact sortedItems_eq_iff fun item member other => ih item member other (proper item member) (named item member)
    | _ => exact iff_of_false (fun same => by cases same) (fun rearranged => by cases rearranged)
  | object fields ih =>
    rw [isProper_object] at proper
    rw [isNamed_object] at named
    cases other with
    | object others =>
      have unique : (Assoc.keys (fields.map sortedField)).Nodup := by
        rw [keys_sortedField]
        exact proper.1
      have keysNamed : ∀ entry ∈ fields.map sortedField, entry.1.isNamed = true :=
        List.forall_mem_map.mpr fun entry member => (named entry member).1
      rw [sorted, sorted, Rearranged, Value.object.injEq, sortedFields_eq_map, sortedFields_eq_map,
        sortFields_eq_iff unique keysNamed, perm_map_iff]
      refine exists_congr fun listed => and_congr_right fun _ => ?_
      exact sortedFields_eq_iff fun entry member other =>
        ih entry member other (proper.2 entry member) (named entry member).2
    | _ => exact iff_of_false (fun same => by cases same) (fun rearranged => by cases rearranged)

theorem plain_sorted (value : Value) (plain : Plain value) : Plain value.sorted := by
  induction value using byParts with
  | scalar value scalar => rwa [sorted_of_scalar scalar]
  | list items ih =>
    rw [plain_list] at plain
    rw [sorted, sortedItems_eq_map, plain_list]
    exact List.forall_mem_map.mpr fun item member => ih item member (plain item member)
  | object fields ih =>
    rw [plain_object] at plain
    rw [sorted, sortedFields_eq_map, plain_object]
    have order := perm_sortFields (fields.map sortedField)
    constructor
    · have unique : (Assoc.keys (fields.map sortedField)).Nodup := by
        rw [keys_sortedField]
        exact plain.1
      exact (order.map Prod.fst).nodup_iff.mpr unique
    · intro entry member
      obtain ⟨field, present, rfl⟩ := List.mem_map.mp (order.mem_iff.mp member)
      have ⟨named, held⟩ := plain.2 field present
      exact ⟨named, ih field present held⟩

/-- Documents without fractions always have a canonical text, and they share it exactly when they differ at most in the
order of keys. -/
theorem canonical_eq_iff {left right : Value} (plainLeft : Plain left) (plainRight : Plain right) :
    left.unordered? = none ∧ right.unordered? = none ∧ (left.canonical = right.canonical ↔ Rearranged left right) := by
  refine ⟨unordered?_of_isNamed left plainLeft.named, unordered?_of_isNamed right plainRight.named, ?_⟩
  rw [← sorted_eq_iff left right plainLeft.proper plainLeft.named]
  constructor
  · exact json_injective (plain_sorted left plainLeft) (plain_sorted right plainRight)
  · exact congrArg json

/-- Two lists of the same fields have one text, and it changes with the value of a field. -/
theorem canonical_eq_iff_ports :
    (Value.object [("mtu", .int 1), ("ports", .object [("up", .bool true), ("note", .null)])]).canonical =
        (Value.object [("ports", .object [("note", .null), ("up", .bool true)]), ("mtu", .int 1)]).canonical ∧
      (Value.object [("mtu", .int 1)]).canonical ≠ (Value.object [("mtu", .bool true)]).canonical := by
  constructor
  · refine (canonical_eq_iff ⟨by decide, by decide, by decide⟩ ⟨by decide, by decide, by decide⟩).2.2.mpr ?_
    refine ⟨[("mtu", .int 1), ("ports", .object [("note", .null), ("up", .bool true)])], .swap .., ?_⟩
    exact ⟨rfl, rfl, rfl, ⟨[("up", .bool true), ("note", .null)], .swap .., rfl, rfl, rfl, rfl, trivial⟩, trivial⟩
  · intro same
    have rearranged := (canonical_eq_iff ⟨by decide, by decide, by decide⟩ ⟨by decide, by decide, by decide⟩).2.2.mp same
    obtain ⟨listed, order, rearranged⟩ := rearranged
    rw [List.perm_singleton] at order
    rw [order] at rearranged
    cases rearranged.2.1

end Rearranging

end Reconcile.Value
