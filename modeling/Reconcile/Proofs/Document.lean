import Reconcile.Proofs.Assoc
import Reconcile.Value.Compare

/-!
Documents as finite trees. In a proper document every object has each of its keys once. On proper documents both
equalities are reflexive, and two objects are equal exactly when they agree at every key.
-/

namespace Reconcile

theorem Fields.lookup_eq_text {fields : Fields} {key : Key} {content : String} :
    Fields.lookup fields key = .text content ↔ Assoc.get? fields key = some (.text content) := by
  rw [Fields.lookup]
  cases Assoc.get? fields key with
  | none => exact iff_of_false nofun nofun
  | some value => rw [Option.getD_some, Option.some.injEq]

namespace Value

/-- Induction over a document, with a hypothesis for every item of a list and every field of an object. -/
@[elab_as_elim]
theorem byParts {motive : Value → Prop} (scalar : ∀ value : Value, value.isContainer = false → motive value)
    (list : ∀ items, (∀ item ∈ items, motive item) → motive (.list items))
    (object : ∀ fields : Fields, (∀ entry ∈ fields, motive entry.2) → motive (.object fields)) (value : Value) :
    motive value :=
  match value with
  | .null => scalar .null rfl
  | .bool flag => scalar (.bool flag) rfl
  | .int number => scalar (.int number) rfl
  | .real number => scalar (.real number) rfl
  | .text content => scalar (.text content) rfl
  | .list items => list items fun item _ => byParts scalar list object item
  | .object fields => object fields fun entry _ => byParts scalar list object entry.2
termination_by sizeOf value
decreasing_by
  · have smaller := List.sizeOf_lt_of_mem ‹_›
    simp only [Value.list.sizeOf_spec]
    omega
  · have smaller := List.sizeOf_lt_of_mem ‹entry ∈ fields›
    have inside : sizeOf entry.2 < sizeOf entry := by
      cases entry
      simp only [Prod.mk.sizeOf_spec]
      omega
    simp only [Value.object.sizeOf_spec]
    omega

theorem eq_iff_of_scalar {change : Value → Value} (level : ∀ value, (change value).isContainer = value.isContainer)
    (kept : ∀ {value}, value.isContainer = false → change value = value) {value other : Value}
    (scalar : value.isContainer = false) : change value = change other ↔ value = other := by
  rw [kept scalar]
  cases held : other.isContainer with
  | false => rw [kept held]
  | true =>
    have changed : (change other).isContainer = true := (level other).trans held
    refine iff_of_false (fun same => ?_) fun same => ?_
    · rw [same, changed] at scalar
      cases scalar
    · rw [same, held] at scalar
      cases scalar

mutual

/-- Whether every object, at any depth, has each of its keys once. -/
def isProper : Value → Bool
  | .list items => properItems items
  | .object fields => decide (Assoc.keys fields).Nodup && properFields fields
  | _ => true

def properItems : List Value → Bool
  | [] => true
  | item :: rest => isProper item && properItems rest

def properFields : Fields → Bool
  | [] => true
  | (_, value) :: rest => isProper value && properFields rest

end

theorem properItems_iff {items : List Value} : properItems items = true ↔ ∀ item ∈ items, item.isProper = true := by
  induction items with
  | nil => simp [properItems]
  | cons item rest ih => simp [properItems, ih]

theorem properFields_iff {fields : Fields} :
    properFields fields = true ↔ ∀ entry ∈ fields, entry.2.isProper = true := by
  induction fields with
  | nil => simp [properFields]
  | cons entry rest ih => simp [properFields, ih]

theorem isProper_list {items : List Value} :
    (Value.list items).isProper = true ↔ ∀ item ∈ items, item.isProper = true := by
  rw [isProper, properItems_iff]

theorem isProper_object {fields : Fields} :
    (Value.object fields).isProper = true ↔
      (Assoc.keys fields).Nodup ∧ ∀ entry ∈ fields, entry.2.isProper = true := by
  rw [isProper, Bool.and_eq_true, decide_eq_true_eq, properFields_iff]

theorem isProper_of_fields {fields : Fields} (unique : (Assoc.keys fields).Nodup)
    (proper : ∀ key value, Assoc.get? fields key = some value → value.isProper = true) :
    (Value.object fields).isProper = true :=
  isProper_object.mpr ⟨unique, fun entry member => proper entry.1 entry.2 (Assoc.get?_of_mem unique member)⟩

theorem nodup_of_isProper {fields : Fields} (proper : (Value.object fields).isProper = true) :
    (Assoc.keys fields).Nodup :=
  (isProper_object.mp proper).1

theorem isProper_of_get? {fields : Fields} (proper : (Value.object fields).isProper = true) {key : Key} {value : Value}
    (found : Assoc.get? fields key = some value) : value.isProper = true :=
  (isProper_object.mp proper).2 (key, value) (Assoc.mem_of_get? found)

theorem isProper_of_field {value inner : Value} (proper : value.isProper = true) {key : Key}
    (found : value.get? key = some inner) : inner.isProper = true := by
  cases value with
  | object fields => exact isProper_of_get? proper found
  | _ => cases found

theorem isProper_put {fields : Fields} (proper : (Value.object fields).isProper = true) (key : Key) {value : Value}
    (fresh : value.isProper = true) : (Value.object (Assoc.put fields key value)).isProper = true := by
  apply isProper_of_fields (Assoc.nodup_keys_put (nodup_of_isProper proper) key value)
  intro other present found
  rw [Assoc.get?_put] at found
  split at found
  next => exact Option.some.inj found ▸ fresh
  next => exact isProper_of_get? proper found

theorem isProper_filter {fields : Fields} (proper : (Value.object fields).isProper = true) (keep : Key × Value → Bool) :
    (Value.object (fields.filter keep)).isProper = true := by
  rw [isProper_object] at proper ⊢
  exact ⟨Assoc.nodup_keys_filter proper.1 keep, fun entry member => proper.2 entry (List.mem_filter.mp member).1⟩

theorem isProper_putNew {fields : Fields} (proper : (Value.object fields).isProper = true) (key : Key) {value : Value}
    (fresh : value.isProper = true) : (Value.object (Assoc.putNew fields key value)).isProper = true := by
  unfold Assoc.putNew
  split
  next => exact proper
  next => exact isProper_put proper key fresh

/-- Two fields that are both absent, or both there with strictly equal values. -/
def Agree : Option Value → Option Value → Prop
  | none, none => True
  | some left, some right => left.strictEq right = true
  | _, _ => False

instance (left? right? : Option Value) : Decidable (Agree left? right?) :=
  match left?, right? with
  | none, none => inferInstanceAs (Decidable True)
  | some left, some right => inferInstanceAs (Decidable (left.strictEq right = true))
  | none, some _ => inferInstanceAs (Decidable False)
  | some _, none => inferInstanceAs (Decidable False)

theorem agree_none_iff {field? : Option Value} : Agree none field? ↔ field? = none := by
  cases field? <;> simp [Agree]

theorem agree_some_iff {left : Value} {right? : Option Value} :
    Agree (some left) right? ↔ ∃ right, right? = some right ∧ left.strictEq right = true := by
  cases right? <;> simp [Agree]

theorem Agree.isSome_eq {left? right? : Option Value} (agree : Agree left? right?) :
    left?.isSome = right?.isSome := by
  cases left? with
  | none => rw [agree_none_iff.mp agree]
  | some left =>
    obtain ⟨right, rfl, _⟩ := agree_some_iff.mp agree
    rfl

theorem sameRatio_self (ratio : Ratio) : sameRatio (some ratio) (some ratio) = true :=
  ratio.same_self

theorem equalItems_self (mixed : Bool) {items : List Value} (same : ∀ item ∈ items, equalBy mixed item item = true) :
    equalItems mixed items items = true := by
  induction items with
  | nil => rfl
  | cons item rest ih =>
    rw [equalItems, same item (List.mem_cons_self ..),
      ih fun other member => same other (List.mem_cons_of_mem _ member)]
    rfl

theorem equalFields_iff (mixed : Bool) {lefts rights : Fields} :
    equalFields mixed lefts rights = true ↔
      ∀ entry ∈ lefts, ∃ right, Assoc.get? rights entry.1 = some right ∧ equalBy mixed entry.2 right = true := by
  induction lefts with
  | nil => simp [equalFields]
  | cons entry rest ih =>
    obtain ⟨key, left⟩ := entry
    simp only [equalFields, Bool.and_eq_true, List.forall_mem_cons, ih]
    cases Assoc.get? rights key <;> simp

theorem equalBy_self (mixed : Bool) (value : Value) (proper : value.isProper = true) :
    equalBy mixed value value = true := by
  induction value using byParts with
  | scalar value flat =>
    cases value with
    | null => rfl
    | bool flag => simp [equalBy]
    | int number => exact sameRatio_self _
    | real number => exact sameRatio_self _
    | text content => simp [equalBy]
    | list items => cases flat
    | object fields => cases flat
  | list items ih =>
    rw [equalBy]
    exact equalItems_self mixed fun item member => ih item member (isProper_list.mp proper item member)
  | object fields ih =>
    have ⟨unique, inner⟩ := isProper_object.mp proper
    rw [equalBy, beq_self_eq_true, Bool.true_and, equalFields_iff]
    intro entry member
    exact ⟨entry.2, Assoc.get?_of_mem unique member, ih entry member (inner entry member)⟩

theorem strictEq_self (value : Value) (proper : value.isProper = true) : value.strictEq value = true :=
  equalBy_self false value proper

theorem strictEq_object_iff {lefts rights : Fields} (uniqueLeft : (Assoc.keys lefts).Nodup)
    (uniqueRight : (Assoc.keys rights).Nodup) :
    (Value.object lefts).strictEq (.object rights) = true ↔
      ∀ key, Agree (Assoc.get? lefts key) (Assoc.get? rights key) := by
  simp only [strictEq, equalBy, Bool.and_eq_true, beq_iff_eq, equalFields_iff]
  constructor
  · rintro ⟨sameLength, partners⟩ key
    cases foundLeft : Assoc.get? lefts key with
    | some left =>
      obtain ⟨right, foundRight, equal⟩ := partners (key, left) (Assoc.mem_of_get? foundLeft)
      rw [foundRight]
      exact equal
    | none =>
      -- A key that only the right has would make it longer than the left.
      have included : Assoc.keys lefts ⊆ Assoc.keys rights := by
        intro other member
        obtain ⟨left, found⟩ := Option.isSome_iff_exists.mp (Assoc.mem_keys_iff.mp member)
        obtain ⟨right, partner, _⟩ := partners (other, left) (Assoc.mem_of_get? found)
        exact Assoc.mem_keys_iff.mpr (by rw [partner]; rfl)
      have back := Assoc.keys_subset_of_length uniqueLeft sameLength included
      have absent : key ∉ Assoc.keys rights := fun member => Assoc.get?_eq_none_iff.mp foundLeft (back member)
      rw [Assoc.get?_eq_none_iff.mpr absent]
      trivial
  · intro agree
    constructor
    · apply Assoc.length_eq_of_keys uniqueLeft uniqueRight
      intro key
      have here := agree key
      rw [Assoc.mem_keys_iff, Assoc.mem_keys_iff]
      cases foundLeft : Assoc.get? lefts key <;> cases foundRight : Assoc.get? rights key <;>
        simp_all [Agree]
    · intro entry member
      have here := agree entry.1
      rw [Assoc.get?_of_mem uniqueLeft member] at here
      cases foundRight : Assoc.get? rights entry.1 with
      | none => simp [foundRight, Agree] at here
      | some right =>
        rw [foundRight] at here
        exact ⟨right, rfl, here⟩

end Value

end Reconcile
