import Reconcile.Proofs.Value.Ordering
import Reconcile.Value.Order

/-!
Sorting by a key. The sorted list has the same items, in ascending order of their keys, and items of equal keys stay in
the order they had. What is sorted already is not moved.
-/

namespace Reconcile.Value

theorem precedes_iff {left right : Value} : left.precedes right = true ↔ left.less? right = some true := by
  rw [precedes]
  cases left.less? right <;> simp

theorem comparable_iff {keys : List Value} :
    comparable keys = true ↔ keys.Pairwise fun key other => (key.less? other).isSome = true := by
  induction keys with
  | nil => simp [comparable]
  | cons key rest ih => rw [comparable, Bool.and_eq_true, List.all_eq_true, ih, List.pairwise_cons]

theorem comparable_perm {keys others : List Value} (perm : keys.Perm others) (proper : ∀ key ∈ keys, key.isProper = true)
    (compared : comparable keys = true) : comparable others = true := by
  have turned {key other : Value} (first : key ∈ keys) (second : other ∈ keys)
      (before : (key.less? other).isSome = true) : (other.less? key).isSome = true := by
    obtain ⟨before, found⟩ := Option.isSome_iff_exists.mp before
    rw [(flips (proper key first) (proper other second) before found).1]
    rfl
  rw [comparable_iff] at compared ⊢
  have either : keys.Pairwise fun key other => (key.less? other).isSome = true ∨ (other.less? key).isSome = true :=
    compared.imp Or.inl
  refine (perm.pairwise either fun compared => compared.symm).imp_of_mem fun first second compared => ?_
  exact compared.elim id (turned (perm.mem_iff.mpr second) (perm.mem_iff.mpr first))

section Entries

def Upward (first second : Value × Value) : Prop :=
  second.1.precedes first.1 = false

/-- Entries in the order of their keys, those with equal keys in the order of another list that has the same entries. -/
structure Sorts (entries sorted : List (Value × Value)) : Prop where
  perm : sorted.Perm entries
  ordered : sorted.Pairwise Upward
  stable : ∀ value : Value, value.isProper = true →
    sorted.filter (fun entry => value.looseEq entry.1) = entries.filter fun entry => value.looseEq entry.1

variable {key item : Value} {entries sorted : List (Value × Value)}

theorem perm_insertByKey (key item : Value) (entries : List (Value × Value)) :
    (insertByKey key item entries).Perm (entries ++ [(key, item)]) := by
  induction entries with
  | nil => exact .refl _
  | cons entry rest ih =>
    rw [insertByKey]
    split
    next => exact (List.perm_append_singleton (key, item) (entry :: rest)).symm
    next => exact ih.cons entry

theorem forall_upward {other held : Value} (first : key.isProper = true)
    (proper : ∀ entry ∈ (other, held) :: sorted, entry.1.isProper = true)
    (ordered : ((other, held) :: sorted).Pairwise Upward) (before : key.less? other = some true) :
    ∀ entry ∈ (other, held) :: sorted, entry.1.precedes key = false ∧ key.looseEq entry.1 = false := by
  have ⟨otherProper, restProper⟩ := List.forall_mem_cons.mp proper
  have ⟨least, _⟩ := List.pairwise_cons.mp ordered
  have flipped := flips first otherProper true before
  refine List.forall_mem_cons.mpr ⟨⟨?_, flipped.2 rfl⟩, fun entry later => ?_⟩
  · rw [precedes, flipped.1]
    rfl
  · have entryProper := restProper entry later
    have behind := least entry later
    rw [Upward, ← Bool.not_eq_true, precedes_iff] at behind
    constructor
    · rw [← Bool.not_eq_true, precedes_iff]
      exact fun sooner => behind (less?_trans entryProper first otherProper sooner before)
    · rw [← Bool.not_eq_true]
      exact fun same => behind
        (fits first otherProper _ _ _ entryProper otherProper same (looseEq_self otherProper) before)

theorem pairwise_insertByKey (first : key.isProper = true) (proper : ∀ entry ∈ sorted, entry.1.isProper = true)
    (ordered : sorted.Pairwise Upward) : (insertByKey key item sorted).Pairwise Upward := by
  induction sorted with
  | nil => exact List.pairwise_singleton Upward (key, item)
  | cons entry rest ih =>
    have ⟨_, restProper⟩ := List.forall_mem_cons.mp proper
    have ⟨least, restOrdered⟩ := List.pairwise_cons.mp ordered
    rw [insertByKey]
    split
    next before =>
      exact ordered.cons fun later member => (forall_upward first proper ordered (precedes_iff.mp before) later member).1
    next after =>
      refine (ih restProper restOrdered).cons fun later member => ?_
      rcases List.mem_append.mp ((perm_insertByKey key item rest).mem_iff.mp member) with member | new
      · exact least later member
      · obtain rfl := List.mem_singleton.mp new
        exact Bool.eq_false_iff.mpr after

theorem filter_insertByKey (first : key.isProper = true) (proper : ∀ entry ∈ sorted, entry.1.isProper = true)
    (ordered : sorted.Pairwise Upward) {value : Value} (fixed : value.isProper = true) :
    (insertByKey key item sorted).filter (fun entry => value.looseEq entry.1) =
      (sorted ++ [(key, item)]).filter fun entry => value.looseEq entry.1 := by
  induction sorted with
  | nil => rfl
  | cons entry rest ih =>
    have ⟨_, restProper⟩ := List.forall_mem_cons.mp proper
    have ⟨_, restOrdered⟩ := List.pairwise_cons.mp ordered
    rw [insertByKey]
    split
    next before =>
      rw [List.filter_append, List.filter_cons]
      cases equal : value.looseEq key with
      | false => simp [equal]
      | true =>
        -- What stands behind the new entry has greater keys.
        have none : (entry :: rest).filter (fun entry => value.looseEq entry.1) = [] := by
          refine List.filter_eq_nil_iff.mpr fun later member same => ?_
          have apart := (forall_upward first proper ordered (precedes_iff.mp before) later member).2
          rw [looseEq_trans (looseEq_symm fixed first equal) same] at apart
          cases apart
        rw [none]
        simp [equal]
    next after => rw [List.filter_cons, List.cons_append, List.filter_cons, ih restProper restOrdered]

theorem Sorts.insertByKey (sorts : Sorts entries sorted) (first : key.isProper = true)
    (proper : ∀ entry ∈ entries, entry.1.isProper = true) :
    Sorts (entries ++ [(key, item)]) (insertByKey key item sorted) := by
  have sortedProper : ∀ entry ∈ sorted, entry.1.isProper = true := fun entry member =>
    proper entry (sorts.perm.mem_iff.mp member)
  refine ⟨(perm_insertByKey key item sorted).trans (sorts.perm.append_right _),
    pairwise_insertByKey first sortedProper sorts.ordered, fun value fixed => ?_⟩
  rw [filter_insertByKey first sortedProper sorts.ordered fixed, List.filter_append, List.filter_append,
    sorts.stable value fixed]

def sortEntries (entries : List (Value × Value)) : List (Value × Value) :=
  entries.foldl (fun sorted entry => Value.insertByKey entry.1 entry.2 sorted) []

theorem sorts_sortEntries (proper : ∀ entry ∈ entries, entry.1.isProper = true) : Sorts entries (sortEntries entries) := by
  have run {front sorted : List (Value × Value)} (sorts : Sorts front sorted) (later : List (Value × Value))
      (proper : ∀ entry ∈ front ++ later, entry.1.isProper = true) :
      Sorts (front ++ later) (later.foldl (fun sorted entry => Value.insertByKey entry.1 entry.2 sorted) sorted) := by
    induction later generalizing front sorted with
    | nil => rwa [List.append_nil]
    | cons entry rest ih =>
      have ⟨before, behind⟩ := List.forall_mem_append.mp proper
      rw [List.append_cons] at proper ⊢
      exact ih (sorts.insertByKey (behind entry (List.mem_cons_self ..)) before) proper
  exact run ⟨.refl [], .nil, fun _ _ => rfl⟩ entries proper

theorem insertByKey_of_upward (behind : ∀ entry ∈ sorted, Upward entry (key, item)) :
    insertByKey key item sorted = sorted ++ [(key, item)] := by
  induction sorted with
  | nil => rfl
  | cons entry rest ih =>
    have ⟨first, later⟩ := List.forall_mem_cons.mp behind
    rw [Value.insertByKey, if_neg (Bool.eq_false_iff.mp first), ih later, List.cons_append]

theorem sortEntries_eq_self (ordered : entries.Pairwise Upward) : sortEntries entries = entries := by
  have run {front : List (Value × Value)} (later : List (Value × Value)) (ordered : (front ++ later).Pairwise Upward) :
      later.foldl (fun sorted entry => Value.insertByKey entry.1 entry.2 sorted) front = front ++ later := by
    induction later generalizing front with
    | nil => exact (List.append_nil front).symm
    | cons entry rest ih =>
      have behind : ∀ other ∈ front, Upward other entry := fun other member =>
        (List.pairwise_append.mp ordered).2.2 other member entry (List.mem_cons_self ..)
      rw [List.append_cons] at ordered ⊢
      rw [List.foldl_cons, insertByKey_of_upward behind, ih ordered]
  exact run entries ordered

end Entries

section Items

/-- The items of a list in the ascending order of their keys, items of equal keys in the order of the list. -/
structure Ascending (key : Value → Value) (items sorted : List Value) : Prop where
  perm : sorted.Perm items
  ordered : sorted.Pairwise fun first second =>
    (key first).less? (key second) = some true ∨ (key first).looseEq (key second) = true
  stable : ∀ item ∈ items, sorted.filter (fun other => (key item).looseEq (key other)) =
    items.filter fun other => (key item).looseEq (key other)

def keyed (key : Value → Value) (item : Value) : Value × Value :=
  (key item, item)

variable {key : Value → Value} {items sorted : List Value}

theorem map_keyed (key : Value → Value) (items : List Value) : (items.map (keyed key)).map Prod.snd = items := by
  rw [List.map_map]
  exact List.map_id items

theorem sorts_sortByKey (proper : ∀ item ∈ items, (key item).isProper = true) :
    Sorts (items.map (keyed key)) ((sortByKey (items.map (keyed key))).map (keyed key)) := by
  have sorts := sorts_sortEntries (List.forall_mem_map.mpr proper : ∀ entry ∈ items.map (keyed key), entry.1.isProper = true)
  have listed : (sortByKey (items.map (keyed key))).map (keyed key) = sortEntries (items.map (keyed key)) := by
    rw [sortByKey, ← sortEntries, List.map_map]
    refine (List.map_congr_left fun entry member => ?_).trans (List.map_id _)
    obtain ⟨item, _, rfl⟩ := List.mem_map.mp (sorts.perm.mem_iff.mp member)
    rfl
  rwa [listed]

theorem ascending_sortByKey (proper : ∀ item ∈ items, (key item).isProper = true)
    (compared : comparable (items.map key) = true) : Ascending key items (sortByKey (items.map (keyed key))) := by
  have sorts := sorts_sortByKey proper
  have perm : (sortByKey (items.map (keyed key))).Perm items := by
    have snd := sorts.perm.map Prod.snd
    rwa [map_keyed, map_keyed] at snd
  refine ⟨perm, ?_, fun item member => ?_⟩
  · have keysProper : ∀ value ∈ items.map key, value.isProper = true := List.forall_mem_map.mpr proper
    have known := comparable_iff.mp (comparable_perm (perm.map key).symm keysProper compared)
    have both := (List.pairwise_map.mp known).and (List.pairwise_map.mp sorts.ordered)
    refine both.imp_of_mem fun {first second} member member' both => ?_
    obtain ⟨before, found⟩ := Option.isSome_iff_exists.mp both.1
    have firstProper := proper first (perm.mem_iff.mp member)
    have secondProper := proper second (perm.mem_iff.mp member')
    have behind := both.2
    rw [Upward, precedes, keyed, keyed, (flips firstProper secondProper before found).1] at behind
    cases before with
    | true => exact .inl found
    | false => exact .inr (by simpa using behind)
  · have stable := congrArg (List.map Prod.snd) (sorts.stable (key item) (proper item member))
    rw [List.filter_map, List.filter_map, map_keyed, map_keyed] at stable
    exact stable

theorem Ascending.sortByKey_eq (ascending : Ascending key items sorted)
    (proper : ∀ item ∈ items, (key item).isProper = true) : sortByKey (sorted.map (keyed key)) = sorted := by
  have upward : (sorted.map (keyed key)).Pairwise Upward := by
    refine List.pairwise_map.mpr (ascending.ordered.imp_of_mem fun {first second} member member' before => ?_)
    have firstProper := proper first (ascending.perm.mem_iff.mp member)
    have secondProper := proper second (ascending.perm.mem_iff.mp member')
    rw [Upward, ← Bool.not_eq_true, precedes_iff, keyed, keyed]
    intro sooner
    have flipped := flips secondProper firstProper true sooner
    rcases before with less | same
    · rw [flipped.1] at less
      cases less
    · rw [looseEq_comm firstProper secondProper, flipped.2 rfl] at same
      cases same
  rw [sortByKey, ← sortEntries, sortEntries_eq_self upward, map_keyed]

theorem comparable_texts (text : Value → String) (items : List Value) :
    comparable (items.map fun item => .text (text item)) = true :=
  comparable_iff.mpr (List.pairwise_map.mpr (List.pairwise_of_forall fun _ _ => rfl))

end Items

end Reconcile.Value
