import Mathlib.Data.List.Forall2
import Mathlib.Data.List.Nodup
import Mathlib.Data.List.Perm.Subperm
import Reconcile.Assoc

/-!
More on association lists: what filtering, mapping and joining do to the view, and lists that have each key once.
Two such lists hold the same keys as soon as one includes the other and is no shorter.
-/

namespace Reconcile.Assoc

variable {κ : Type} {α : Type} [DecidableEq κ]

omit [DecidableEq κ] in
@[simp] theorem keys_nil : keys ([] : List (κ × α)) = [] := rfl

omit [DecidableEq κ] in
@[simp] theorem keys_cons (key : κ) (value : α) (rest : List (κ × α)) :
    keys ((key, value) :: rest) = key :: keys rest := rfl

theorem get?_put (entries : List (κ × α)) (key other : κ) (value : α) :
    get? (put entries key value) other = if key = other then some value else get? entries other := by
  by_cases same : key = other
  · subst same
    simp
  · rw [get?_put_of_ne same, if_neg same]

theorem get?_erase (entries : List (κ × α)) (key other : κ) :
    get? (erase entries key) other = if key = other then none else get? entries other := by
  by_cases same : key = other
  · subst same
    simp
  · rw [get?_erase_of_ne same, if_neg same]

theorem has_eq_isSome (entries : List (κ × α)) (key : κ) : has entries key = (get? entries key).isSome := rfl

theorem get?_putNew (entries : List (κ × α)) (key other : κ) (value : α) :
    get? (putNew entries key value) other =
      if key = other then some ((get? entries key).getD value) else get? entries other := by
  unfold putNew
  cases found : get? entries key with
  | none =>
    simp only [has_eq_isSome, found, Option.isSome_none, Bool.false_eq_true, ↓reduceIte, Option.getD_none]
    exact get?_put entries key other value
  | some present =>
    simp only [has_eq_isSome, found, Option.isSome_some, ↓reduceIte, Option.getD_some]
    by_cases same : key = other
    · rw [if_pos same, ← same, found]
    · rw [if_neg same]

theorem get?_filter (entries : List (κ × α)) (keep : κ → Bool) (key : κ) :
    get? (entries.filter fun entry => keep entry.1) key = if keep key then get? entries key else none := by
  induction entries with
  | nil => simp
  | cons entry rest ih =>
    obtain ⟨key', value⟩ := entry
    by_cases same : key' = key
    · subst same
      cases kept : keep key' with
      | false => simpa [kept] using ih
      | true => simp [kept, get?]
    · cases kept : keep key' with
      | false => simpa [kept, get?, same] using ih
      | true => simpa [kept, get?, same] using ih

theorem get?_map {β : Type} (entries : List (κ × α)) (change : κ → α → β) (key : κ) :
    get? (entries.map fun entry => (entry.1, change entry.1 entry.2)) key = (get? entries key).map (change key) := by
  induction entries with
  | nil => rfl
  | cons entry rest ih =>
    by_cases same : entry.1 = key
    · simp [get?, same]
    · simpa [get?, same] using ih

theorem get?_append (front back : List (κ × α)) (key : κ) :
    get? (front ++ back) key = (get? front key).or (get? back key) := by
  induction front with
  | nil => rfl
  | cons entry rest ih =>
    by_cases same : entry.1 = key
    · simp [get?, same]
    · simpa [get?, same] using ih

omit [DecidableEq κ] in
theorem keys_map {β : Type} (entries : List (κ × α)) (change : κ → α → β) :
    keys (entries.map fun entry => (entry.1, change entry.1 entry.2)) = keys entries := by
  simp [keys]

theorem mem_of_get? {entries : List (κ × α)} {key : κ} {value : α} (found : get? entries key = some value) :
    (key, value) ∈ entries := by
  induction entries with
  | nil => simp at found
  | cons entry rest ih =>
    obtain ⟨key', value'⟩ := entry
    by_cases same : key' = key
    · simp only [get?, same, ↓reduceIte, Option.some.injEq] at found
      simp [same, found]
    · simp only [get?, same, ↓reduceIte] at found
      exact List.mem_cons_of_mem _ (ih found)

theorem mem_keys_iff {entries : List (κ × α)} {key : κ} : key ∈ keys entries ↔ (get? entries key).isSome = true := by
  rw [← has_iff, has_eq_isSome]

theorem get?_eq_none_iff {entries : List (κ × α)} {key : κ} : get? entries key = none ↔ key ∉ keys entries := by
  rw [mem_keys_iff]
  simp

theorem get?_of_mem {entries : List (κ × α)} (unique : (keys entries).Nodup) {key : κ} {value : α}
    (member : (key, value) ∈ entries) : get? entries key = some value := by
  induction entries with
  | nil => cases member
  | cons entry rest ih =>
    obtain ⟨key', value'⟩ := entry
    rw [keys_cons, List.nodup_cons] at unique
    rcases List.mem_cons.mp member with same | later
    · cases same
      simp [get?]
    · have differ : key' ≠ key := by
        rintro rfl
        exact unique.1 (List.mem_map_of_mem later)
      simpa [get?, differ] using ih unique.2 later

theorem put_eq_self {entries : List (κ × α)} {key : κ} {value : α} (found : get? entries key = some value) :
    put entries key value = entries := by
  induction entries with
  | nil => simp at found
  | cons entry rest ih =>
    obtain ⟨key', value'⟩ := entry
    by_cases same : key' = key
    · simp_all [get?, put]
    · simp only [get?, same, ↓reduceIte] at found
      simp [put, same, ih found]

theorem putNew_eq_self {entries : List (κ × α)} {key : κ} {value : α} (present : has entries key = true) :
    putNew entries key value = entries := by
  simp [putNew, present]

theorem put_put (entries : List (κ × α)) (key : κ) (value last : α) :
    put (put entries key value) key last = put entries key last := by
  induction entries with
  | nil => simp [put]
  | cons entry rest ih =>
    obtain ⟨key', value'⟩ := entry
    by_cases same : key' = key
    · simp [put, same]
    · simp [put, same, ih]

theorem erase_eq_self {entries : List (κ × α)} {key : κ} (absent : get? entries key = none) :
    erase entries key = entries := by
  apply List.filter_eq_self.mpr
  intro entry member
  have other : entry.1 ≠ key := by
    rintro rfl
    exact get?_eq_none_iff.mp absent (List.mem_map_of_mem member)
  simpa using other

theorem keys_put (entries : List (κ × α)) (key : κ) (value : α) :
    keys (put entries key value) = if key ∈ keys entries then keys entries else keys entries ++ [key] := by
  induction entries with
  | nil => simp [put]
  | cons entry rest ih =>
    obtain ⟨key', value'⟩ := entry
    by_cases same : key' = key
    · simp [put, same]
    · rw [put, if_neg same, keys_cons, keys_cons, ih]
      by_cases later : key ∈ keys rest
      · rw [if_pos later, if_pos (List.mem_cons_of_mem _ later)]
      · have absent : key ∉ key' :: keys rest := by simp [Ne.symm same, later]
        rw [if_neg later, if_neg absent, List.cons_append]

theorem isEmpty_put (entries : List (κ × α)) (key : κ) (value : α) : (put entries key value).isEmpty = false := by
  cases entries with
  | nil => rfl
  | cons entry rest =>
    rw [put]
    split
    next => rfl
    next => rfl

theorem get?_putAll (entries fresh : List (κ × α)) (key : κ) :
    get? (putAll entries fresh) key = (get? fresh.reverse key).or (get? entries key) := by
  induction fresh generalizing entries with
  | nil => rfl
  | cons entry rest ih =>
    have step : putAll entries (entry :: rest) = putAll (put entries entry.1 entry.2) rest := rfl
    rw [step, ih, get?_put, List.reverse_cons, get?_append, Option.or_assoc]
    congr 1
    by_cases same : entry.1 = key
    · simp [get?, same]
    · simp [get?, same]

theorem has_putAll (entries fresh : List (κ × α)) (key : κ) :
    has (putAll entries fresh) key = (has fresh key || has entries key) := by
  have turned : has fresh.reverse key = has fresh key := by
    rw [Bool.eq_iff_iff, has_eq_isSome, has_eq_isSome, ← mem_keys_iff, ← mem_keys_iff, keys, List.map_reverse,
      List.mem_reverse]
    rfl
  rw [has_eq_isSome, get?_putAll, Option.isSome_or, ← has_eq_isSome, ← has_eq_isSome, turned]

theorem get?_putAll_of_absent {fresh : List (κ × α)} {key : κ} (absent : get? fresh key = none)
    (entries : List (κ × α)) : get? (putAll entries fresh) key = get? entries key := by
  induction fresh generalizing entries with
  | nil => rfl
  | cons entry rest ih =>
    obtain ⟨head, value⟩ := entry
    by_cases same : head = key
    · simp [get?, same] at absent
    · rw [get?, if_neg same] at absent
      exact (ih absent _).trans (get?_put_of_ne same value)

theorem get?_putAll_cases {entries fresh : List (κ × α)} {key : κ} {value : α}
    (found : get? (putAll entries fresh) key = some value) : (key, value) ∈ fresh ∨ get? entries key = some value := by
  induction fresh generalizing entries with
  | nil => exact .inr found
  | cons entry rest ih =>
    rcases ih found with later | earlier
    · exact .inl (List.mem_cons_of_mem _ later)
    · rw [get?_put] at earlier
      split at earlier
      next same =>
        rw [← same, ← Option.some.inj earlier]
        exact .inl (List.mem_cons_self ..)
      next => exact .inr earlier

theorem forall_mem_put (holds : α → Prop) {entries : List (κ × α)} (all : ∀ entry ∈ entries, holds entry.2)
    {key : κ} {value : α} (fresh : holds value) : ∀ entry ∈ put entries key value, holds entry.2 := by
  induction entries with
  | nil => simpa [put] using fresh
  | cons entry rest ih =>
    rw [List.forall_mem_cons] at all
    rw [put]
    split
    next => exact List.forall_mem_cons.mpr ⟨fresh, all.2⟩
    next => exact List.forall_mem_cons.mpr ⟨all.1, ih all.2⟩

theorem nodup_keys_put {entries : List (κ × α)} (unique : (keys entries).Nodup) (key : κ) (value : α) :
    (keys (put entries key value)).Nodup := by
  rw [keys_put]
  split
  next => exact unique
  next absent =>
    rw [List.nodup_append]
    refine ⟨unique, List.nodup_singleton key, ?_⟩
    intro other member last lastMember same
    rw [List.mem_singleton.mp lastMember] at same
    exact absent (same ▸ member)

theorem nodup_keys_putNew {entries : List (κ × α)} (unique : (keys entries).Nodup) (key : κ) (value : α) :
    (keys (putNew entries key value)).Nodup := by
  unfold putNew
  split
  next => exact unique
  next => exact nodup_keys_put unique key value

theorem nodup_keys_putAll {entries : List (κ × α)} (unique : (keys entries).Nodup) (fresh : List (κ × α)) :
    (keys (putAll entries fresh)).Nodup := by
  unfold putAll
  induction fresh generalizing entries with
  | nil => exact unique
  | cons entry rest ih => exact ih (nodup_keys_put unique entry.1 entry.2)

theorem mem_erase {entries : List (κ × α)} {key : κ} {entry : κ × α} :
    entry ∈ erase entries key ↔ entry ∈ entries ∧ entry.1 ≠ key := by
  rw [erase, List.mem_filter, decide_eq_true_iff]

omit [DecidableEq κ] in
theorem nodup_keys_filter {entries : List (κ × α)} (unique : (keys entries).Nodup) (keep : κ × α → Bool) :
    (keys (entries.filter keep)).Nodup :=
  unique.sublist (List.filter_sublist.map Prod.fst)

omit [DecidableEq κ] in
theorem keys_subset_of_length {β : Type} {lefts : List (κ × α)} {rights : List (κ × β)}
    (unique : (keys lefts).Nodup) (same : lefts.length = rights.length) (included : keys lefts ⊆ keys rights) :
    keys rights ⊆ keys lefts := by
  have fits : (keys rights).length ≤ (keys lefts).length := by simp [keys, same]
  exact ((unique.subperm included).perm_of_length_le fits).symm.subset

theorem perm_of_get? {lefts rights : List (κ × α)} (uniqueLeft : (keys lefts).Nodup) (uniqueRight : (keys rights).Nodup)
    (same : ∀ key, get? lefts key = get? rights key) : lefts.Perm rights := by
  rw [List.perm_ext_iff_of_nodup (List.Nodup.of_map Prod.fst uniqueLeft) (List.Nodup.of_map Prod.fst uniqueRight)]
  rintro ⟨key, value⟩
  constructor
  · exact fun member => mem_of_get? (same key ▸ get?_of_mem uniqueLeft member)
  · exact fun member => mem_of_get? ((same key).symm ▸ get?_of_mem uniqueRight member)

theorem eq_of_get? {lefts rights : List (κ × α)} (same : keys lefts = keys rights) (unique : (keys lefts).Nodup)
    (agree : ∀ key, get? lefts key = get? rights key) : lefts = rights := by
  induction lefts generalizing rights with
  | nil => exact (List.map_eq_nil_iff.mp same.symm).symm
  | cons entry rest ih =>
    obtain ⟨key, value⟩ := entry
    obtain ⟨⟨key', value'⟩, others, rfl⟩ := List.exists_cons_of_length_eq_add_one
      (by simpa [keys] using (congrArg List.length same).symm)
    rw [keys_cons, keys_cons, List.cons.injEq] at same
    obtain ⟨rfl, later⟩ := same
    rw [keys_cons, List.nodup_cons] at unique
    have here := agree key
    rw [get?, get?, if_pos rfl, if_pos rfl, Option.some.injEq] at here
    rw [here, ih later unique.2 fun other => ?_]
    by_cases first : key = other
    · subst first
      rw [get?_eq_none_iff.mpr unique.1, get?_eq_none_iff.mpr (later ▸ unique.1)]
    · simpa only [get?, if_neg first] using agree other

omit [DecidableEq κ] in
theorem length_eq_of_keys {β : Type} {lefts : List (κ × α)} {rights : List (κ × β)}
    (uniqueLeft : (keys lefts).Nodup) (uniqueRight : (keys rights).Nodup)
    (same : ∀ key, key ∈ keys lefts ↔ key ∈ keys rights) : lefts.length = rights.length := by
  have permuted := (List.perm_ext_iff_of_nodup uniqueLeft uniqueRight).mpr same
  simpa [keys] using permuted.length_eq

theorem put_of_absent {entries : List (κ × α)} {key : κ} (absent : has entries key = false) (value : α) :
    put entries key value = entries ++ [(key, value)] := by
  induction entries with
  | nil => rfl
  | cons entry rest ih =>
    obtain ⟨head, present⟩ := entry
    rw [has, get?] at absent
    split at absent
    next => cases absent
    next other => rw [put, if_neg other, ih absent, List.cons_append]

theorem putAll_of_absent {entries fresh : List (κ × α)} (unique : (keys entries ++ keys fresh).Nodup) :
    putAll entries fresh = entries ++ fresh := by
  induction fresh generalizing entries with
  | nil => exact (List.append_nil entries).symm
  | cons entry rest ih =>
    obtain ⟨key, value⟩ := entry
    rw [keys_cons, List.append_cons] at unique
    have absent : has entries key = false := by
      rw [← Bool.not_eq_true, has_iff]
      intro present
      exact (List.nodup_append.mp (List.nodup_append.mp unique).1).2.2 key present key (List.mem_singleton_self key) rfl
    have step : putAll entries ((key, value) :: rest) = putAll (entries ++ [(key, value)]) rest := by
      rw [← put_of_absent absent]
      rfl
    rw [step, ih, List.append_assoc, List.singleton_append]
    simpa [keys] using unique

theorem mem_keys_putAll {entries fresh : List (κ × α)} {key : κ} :
    key ∈ keys (putAll entries fresh) ↔ key ∈ keys fresh ∨ key ∈ keys entries := by
  rw [← has_iff, has_putAll, Bool.or_eq_true, has_iff, has_iff]

theorem length_putAll_iff (fresh : List (κ × α)) : (putAll [] fresh).length = fresh.length ↔ (keys fresh).Nodup := by
  constructor
  · intro same
    have nothing : (keys ([] : List (κ × α))).Nodup := List.nodup_nil
    have unique := nodup_keys_putAll nothing fresh
    have included : keys (putAll [] fresh) ⊆ keys fresh := fun key member =>
      (mem_keys_putAll.mp member).resolve_right (List.not_mem_nil)
    have fits : (keys fresh).length ≤ (keys (putAll [] fresh)).length := by simp [keys, same]
    exact ((unique.subperm included).perm_of_length_le fits).nodup_iff.mp unique
  · intro unique
    rw [putAll_of_absent (by simpa using unique), List.nil_append]

/-- The entries with the value of the first one with this key changed in its place. -/
def adjust : List (κ × α) → κ → (α → α) → List (κ × α)
  | [], _, _ => []
  | (key', value) :: rest, key, change =>
    if key' = key then (key', change value) :: rest else (key', value) :: adjust rest key change

theorem adjust_eq (entries : List (κ × α)) (key : κ) (change : α → α) :
    adjust entries key change =
      match get? entries key with
      | some value => put entries key (change value)
      | none => entries := by
  induction entries with
  | nil => rfl
  | cons entry rest ih =>
    obtain ⟨key', value⟩ := entry
    by_cases same : key' = key
    · simp [adjust, get?, put, same]
    · rw [adjust, get?, if_neg same, if_neg same, ih]
      cases get? rest key with
      | none => rfl
      | some present => simp [put, same]

theorem get?_adjust (entries : List (κ × α)) (key other : κ) (change : α → α) :
    get? (adjust entries key change) other =
      if key = other then (get? entries other).map change else get? entries other := by
  rw [adjust_eq]
  by_cases same : key = other
  · subst same
    cases found : get? entries key <;> simp [found]
  · rw [if_neg same]
    cases get? entries key with
    | none => rfl
    | some value => exact get?_put_of_ne same _

theorem keys_adjust (entries : List (κ × α)) (key : κ) (change : α → α) :
    keys (adjust entries key change) = keys entries := by
  rw [adjust_eq]
  cases found : get? entries key with
  | none => rfl
  | some value => exact (keys_put entries key _).trans (if_pos (mem_keys_iff.mpr (by rw [found]; rfl)))

theorem adjust_eq_self {entries : List (κ × α)} {key : κ} {change : α → α}
    (same : ∀ value, get? entries key = some value → change value = value) : adjust entries key change = entries := by
  rw [adjust_eq]
  cases found : get? entries key with
  | none => rfl
  | some value =>
    dsimp only
    rw [same value found, put_eq_self found]

theorem adjust_adjust (entries : List (κ × α)) (key : κ) (change next : α → α) :
    adjust (adjust entries key change) key next = adjust entries key fun value => next (change value) := by
  induction entries with
  | nil => rfl
  | cons entry rest ih =>
    obtain ⟨key', value⟩ := entry
    by_cases same : key' = key
    · simp [adjust, same]
    · simp [adjust, same, ih]

theorem put_adjust {key other : κ} (differ : key ≠ other) (entries : List (κ × α)) (change : α → α) (value : α) :
    put (adjust entries key change) other value = adjust (put entries other value) key change := by
  induction entries with
  | nil => simp [put, adjust, Ne.symm differ]
  | cons entry rest ih =>
    obtain ⟨key', value'⟩ := entry
    by_cases same : key' = key
    · subst same
      simp [put, adjust, differ]
    · by_cases here : key' = other
      · simp [put, adjust, here, Ne.symm differ]
      · simp [put, adjust, same, here, ih]

theorem erase_adjust {key other : κ} (differ : key ≠ other) (entries : List (κ × α)) (change : α → α) :
    erase (adjust entries key change) other = adjust (erase entries other) key change := by
  induction entries with
  | nil => rfl
  | cons entry rest ih =>
    obtain ⟨key', value⟩ := entry
    unfold erase at ih ⊢
    by_cases same : key' = key
    · subst same
      simp [adjust, differ]
    · by_cases here : key' = other
      · subst here
        simpa [adjust, same] using ih
      · simpa [adjust, same, here] using ih

theorem forall₂_adjust {related : κ × α → κ × α → Prop} {entries : List (κ × α)} (unique : (keys entries).Nodup)
    {key : κ} {change : α → α} (here : ∀ value, get? entries key = some value → related (key, value) (key, change value))
    (others : ∀ entry ∈ entries, entry.1 ≠ key → related entry entry) :
    List.Forall₂ related entries (adjust entries key change) := by
  induction entries with
  | nil => exact .nil
  | cons entry rest ih =>
    obtain ⟨key', value⟩ := entry
    rw [keys_cons, List.nodup_cons] at unique
    have ⟨first, later⟩ := List.forall_mem_cons.mp others
    by_cases same : key' = key
    · subst same
      rw [adjust, if_pos rfl]
      refine .cons (here value (by rw [get?, if_pos rfl])) (List.forall₂_same.mpr fun entry member => ?_)
      exact later entry member fun equal => unique.1 (equal ▸ List.mem_map_of_mem member)
    · rw [adjust, if_neg same]
      refine .cons (first same) (ih unique.2 (fun value found => here value ?_) later)
      rw [get?, if_neg same, found]

theorem keys_filter_adjust {keep : κ × α → Bool} {entries : List (κ × α)} {key : κ} {change : α → α}
    (same : ∀ value, get? entries key = some value → keep (key, change value) = keep (key, value)) :
    keys ((adjust entries key change).filter keep) = keys (entries.filter keep) := by
  induction entries with
  | nil => rfl
  | cons entry rest ih =>
    obtain ⟨key', value⟩ := entry
    by_cases here : key' = key
    · subst here
      have kept := same value (by rw [get?, if_pos rfl])
      rw [adjust, if_pos rfl, List.filter_cons, List.filter_cons, kept]
      split <;> rfl
    · rw [adjust, if_neg here, List.filter_cons, List.filter_cons]
      have later := ih fun value found => same value (by rw [get?, if_neg here, found])
      split
      next => rw [keys_cons, keys_cons, later]
      next => exact later

theorem forall₂_of_keys {ι : Type} {called : ι → κ → Prop} {items : List ι} {entries : List (κ × α)}
    (same : List.Forall₂ called items (keys entries)) (unique : (keys entries).Nodup) :
    List.Forall₂ (fun item entry => called item entry.1 ∧ get? entries entry.1 = some entry.2) items entries := by
  rw [keys, List.forall₂_map_right_iff] at same
  refine List.forall₂_iff_zip.mpr ⟨same.length_eq, fun member => ?_⟩
  exact ⟨List.forall₂_zip same member, get?_of_mem unique (List.of_mem_zip member).2⟩

end Reconcile.Assoc
