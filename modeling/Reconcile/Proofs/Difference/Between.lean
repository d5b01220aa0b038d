import Reconcile.Proofs.Difference.Replay

/-!
The changes between two documents. Seen from below a key they are the changes between what the two documents have
there; so in any order they turn the first document into one that equals the second, and there are none between equal
documents.
-/

namespace Reconcile.Change

/-- A change inside a value, seen from where the value stands. -/
def under (path : Path) (change : Change) : Change :=
  ⟨path ++ change.path, change.edit⟩

theorem flat_of_scalar {left : Value} (scalar : left.isContainer = false) (right : Value) :
    (left.isObject && right.isObject) = false := by
  cases left with
  | object fields => cases scalar
  | _ => rfl

theorem between_flat (path : Path) {left right : Value} (flat : (left.isObject && right.isObject) = false) :
    between path left right = if left.strictEq right then [] else [⟨path, .modify left right⟩] := by
  cases left with
  | object lefts =>
    cases right with
    | object rights => cases flat
    | _ => rfl
  | _ => rfl

theorem between_object (path : Path) (lefts rights : Fields) :
    between path (.object lefts) (.object rights) =
      betweenFields path rights lefts ++ created path lefts rights := by
  rw [between]

def ofField (path : Path) (key : Key) (left : Value) : Option Value → List Change
  | none => [⟨path ++ [key], .delete left⟩]
  | some right => between (path ++ [key]) left right

theorem betweenFields_cons (path : Path) (rights : Fields) (key : Key) (left : Value) (rest : Fields) :
    betweenFields path rights ((key, left) :: rest) =
      ofField path key left (Assoc.get? rights key) ++ betweenFields path rights rest := by
  rw [betweenFields]
  cases Assoc.get? rights key <;> rfl

theorem mem_betweenFields {path : Path} {rights lefts : Fields} {change : Change} :
    change ∈ betweenFields path rights lefts ↔
      ∃ entry ∈ lefts, change ∈ ofField path entry.1 entry.2 (Assoc.get? rights entry.1) := by
  induction lefts with
  | nil => simp [betweenFields]
  | cons entry rest ih =>
    obtain ⟨key, left⟩ := entry
    rw [betweenFields_cons, List.mem_append, ih, List.exists_mem_cons_iff]

theorem created_under (path base : Path) (lefts rights : Fields) :
    created (path ++ base) lefts rights = (created base lefts rights).map (under path) := by
  simp [created, under, List.append_assoc, Function.comp_def]

theorem betweenFields_under (path base : Path) (rights : Fields) {lefts : Fields}
    (inner : ∀ entry ∈ lefts, ∀ base right,
      between (path ++ base) entry.2 right = (between base entry.2 right).map (under path)) :
    betweenFields (path ++ base) rights lefts = (betweenFields base rights lefts).map (under path) := by
  induction lefts with
  | nil => rfl
  | cons entry rest ih =>
    obtain ⟨key, left⟩ := entry
    have others := ih fun other member => inner other (List.mem_cons_of_mem _ member)
    rw [betweenFields_cons, betweenFields_cons, List.map_append, others]
    cases Assoc.get? rights key with
    | none => simp [ofField, under]
    | some right =>
      have first := inner _ (List.mem_cons_self ..) (base ++ [key]) right
      rw [ofField, ofField, List.append_assoc, first]

theorem flat_under (path base : Path) {left right : Value} (flat : (left.isObject && right.isObject) = false) :
    between (path ++ base) left right = (between base left right).map (under path) := by
  rw [between_flat _ flat, between_flat _ flat]
  split <;> rfl

theorem between_under (path base : Path) (left right : Value) :
    between (path ++ base) left right = (between base left right).map (under path) := by
  induction left using Value.byParts generalizing base right with
  | scalar left scalar => exact flat_under path base (flat_of_scalar scalar _)
  | list items ih => exact flat_under path base rfl
  | object lefts ih =>
    cases right with
    | object rights =>
      rw [between_object, between_object, List.map_append, created_under,
        betweenFields_under path base rights fun entry member base right => ih entry member base right]
    | _ => exact flat_under path base rfl

theorem between_singleton (key : Key) (left right : Value) :
    between [key] left right = (between [] left right).map (under [key]) :=
  between_under [key] [] left right

theorem below_under (key other : Key) (changes : List Change) :
    below key (changes.map (under [other])) = if other = key then changes else [] := by
  induction changes with
  | nil => simp
  | cons change rest ih =>
    rw [List.map_cons, under, List.singleton_append, below_cons, ih]
    split <;> rfl

/-- The changes between what two objects have at a key, seen from below it. -/
def between? : Option Value → Option Value → List Change
  | some left, some right => between [] left right
  | some left, none => [⟨[], .delete left⟩]
  | none, some right => [⟨[], .create right⟩]
  | none, none => []

theorem below_ofField (head : Key) (left : Value) (right? : Option Value) (key : Key) :
    below key (ofField [] head left right?) =
      if head = key then between? (some left) right? else [] := by
  cases right? with
  | none => exact below_cons key head [] _ []
  | some right => rw [ofField, List.nil_append, between_singleton, below_under, between?]

theorem below_betweenFields {lefts : Fields} (unique : (Assoc.keys lefts).Nodup) (rights : Fields) (key : Key) :
    below key (betweenFields [] rights lefts) =
      match Assoc.get? lefts key with
      | some left => between? (some left) (Assoc.get? rights key)
      | none => [] := by
  induction lefts with
  | nil => rfl
  | cons entry rest ih =>
    obtain ⟨head, left⟩ := entry
    rw [Assoc.keys_cons, List.nodup_cons] at unique
    rw [betweenFields_cons, below_append, below_ofField, ih unique.2]
    by_cases same : head = key
    · subst same
      rw [Assoc.get?_eq_none_iff.mpr unique.1]
      simp [Assoc.get?]
    · simp [Assoc.get?, same]

theorem below_created (lefts : Fields) {rights : Fields} (unique : (Assoc.keys rights).Nodup) (key : Key) :
    below key (created [] lefts rights) =
      match Assoc.get? lefts key, Assoc.get? rights key with
      | none, some right => [⟨[], .create right⟩]
      | _, _ => [] := by
  unfold created
  induction rights with
  | nil => cases Assoc.get? lefts key <;> rfl
  | cons entry rest ih =>
    obtain ⟨head, right⟩ := entry
    rw [Assoc.keys_cons, List.nodup_cons] at unique
    have others := ih unique.2
    by_cases same : head = key
    · subst same
      rw [Assoc.get?_eq_none_iff.mpr unique.1] at others
      cases found : Assoc.get? lefts head <;>
        simp_all [Assoc.has_eq_isSome, below_cons, Assoc.get?]
    · cases present : Assoc.has lefts head <;>
        simp_all [below_cons, Assoc.get?]

theorem below_between {lefts rights : Fields} (uniqueLeft : (Assoc.keys lefts).Nodup)
    (uniqueRight : (Assoc.keys rights).Nodup) (key : Key) :
    below key (between [] (.object lefts) (.object rights)) =
      between? (Assoc.get? lefts key) (Assoc.get? rights key) := by
  rw [between_object, below_append, below_betweenFields uniqueLeft, below_created _ uniqueRight]
  cases Assoc.get? lefts key <;> cases Assoc.get? rights key <;> simp [between?]

theorem inside_ofField (key : Key) (left : Value) (right? : Option Value) : Inside (ofField [] key left right?) := by
  intro change member
  cases right? with
  | none => simp_all [ofField]
  | some right =>
    rw [ofField, List.nil_append, between_singleton, List.mem_map] at member
    obtain ⟨inner, _, rfl⟩ := member
    simp [under]

theorem inside_between (lefts rights : Fields) : Inside (between [] (.object lefts) (.object rights)) := by
  intro change member
  rw [between_object, List.mem_append] at member
  rcases member with kept | fresh
  · obtain ⟨entry, _, here⟩ := mem_betweenFields.mp kept
    exact inside_ofField _ _ _ change here
  · simp only [created, List.mem_map] at fresh
    obtain ⟨entry, _, rfl⟩ := fresh
    simp

theorem isProper_after_flat (path : Path) {left right : Value} (flat : (left.isObject && right.isObject) = false)
    (proper : right.isProper = true) :
    ∀ change ∈ between path left right, ∀ value, change.after? = some value → value.isProper = true := by
  intro change member value after
  rw [between_flat path flat] at member
  split at member
  next => cases member
  next =>
    rw [List.mem_singleton.mp member] at after
    exact Option.some.inj after ▸ proper

/-- What the changes write is taken from the second document. -/
theorem isProper_after (path : Path) (left : Value) {right : Value} (proper : right.isProper = true) :
    ∀ change ∈ between path left right, ∀ value, change.after? = some value → value.isProper = true := by
  induction left using Value.byParts generalizing right path with
  | scalar left scalar => exact isProper_after_flat path (flat_of_scalar scalar _) proper
  | list items ih => exact isProper_after_flat path rfl proper
  | object lefts ih =>
    cases right with
    | object rights =>
      intro change member value after
      rw [between_object, List.mem_append] at member
      rcases member with kept | fresh
      · obtain ⟨entry, entryMember, here⟩ := mem_betweenFields.mp kept
        cases found : Assoc.get? rights entry.1 with
        | none =>
          rw [found, ofField, List.mem_singleton] at here
          rw [here] at after
          cases after
        | some right =>
          rw [found] at here
          exact ih entry entryMember _ (Value.isProper_of_get? proper found) change here value after
      · simp only [created, List.mem_map, List.mem_filter] at fresh
        obtain ⟨entry, ⟨entryMember, _⟩, rfl⟩ := fresh
        exact Option.some.inj after ▸ (Value.isProper_object.mp proper).2 entry entryMember
    | _ => exact isProper_after_flat path rfl proper

theorem settle_flat {left right : Value} (flat : (left.isObject && right.isObject) = false)
    (proper : right.isProper = true) {order : List Change} (permuted : order.Perm (between [] left right)) :
    ∃ value, settle order (some left) = some value ∧ value.strictEq right = true := by
  rw [between_flat [] flat] at permuted
  split at permuted
  next equal => exact ⟨left, permuted.eq_nil ▸ rfl, equal⟩
  next => exact ⟨right, List.perm_singleton.mp permuted ▸ rfl, Value.strictEq_self right proper⟩

theorem settle_between?_of {left? right? : Option Value} {order : List Change}
    (permuted : order.Perm (between? left? right?))
    (values : ∀ left right, left? = some left → right? = some right →
      ∀ order : List Change, order.Perm (between [] left right) →
        ∃ value, settle order (some left) = some value ∧ value.strictEq right = true)
    (proper : ∀ right, right? = some right → right.isProper = true) :
    Value.Agree (settle order left?) right? := by
  cases left? with
  | none =>
    cases right? with
    | none =>
      rw [permuted.eq_nil]
      trivial
    | some right =>
      rw [List.perm_singleton.mp permuted]
      exact Value.strictEq_self right (proper right rfl)
  | some left =>
    cases right? with
    | none =>
      rw [List.perm_singleton.mp permuted]
      trivial
    | some right =>
      obtain ⟨value, settled, equal⟩ := values left right rfl rfl order permuted
      rw [settled]
      exact equal

/-- Carried out on the first document in any order, the changes give one that equals the second. -/
theorem settle_permuted {left right : Value} (properLeft : left.isProper = true) (properRight : right.isProper = true)
    {order : List Change} (permuted : order.Perm (between [] left right)) :
    ∃ value, settle order (some left) = some value ∧ value.strictEq right = true := by
  induction left using Value.byParts generalizing right order with
  | scalar left scalar => exact settle_flat (flat_of_scalar scalar _) properRight permuted
  | list items ih => exact settle_flat rfl properRight permuted
  | object lefts ih =>
    cases right with
    | object rights =>
      have uniqueLeft := Value.nodup_of_isProper properLeft
      have uniqueRight := Value.nodup_of_isProper properRight
      have inside : Inside order := fun change member => inside_between lefts rights change (permuted.mem_iff.mp member)
      have fresh := fun change member => isProper_after [] (.object lefts) properRight change (permuted.mem_iff.mp member)
      refine ⟨_, settle_object inside lefts, ?_⟩
      rw [Value.strictEq_object_iff (Value.nodup_of_isProper (isProper_replay fresh properLeft)) uniqueRight]
      -- Changes below different keys do not meet, so each key can be settled on its own.
      intro key
      have below : (Change.below key order).Perm (between? (Assoc.get? lefts key) (Assoc.get? rights key)) :=
        below_between uniqueLeft uniqueRight key ▸ permuted.filterMap (below? key)
      rw [get?_replay inside]
      apply settle_between?_of below
      · intro left right foundLeft foundRight order permuted
        exact ih (key, left) (Assoc.mem_of_get? foundLeft) (Value.isProper_of_get? properLeft foundLeft)
          (Value.isProper_of_get? properRight foundRight) permuted
      · intro right foundRight
        exact Value.isProper_of_get? properRight foundRight
    | _ => exact settle_flat rfl properRight permuted

theorem settle_between? {left? right? : Option Value} (properLeft : ∀ left, left? = some left → left.isProper = true)
    (properRight : ∀ right, right? = some right → right.isProper = true) :
    Value.Agree (settle (between? left? right?) left?) right? :=
  settle_between?_of (.refl _) (fun left right foundLeft foundRight _ permuted =>
    settle_permuted (properLeft left foundLeft) (properRight right foundRight) permuted) properRight

theorem between_eq_nil {left right : Value} (properLeft : left.isProper = true) (properRight : right.isProper = true)
    (equal : left.strictEq right = true) : between [] left right = [] := by
  induction left using Value.byParts generalizing right with
  | scalar left scalar => rw [between_flat [] (flat_of_scalar scalar _), if_pos equal]
  | list items ih => rw [between_flat [] rfl, if_pos equal]
  | object lefts ih =>
    cases right with
    | object rights =>
      have uniqueLeft := Value.nodup_of_isProper properLeft
      have uniqueRight := Value.nodup_of_isProper properRight
      have agree := (Value.strictEq_object_iff uniqueLeft uniqueRight).mp equal
      rw [List.eq_nil_iff_forall_not_mem]
      rintro ⟨path, edit⟩ member
      obtain ⟨key, path, rfl⟩ := List.exists_cons_of_ne_nil (inside_between lefts rights _ member)
      have here := agree key
      rw [← mem_below, below_between uniqueLeft uniqueRight] at member
      cases foundLeft : Assoc.get? lefts key with
      | none => cases foundRight : Assoc.get? rights key <;> simp_all [Value.Agree, between?]
      | some left =>
        cases foundRight : Assoc.get? rights key with
        | none => simp_all [Value.Agree]
        | some right =>
          rw [foundLeft, foundRight] at here
          have none := ih (key, left) (Assoc.mem_of_get? foundLeft) (Value.isProper_of_get? properLeft foundLeft)
            (Value.isProper_of_get? properRight foundRight) here
          simp_all [between?]
    | _ => rw [between_flat [] rfl, if_pos equal]

/-- There are no changes exactly between equal documents. -/
theorem between_eq_nil_iff {left right : Value} (properLeft : left.isProper = true)
    (properRight : right.isProper = true) : between [] left right = [] ↔ left.strictEq right = true := by
  constructor
  · intro none
    obtain ⟨value, settled, equal⟩ := settle_permuted properLeft properRight (.refl (between [] left right))
    rw [none] at settled
    exact Option.some.inj settled ▸ equal
  · exact between_eq_nil properLeft properRight

theorem between?_eq_nil_iff {left? right? : Option Value}
    (properLeft : ∀ left, left? = some left → left.isProper = true)
    (properRight : ∀ right, right? = some right → right.isProper = true) :
    between? left? right? = [] ↔ Value.Agree left? right? := by
  cases left? with
  | none => cases right? <;> simp [between?, Value.Agree]
  | some left =>
    cases right? with
    | none => simp [between?, Value.Agree]
    | some right => exact between_eq_nil_iff (properLeft left rfl) (properRight right rfl)

end Reconcile.Change
