import Mathlib.Algebra.Order.Field.Basic
import Mathlib.Algebra.Order.Ring.Rat
import Mathlib.Data.List.Forall2
import Mathlib.Data.Rat.Cast.Order
import Mathlib.Data.String.Basic
import Reconcile.Proofs.Document

/-!
The order of values. On proper documents loose equality is an equivalence, the order does not tell equal values apart,
and any values that can be compared with each other are ordered like numbers: each comes before the other one, behind it,
or equals it.
-/

namespace Reconcile

namespace Ratio

def toRat (ratio : Ratio) : ℚ :=
  ratio.numerator / ratio.denominator

variable {left right : Ratio}

theorem less_iff (positive : 0 < left.denominator) (positive' : 0 < right.denominator) :
    left.less right = true ↔ left.toRat < right.toRat := by
  rw [less, decide_eq_true_iff, toRat, toRat,
    div_lt_div_iff₀ (Nat.cast_pos.mpr positive) (Nat.cast_pos.mpr positive')]
  norm_cast

theorem same_iff (positive : 0 < left.denominator) (positive' : 0 < right.denominator) :
    left.same right = true ↔ left.toRat = right.toRat := by
  rw [same, beq_iff_eq, toRat, toRat,
    div_eq_div_iff (Nat.cast_ne_zero.mpr positive.ne') (Nat.cast_ne_zero.mpr positive'.ne')]
  norm_cast

end Ratio

theorem Binary64.denominator_pos (number : Binary64) : 0 < number.ratio.denominator := by
  unfold Binary64.ratio
  cases number.exponent with
  | ofNat up => exact Nat.one_pos
  | negSucc down => exact Nat.pow_pos (by decide)

namespace Value

theorem denominator_pos {mixed : Bool} {value : Value} {ratio : Ratio} (number : value.ratio? mixed = some ratio) :
    0 < ratio.denominator := by
  cases value with
  | int => exact Option.some.inj number ▸ Nat.one_pos
  | real number' => exact Option.some.inj number ▸ number'.denominator_pos
  | bool flag =>
    cases mixed with
    | true => exact Option.some.inj number ▸ Nat.one_pos
    | false => cases number
  | _ => cases number

def amount? (value : Value) : Option ℚ :=
  (value.ratio? true).map Ratio.toRat

theorem amount?_eq_some_iff {value : Value} {amount : ℚ} :
    value.amount? = some amount ↔ ∃ ratio, value.ratio? true = some ratio ∧ ratio.toRat = amount :=
  Option.map_eq_some_iff

theorem looseEq_number {left : Value} {amount : ℚ} (number : left.amount? = some amount) (right : Value) :
    left.looseEq right = true ↔ right.amount? = some amount := by
  have mixed : left.looseEq right = sameRatio (left.ratio? true) (right.ratio? true) := by
    cases left with
    | bool flag =>
      cases right with
      | bool other => cases flag <;> cases other <;> rfl
      | _ => rfl
    | int => cases right <;> rfl
    | real => cases right <;> rfl
    | _ => cases number
  obtain ⟨ratio, found, rfl⟩ := amount?_eq_some_iff.mp number
  rw [mixed, found, amount?_eq_some_iff]
  cases other : right.ratio? true with
  | none => simp [sameRatio]
  | some ratio' =>
    rw [sameRatio, Ratio.same_iff (denominator_pos found) (denominator_pos other)]
    simp [eq_comm]

theorem looseEq_text {content : String} {right : Value} :
    (Value.text content).looseEq right = true ↔ right = .text content := by
  cases right with
  | text other => rw [looseEq, equalBy, beq_iff_eq, Value.text.injEq, eq_comm]
  | _ => simp [looseEq, equalBy, ratio?, sameRatio]

theorem looseEq_null {right : Value} : Value.null.looseEq right = true ↔ right = .null := by
  cases right <;> simp [looseEq, equalBy, ratio?, sameRatio]

theorem equalItems_iff {mixed : Bool} {lefts rights : List Value} :
    equalItems mixed lefts rights = true ↔
      List.Forall₂ (fun left right => equalBy mixed left right = true) lefts rights := by
  induction lefts generalizing rights with
  | nil => cases rights <;> simp [equalItems]
  | cons left lefts ih =>
    cases rights with
    | nil => simp [equalItems]
    | cons right rights => rw [equalItems, Bool.and_eq_true, ih, List.forall₂_cons]

theorem looseEq_list {lefts : List Value} {right : Value} :
    (Value.list lefts).looseEq right = true ↔
      ∃ rights, right = .list rights ∧ List.Forall₂ (fun left right => left.looseEq right = true) lefts rights := by
  cases right with
  | list rights =>
    rw [looseEq, equalBy, equalItems_iff]
    refine ⟨fun same => ⟨rights, rfl, same⟩, ?_⟩
    rintro ⟨_, ⟨⟩, each⟩
    exact each
  | _ => simp [looseEq, equalBy, ratio?, sameRatio]

theorem looseEq_object {lefts : Fields} {right : Value} :
    (Value.object lefts).looseEq right = true ↔
      ∃ rights, right = .object rights ∧ lefts.length = rights.length ∧
        ∀ entry ∈ lefts, ∃ partner, Assoc.get? rights entry.1 = some partner ∧ entry.2.looseEq partner = true := by
  cases right with
  | object rights =>
    rw [looseEq, equalBy, Bool.and_eq_true, beq_iff_eq, equalFields_iff]
    refine ⟨fun same => ⟨rights, rfl, same⟩, ?_⟩
    rintro ⟨_, ⟨⟩, each⟩
    exact each
  | _ => simp [looseEq, equalBy, ratio?, sameRatio]

theorem scalar_cases {value : Value} (scalar : value.isContainer = false) :
    (∃ amount, value.amount? = some amount) ∨ (∃ content, value = .text content) ∨ value = .null := by
  cases value with
  | null => exact .inr (.inr rfl)
  | text content => exact .inr (.inl ⟨content, rfl⟩)
  | bool | int | real => exact .inl ⟨_, rfl⟩
  | list | object => cases scalar

theorem looseEq_self {value : Value} (proper : value.isProper = true) : value.looseEq value = true :=
  equalBy_self true value proper

theorem looseEq_trans {left middle right : Value} (first : left.looseEq middle = true)
    (second : middle.looseEq right = true) : left.looseEq right = true := by
  induction left using byParts generalizing middle right with
  | scalar left scalar =>
    rcases scalar_cases scalar with ⟨amount, number⟩ | ⟨content, rfl⟩ | rfl
    · rw [looseEq_number number] at first ⊢
      exact (looseEq_number first right).mp second
    · rw [looseEq_text] at first
      exact first ▸ second
    · rw [looseEq_null] at first
      exact first ▸ second
  | list lefts ih =>
    obtain ⟨middles, rfl, each⟩ := looseEq_list.mp first
    obtain ⟨rights, rfl, each'⟩ := looseEq_list.mp second
    refine looseEq_list.mpr ⟨rights, rfl, ?_⟩
    clear first second
    induction each generalizing rights with
    | nil =>
      cases each'
      exact .nil
    | cons here _ later =>
      cases each' with
      | cons here' there =>
        have ⟨ih, others⟩ := List.forall_mem_cons.mp ih
        exact .cons (ih here here') (later others _ there)
  | object lefts ih =>
    obtain ⟨middles, rfl, length, first⟩ := looseEq_object.mp first
    obtain ⟨rights, rfl, length', second⟩ := looseEq_object.mp second
    refine looseEq_object.mpr ⟨rights, rfl, length.trans length', fun entry member => ?_⟩
    obtain ⟨partner, found, same⟩ := first entry member
    obtain ⟨last, found', same'⟩ := second (entry.1, partner) (Assoc.mem_of_get? found)
    exact ⟨last, found', ih entry member same same'⟩

theorem looseEq_symm {left right : Value} (proper : left.isProper = true) (proper' : right.isProper = true)
    (same : left.looseEq right = true) : right.looseEq left = true := by
  induction left using byParts generalizing right with
  | scalar left scalar =>
    rcases scalar_cases scalar with ⟨amount, number⟩ | ⟨content, rfl⟩ | rfl
    · exact (looseEq_number ((looseEq_number number right).mp same) left).mpr number
    · obtain rfl := looseEq_text.mp same
      exact looseEq_self proper
    · obtain rfl := looseEq_null.mp same
      exact looseEq_self proper
  | list lefts ih =>
    obtain ⟨rights, rfl, each⟩ := looseEq_list.mp same
    rw [isProper_list] at proper proper'
    refine looseEq_list.mpr ⟨lefts, rfl, ?_⟩
    clear same
    induction each with
    | nil => exact .nil
    | cons here _ later =>
      have ⟨ih, others⟩ := List.forall_mem_cons.mp ih
      have ⟨first, rest⟩ := List.forall_mem_cons.mp proper
      have ⟨first', rest'⟩ := List.forall_mem_cons.mp proper'
      exact .cons (ih first first' here) (later others rest rest')
  | object lefts ih =>
    obtain ⟨rights, rfl, length, each⟩ := looseEq_object.mp same
    have ⟨unique, inner⟩ := isProper_object.mp proper
    have ⟨unique', inner'⟩ := isProper_object.mp proper'
    refine looseEq_object.mpr ⟨lefts, rfl, length.symm, fun entry member => ?_⟩
    have included : Assoc.keys lefts ⊆ Assoc.keys rights := by
      intro key found
      obtain ⟨field, present, rfl⟩ := List.mem_map.mp found
      obtain ⟨partner, found, _⟩ := each field present
      exact Assoc.mem_keys_iff.mpr (by rw [found]; rfl)
    -- Since the two have the same size, a key on the right is one on the left.
    have known := Assoc.keys_subset_of_length unique length included (List.mem_map_of_mem member)
    obtain ⟨value, found⟩ := Option.isSome_iff_exists.mp (Assoc.mem_keys_iff.mp known)
    have present := Assoc.mem_of_get? found
    obtain ⟨partner, found', same⟩ := each _ present
    rw [Assoc.get?_of_mem unique' member] at found'
    cases found'
    exact ⟨value, found, ih _ present (inner _ present) (inner' entry member) same⟩

theorem looseEq_comm {left right : Value} (proper : left.isProper = true) (proper' : right.isProper = true) :
    left.looseEq right = right.looseEq left :=
  Bool.eq_iff_iff.mpr ⟨looseEq_symm proper proper', looseEq_symm proper' proper⟩

theorem looseEq_congr {left left' right right' : Value} (proper : left.isProper = true) (proper' : left'.isProper = true)
    (properRight : right.isProper = true) (properRight' : right'.isProper = true) (same : left.looseEq left' = true)
    (same' : right.looseEq right' = true) : left.looseEq right = left'.looseEq right' :=
  Bool.eq_iff_iff.mpr
    ⟨fun equal => looseEq_trans (looseEq_symm proper proper' same) (looseEq_trans equal same'),
      fun equal => looseEq_trans same (looseEq_trans equal (looseEq_symm properRight properRight' same'))⟩

theorem less?_number {left right : Value} {amount : ℚ} (number : left.amount? = some amount) :
    left.less? right = right.amount?.map fun other => decide (amount < other) := by
  have mixed : left.less? right =
      (left.ratio? true).bind fun ratio => (right.ratio? true).map ratio.less := by
    cases left with
    | bool | int | real => cases right <;> rfl
    | _ => cases number
  obtain ⟨ratio, found, rfl⟩ := amount?_eq_some_iff.mp number
  rw [mixed, found, amount?, Option.bind_some]
  cases other : right.ratio? true with
  | none => rfl
  | some ratio' =>
    rw [Option.map_some, Option.map_some, Option.map_some, Option.some_inj, Bool.eq_iff_iff, decide_eq_true_iff]
    exact Ratio.less_iff (denominator_pos found) (denominator_pos other)

theorem less?_eq_some_iff {left right : Value} {before : Bool} :
    left.less? right = some before ↔
      (∃ amount other, left.amount? = some amount ∧ right.amount? = some other ∧ decide (amount < other) = before) ∨
      (∃ content other, left = .text content ∧ right = .text other ∧ decide (content < other) = before) ∨
      ∃ items others, left = .list items ∧ right = .list others ∧ lessItems? items others = some before := by
  cases left with
  | bool | int | real =>
    rw [less?_number rfl, Option.map_eq_some_iff]
    simp only [reduceCtorEq, false_and, exists_const, or_false]
    constructor
    · rintro ⟨other, found, same⟩
      exact ⟨_, other, rfl, found, same⟩
    · rintro ⟨amount, other, number, found, same⟩
      cases number
      exact ⟨other, found, same⟩
  | null | object =>
    cases right <;> simp [less?, amount?, ratio?]
  | text content => cases right <;> simp [less?, amount?, ratio?]
  | list items => cases right <;> simp [less?, amount?, ratio?]

@[elab_as_elim]
theorem byItems {motive : Value → Prop}
    (step : ∀ value, (∀ items, value = .list items → ∀ item ∈ items, motive item) → motive value) (value : Value) :
    motive value := by
  induction value using byParts with
  | scalar value scalar =>
    refine step value fun items same => ?_
    subst same
    cases scalar
  | list items ih => exact step _ fun _ same => Value.list.inj same ▸ ih
  | object fields => exact step _ fun _ same => by cases same

theorem lessItems?_cons (left right : Value) (lefts rights : List Value) :
    lessItems? (left :: lefts) (right :: rights) =
      if left.looseEq right then lessItems? lefts rights else left.less? right := rfl

/-- Whether the other direction is told by one direction, as it is for numbers: of two values that differ one comes
before the other. -/
def Flips (left right : Value) : Prop :=
  ∀ before, left.less? right = some before →
    right.less? left = some (!before && !left.looseEq right) ∧ (before = true → left.looseEq right = false)

theorem flips_of_order {α : Type} [LinearOrder α] {left right : Value} (first second : α)
    (compared : left.less? right = some (decide (first < second)))
    (compared' : right.less? left = some (decide (second < first)))
    (equal : left.looseEq right = decide (first = second)) : Flips left right := by
  intro before known
  rw [compared, Option.some_inj] at known
  rw [compared', equal, ← known]
  rcases lt_trichotomy first second with less | same | more
  · simp only [less, less.not_gt, less.ne, decide_true, decide_false, Bool.not_true, Bool.false_and, implies_true, and_self]
  · simp only [same, lt_irrefl, decide_true, decide_false, Bool.not_true, Bool.and_false, reduceCtorEq, false_implies,
      and_self]
  · simp only [more, more.not_gt, more.ne', decide_true, decide_false, Bool.not_false, Bool.and_true, reduceCtorEq,
      false_implies, and_self]

theorem lessItems?_flip {items others : List Value} (proper : ∀ item ∈ items, item.isProper = true)
    (proper' : ∀ other ∈ others, other.isProper = true)
    (each : ∀ item ∈ items, ∀ other ∈ others, Flips item other) {before : Bool}
    (compared : lessItems? items others = some before) :
    lessItems? others items = some (!before && !equalItems true items others) ∧
      (before = true → equalItems true items others = false) := by
  induction items generalizing others with
  | nil =>
    cases others with
    | nil =>
      cases compared
      exact ⟨rfl, nofun⟩
    | cons other others =>
      cases compared
      exact ⟨rfl, fun _ => rfl⟩
  | cons item items ih =>
    cases others with
    | nil =>
      cases compared
      exact ⟨rfl, nofun⟩
    | cons other others =>
      have ⟨first, rest⟩ := List.forall_mem_cons.mp proper
      have ⟨first', rest'⟩ := List.forall_mem_cons.mp proper'
      have here := each item (List.mem_cons_self ..) other (List.mem_cons_self ..)
      have there : ∀ item ∈ items, ∀ other ∈ others, Flips item other := fun item member other member' =>
        each item (List.mem_cons_of_mem _ member) other (List.mem_cons_of_mem _ member')
      rw [lessItems?_cons] at compared ⊢
      rw [← looseEq_comm first first', equalItems, ← looseEq]
      cases equal : item.looseEq other with
      | true =>
        rw [equal, if_pos rfl] at compared
        rw [if_pos rfl, Bool.true_and]
        exact ih rest rest' there compared
      | false =>
        rw [equal, if_neg Bool.false_ne_true] at compared
        have flipped := here before compared
        rw [equal] at flipped
        rw [if_neg Bool.false_ne_true, Bool.false_and]
        exact flipped

theorem flips {left right : Value} (proper : left.isProper = true) (proper' : right.isProper = true) :
    Flips left right := by
  induction left using byItems generalizing right with
  | step left ih =>
    intro before compared
    rcases less?_eq_some_iff.mp compared with
      ⟨amount, other, number, number', same⟩ | ⟨content, other, rfl, rfl, same⟩ | ⟨items, others, rfl, rfl, listed⟩
    · refine flips_of_order amount other ?_ ?_ ?_ before compared
      · rw [less?_number number, number', Option.map_some]
      · rw [less?_number number', number, Option.map_some]
      · rw [Bool.eq_iff_iff, looseEq_number number, number', decide_eq_true_iff, Option.some_inj, eq_comm]
    · refine flips_of_order content other ?_ ?_ ?_ before compared
      · rw [less?]
      · rw [less?]
      · rw [Bool.eq_iff_iff, looseEq_text, decide_eq_true_iff, Value.text.injEq, eq_comm]
    · rw [isProper_list] at proper proper'
      rw [less?, looseEq, equalBy]
      exact lessItems?_flip proper proper' (fun item member other member' =>
        ih items rfl item member (proper item member) (proper' other member')) listed

/-- Whether values that equal two others are compared as these are. -/
def Fits (left right : Value) : Prop :=
  ∀ left' right' before, left'.isProper = true → right'.isProper = true → left.looseEq left' = true →
    right.looseEq right' = true → left.less? right = some before → left'.less? right' = some before

theorem lessItems?_congr {items items' others others' : List Value}
    (proper : ∀ item ∈ items ++ items' ++ others ++ others', item.isProper = true)
    (each : ∀ item ∈ items, ∀ other ∈ others, Fits item other)
    (same : List.Forall₂ (fun left right => left.looseEq right = true) items items')
    (same' : List.Forall₂ (fun left right => left.looseEq right = true) others others') {before : Bool}
    (compared : lessItems? items others = some before) : lessItems? items' others' = some before := by
  induction same generalizing others others' with
  | nil => cases same' <;> exact compared
  | @cons item item' items items' equal _ ih =>
    cases same' with
    | nil => exact compared
    | @cons other other' others others' equal' rest' =>
      simp only [List.forall_mem_append, List.forall_mem_cons] at proper
      obtain ⟨⟨⟨⟨first, items⟩, first', items'⟩, second, others⟩, second', others'⟩ := proper
      have here := each item (List.mem_cons_self ..) other (List.mem_cons_self ..)
      rw [lessItems?_cons] at compared ⊢
      rw [← looseEq_congr first first' second second' equal equal']
      split at compared
      next both =>
        rw [if_pos both]
        refine ih ?_ (fun item member other member' => ?_) rest' compared
        · simp only [List.forall_mem_append]
          exact ⟨⟨⟨items, items'⟩, others⟩, others'⟩
        · exact each item (List.mem_cons_of_mem _ member) other (List.mem_cons_of_mem _ member')
      next apart =>
        rw [if_neg apart]
        exact here item' other' before first' second' equal equal' compared

theorem fits {left right : Value} (proper : left.isProper = true) (proper' : right.isProper = true) : Fits left right := by
  induction left using byItems generalizing right with
  | step left ih =>
    intro left' right' before properLeft properRight same same' compared
    rcases less?_eq_some_iff.mp compared with
      ⟨amount, other, number, number', rfl⟩ | ⟨content, other, rfl, rfl, rfl⟩ | ⟨items, others, rfl, rfl, listed⟩
    · rw [less?_number ((looseEq_number number left').mp same), (looseEq_number number' right').mp same', Option.map_some]
    · obtain rfl := looseEq_text.mp same
      obtain rfl := looseEq_text.mp same'
      exact compared
    · obtain ⟨items', rfl, each⟩ := looseEq_list.mp same
      obtain ⟨others', rfl, each'⟩ := looseEq_list.mp same'
      rw [isProper_list] at proper proper' properLeft properRight
      refine lessItems?_congr ?_ (fun item member other member' => ?_) each each' listed
      · simp only [List.forall_mem_append]
        exact ⟨⟨⟨proper, properLeft⟩, proper'⟩, properRight⟩
      · exact ih items rfl item member (proper item member) (proper' other member')

theorem lessItems?_trans {items others lasts : List Value}
    (proper : ∀ item ∈ items ++ others ++ lasts, item.isProper = true)
    (each : ∀ item ∈ items, ∀ other ∈ others, ∀ last ∈ lasts, item.less? other = some true →
      other.less? last = some true → item.less? last = some true)
    (first : lessItems? items others = some true) (second : lessItems? others lasts = some true) :
    lessItems? items lasts = some true := by
  induction items generalizing others lasts with
  | nil =>
    cases lasts with
    | nil => cases others <;> cases second
    | cons => rfl
  | cons item items ih =>
    cases others with
    | nil => cases first
    | cons other others =>
      cases lasts with
      | nil => cases second
      | cons last lasts =>
        simp only [List.forall_mem_append, List.forall_mem_cons] at proper each
        obtain ⟨⟨⟨one, items'⟩, two, others'⟩, three, lasts'⟩ := proper
        rw [lessItems?_cons] at first second ⊢
        split at first
        next equal =>
          rw [looseEq_congr one two three three equal (looseEq_self three)]
          split at second
          next equal' =>
            rw [if_pos equal']
            refine ih ?_ (fun item member other member' last member'' => ?_) first second
            · simp only [List.forall_mem_append]
              exact ⟨⟨items', others'⟩, lasts'⟩
            · exact ((each.2 item member).2 other member').2 last member''
          next apart =>
            rw [if_neg apart]
            exact fits two three _ _ _ one three (looseEq_symm one two equal) (looseEq_self three) second
        next apart =>
          split at second
          next equal' =>
            rw [← looseEq_congr one one two three (looseEq_self one) equal', if_neg apart]
            exact fits one two _ _ _ one three (looseEq_self one) equal' first
          next apart' =>
            have less := each.1.1.1 first second
            rw [(flips one three true less).2 rfl, if_neg Bool.false_ne_true]
            exact less

theorem less?_trans {left middle right : Value} (proper : left.isProper = true) (proper' : middle.isProper = true)
    (properRight : right.isProper = true) (first : left.less? middle = some true)
    (second : middle.less? right = some true) : left.less? right = some true := by
  induction left using byItems generalizing middle right with
  | step left ih =>
    rcases less?_eq_some_iff.mp first with
      ⟨amount, other, number, number', less⟩ | ⟨content, other, rfl, rfl, less⟩ | ⟨items, others, rfl, rfl, listed⟩
    · rw [less?_number number', Option.map_eq_some_iff] at second
      obtain ⟨last, number'', less'⟩ := second
      rw [less?_number number, number'', Option.map_some, Option.some_inj, decide_eq_true_iff]
      exact (of_decide_eq_true less).trans (of_decide_eq_true less')
    · cases right with
      | text last =>
        rw [less?, Option.some_inj, decide_eq_true_iff] at second ⊢
        exact lt_trans (of_decide_eq_true less) second
      | _ => cases second
    · cases right with
      | list lasts =>
        rw [isProper_list] at proper proper' properRight
        rw [less?] at second ⊢
        refine lessItems?_trans ?_ (fun item member other member' last member'' => ?_) listed second
        · simp only [List.forall_mem_append]
          exact ⟨⟨proper, proper'⟩, properRight⟩
        · exact ih items rfl item member (proper item member) (proper' other member') (properRight last member'')
      | _ => cases second

end Value

end Reconcile
