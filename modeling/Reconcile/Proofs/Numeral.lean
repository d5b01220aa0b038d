import Mathlib.Data.List.Basic
import Mathlib.Data.List.TakeWhile
import Reconcile.Fault

/-!
Texts of digits. The decimal digits of a number are read as that number. A text may also pass for digits and still spell no
number: it has a character that only stands for a digit, or it is too long to be read.
-/

namespace Reconcile.Text

theorem inIntervals_apart {first second : List (Nat × Nat)}
    (apart : ∀ one ∈ first, ∀ other ∈ second, one.2 < other.1 ∨ other.2 < one.1) {point : Nat}
    (inside : inIntervals first point = true) : inIntervals second point = false := by
  obtain ⟨one, member, within⟩ := List.any_eq_true.mp inside
  rw [Bool.and_eq_true, decide_eq_true_eq, decide_eq_true_eq] at within
  apply List.any_eq_false.mpr
  intro other otherMember both
  rw [Bool.and_eq_true, decide_eq_true_eq, decide_eq_true_eq] at both
  have := apart one member other otherMember
  omega

/-- Whether a character counts as a digit where text is only tested for digits. -/
def passesForDigit (c : Char) : Bool :=
  isDecimal c || isDigitLike c

variable {c : Char} {content : List Char}

theorem allDigits_iff : allDigits content = true ↔ content ≠ [] ∧ ∀ c ∈ content, passesForDigit c = true := by
  simp [allDigits, passesForDigit]

theorem isBlank_of_digit (digit : passesForDigit c = true) : isBlank c = false := by
  rcases Bool.or_eq_true_iff.mp digit with decimal | like
  · exact inIntervals_apart (by decide) decimal
  · exact inIntervals_apart (by decide) like

theorem trimBlanks_eq_self (printed : ∀ c ∈ content, isBlank c = false) : trimBlanks content = content := by
  have drop {text : List Char} (printed : ∀ c ∈ text, isBlank c = false) : text.dropWhile isBlank = text := by
    cases text with
    | nil => rfl
    | cons c rest => rw [List.dropWhile_cons_of_neg (by simp [printed c (List.mem_cons_self ..)])]
  rw [trimBlanks, drop printed, drop fun c member => printed c (List.mem_reverse.mp member), List.reverse_reverse]

theorem readSign_eq (unsigned : ∀ c ∈ content, c ≠ '-' ∧ c ≠ '+') : readSign content = (false, content) := by
  unfold readSign
  split
  next => exact absurd rfl (unsigned '-' (List.mem_cons_self ..)).1
  next => exact absurd rfl (unsigned '+' (List.mem_cons_self ..)).2
  next => rfl

theorem isGrouped_eq (joined : ∀ c ∈ content, c ≠ '_') :
    isGrouped content = (!content.isEmpty && content.all isDecimal) := by
  fun_induction isGrouped content with
  | case1 => rfl
  | case2 c => simp
  | case3 c rest ih => exact absurd rfl (joined '_' (by simp))
  | case4 c rest few other ih =>
    rw [ih fun c member => joined c (List.mem_cons_of_mem _ member)]
    cases rest with
    | nil => exact (few rfl).elim
    | cons next rest => simp

def Misread (content : List Char) : Prop :=
  allDigits content = true ∧ ((∃ c ∈ content, isDecimal c = false) ∨ digitLimit < content.length)

instance (content : List Char) : Decidable (Misread content) :=
  inferInstanceAs (Decidable (_ ∧ _))

theorem integer?_of_allDigits (digits : allDigits content = true) :
    integer? content =
      if content.all isDecimal && content.length ≤ digitLimit then some (digitsValue content : Int) else none := by
  obtain ⟨filled, all⟩ := allDigits_iff.mp digits
  have apart (sign : Char) (none : passesForDigit sign = false) : ∀ c ∈ content, c ≠ sign := by
    rintro c member rfl
    rw [all c member] at none
    cases none
  have minus := apart '-' (by decide)
  have plus := apart '+' (by decide)
  rw [integer?, trimBlanks_eq_self fun c member => isBlank_of_digit (all c member),
    readSign_eq fun c member => ⟨minus c member, plus c member⟩]
  dsimp only
  rw [isGrouped_eq (apart '_' (by decide)), List.isEmpty_eq_false_iff.mpr filled, Bool.not_false, Bool.true_and]
  cases decimal : content.all isDecimal with
  | true =>
    rw [List.countP_eq_length.mpr (List.all_eq_true.mp decimal)]
    rfl
  | false => rfl

theorem integer?_eq_none_iff (digits : allDigits content = true) : integer? content = none ↔ Misread content := by
  rw [integer?_of_allDigits digits, Misread, and_iff_right digits, ite_eq_right_iff]
  simp only [reduceCtorEq, imp_false, Bool.and_eq_true, not_and_or, decide_eq_true_iff, Nat.not_le, List.all_eq_true,
    not_forall, exists_prop, Bool.not_eq_true]

section Leading

variable {numeral sign digits : List Char}

theorem leadingNumeral?_some (found : leadingNumeral? content = some numeral) :
    ∃ sign digits, numeral = sign ++ digits ∧ (sign = [] ∨ sign = ['-'] ∨ sign = ['+']) ∧ digits ≠ [] ∧
      ∀ c ∈ digits, isDecimal c = true := by
  unfold leadingNumeral? at found
  dsimp only at found
  split at found
  next => cases found
  next filled =>
    cases found
    refine ⟨_, _, rfl, ?_, by simpa using filled, fun c member => List.mem_takeWhile_imp member⟩
    cases content.dropWhile isBlank with
    | nil => exact .inl rfl
    | cons c rest =>
      by_cases minus : c = '-'
      · exact .inr (.inl (by simp [minus]))
      · by_cases plus : c = '+'
        · exact .inr (.inr (by simp [plus]))
        · exact .inl (by simp [minus, plus])

theorem integer?_signed (signs : sign = [] ∨ sign = ['-'] ∨ sign = ['+']) (filled : digits ≠ [])
    (decimal : ∀ c ∈ digits, isDecimal c = true) :
    integer? (sign ++ digits) =
      if digits.length ≤ digitLimit then some (signed (sign = ['-']) (digitsValue digits)) else none := by
  have digit : ∀ c ∈ digits, passesForDigit c = true := fun c member => by rw [passesForDigit, decimal c member]; rfl
  have apart (mark : Char) (other : passesForDigit mark = false) : ∀ c ∈ digits, c ≠ mark := by
    rintro c member rfl
    rw [digit c member] at other
    cases other
  have printed : ∀ c ∈ sign ++ digits, isBlank c = false := by
    refine List.forall_mem_append.mpr ⟨?_, fun c member => isBlank_of_digit (digit c member)⟩
    rcases signs with rfl | rfl | rfl
    · exact List.forall_mem_nil _
    · exact List.forall_mem_singleton.mpr rfl
    · exact List.forall_mem_singleton.mpr rfl
  have split : readSign (sign ++ digits) = (decide (sign = ['-']), digits) := by
    rcases signs with rfl | rfl | rfl
    · exact readSign_eq fun c member => ⟨apart '-' (by decide) c member, apart '+' (by decide) c member⟩
    · rfl
    · rfl
  rw [integer?, trimBlanks_eq_self printed, split]
  dsimp only
  rw [isGrouped_eq (apart '_' (by decide)), List.isEmpty_eq_false_iff.mpr filled, List.all_eq_true.mpr decimal,
    List.countP_eq_length.mpr decimal]
  simp only [Bool.not_false, Bool.and_self, Bool.true_and, decide_eq_true_iff]

theorem integerOrFail_eq_ok {number : Int} : integerOrFail content = .ok number ↔ integer? content = some number := by
  unfold integerOrFail
  cases integer? content <;> simp

/-- Whether the numeral at the head of a text, if it has one, is short enough to be read. -/
def Legible (content : List Char) : Prop :=
  ∀ numeral ∈ leadingNumeral? content, numeral.countP isDecimal ≤ digitLimit

instance (content : List Char) : Decidable (Legible content) :=
  inferInstanceAs (Decidable (∀ numeral ∈ leadingNumeral? content, _))

theorem integer?_leadingNumeral (found : leadingNumeral? content = some numeral) :
    (integer? numeral).isSome = true ↔ Legible content := by
  have same : Legible content ↔ numeral.countP isDecimal ≤ digitLimit := by simp [Legible, found]
  obtain ⟨sign, digits, rfl, signs, filled, decimal⟩ := leadingNumeral?_some found
  have unsigned : sign.countP isDecimal = 0 := by
    rcases signs with rfl | rfl | rfl <;> decide
  rw [same, integer?_signed signs filled decimal, List.countP_append, unsigned, Nat.zero_add,
    List.countP_eq_length.mpr decimal]
  split
  next short => exact iff_of_true rfl short
  next long => exact iff_of_false Bool.false_ne_true long

end Leading

section Numbers

theorem toNat_of_isDigit (digit : c.isDigit = true) : 48 ≤ c.toNat ∧ c.toNat ≤ 57 := by
  rw [Char.isDigit, Bool.and_eq_true, decide_eq_true_iff, decide_eq_true_iff] at digit
  exact digit

theorem isDecimal_of_isDigit (digit : c.isDigit = true) : isDecimal c = true := by
  have ⟨least, most⟩ := toNat_of_isDigit digit
  exact List.any_eq_true.mpr ⟨(48, 57), List.mem_cons_self .., by simp [least, most]⟩

theorem decimalValue?_of_isDigit (digit : c.isDigit = true) : decimalValue? c = some (c.toNat - '0'.toNat) := by
  have ⟨least, most⟩ := toNat_of_isDigit digit
  have zero : '0'.toNat = 48 := rfl
  have found : decimalIntervals.find? (fun interval => interval.1 ≤ c.toNat && c.toNat ≤ interval.2) = some (48, 57) :=
    List.find?_cons_of_pos (by simp [least, most])
  rw [decimalValue?, found, Option.map_some, zero, Nat.mod_eq_of_lt (by omega)]

theorem isDigit_of_mem_toDigits {number : Nat} (member : c ∈ Nat.toDigits 10 number) : c.isDigit = true :=
  Nat.isDigit_of_mem_toDigits (by decide) (by decide) member

theorem digitsValue_toDigits (number : Nat) : digitsValue (Nat.toDigits 10 number) = number := by
  have spelt := @Nat.ofDigitChars_ten_toDigits number
  rw [Nat.ofDigitChars_eq_foldl] at spelt
  refine Eq.trans (List.foldl_ext _ _ 0 fun sum c member => ?_) spelt
  rw [decimalValue?_of_isDigit (isDigit_of_mem_toDigits member)]
  exact congrArg (· + _) (Nat.mul_comm sum 10)

theorem allDigits_toDigits (number : Nat) : allDigits (Nat.toDigits 10 number) = true := by
  refine allDigits_iff.mpr ⟨Nat.toDigits_ne_nil, fun c member => ?_⟩
  rw [passesForDigit, isDecimal_of_isDigit (isDigit_of_mem_toDigits member), Bool.true_or]

theorem integer?_toDigits (number : Nat) :
    integer? (Nat.toDigits 10 number) =
      if (Nat.toDigits 10 number).length ≤ digitLimit then some (number : Int) else none := by
  have decimal : (Nat.toDigits 10 number).all isDecimal = true :=
    List.all_eq_true.mpr fun c member => isDecimal_of_isDigit (isDigit_of_mem_toDigits member)
  rw [integer?_of_allDigits (allDigits_toDigits number), decimal, digitsValue_toDigits, Bool.true_and]
  simp only [decide_eq_true_iff]

theorem leadingNumeral?_toDigits (number : Nat) :
    leadingNumeral? (Nat.toDigits 10 number) = some (Nat.toDigits 10 number) := by
  have decimal : ∀ c ∈ Nat.toDigits 10 number, isDecimal c = true :=
    fun c member => isDecimal_of_isDigit (isDigit_of_mem_toDigits member)
  obtain ⟨first, rest, digits⟩ := List.exists_cons_of_ne_nil (Nat.toDigits_ne_nil : Nat.toDigits 10 number ≠ [])
  rw [digits] at decimal ⊢
  have leads := decimal first (List.mem_cons_self ..)
  have printed : isBlank first = false := isBlank_of_digit (by rw [passesForDigit, leads]; rfl)
  have unsigned : (first = '-' || first = '+') = false := by
    rw [← Bool.not_eq_true]
    intro sign
    rcases Bool.or_eq_true_iff.mp sign with minus | plus
    · cases (of_decide_eq_true minus ▸ leads : isDecimal '-' = true)
    · cases (of_decide_eq_true plus ▸ leads : isDecimal '+' = true)
  have whole : (first :: rest).takeWhile isDecimal = first :: rest := List.takeWhile_eq_self_iff.mpr decimal
  unfold leadingNumeral?
  rw [List.dropWhile_cons_of_neg (by simp [printed])]
  simp [unsigned, whole]

theorem legible_toString_iff (number : Nat) :
    Legible (toString number).toList ↔ (toString number).length ≤ digitLimit := by
  have spelt : (toString number).toList = Nat.toDigits 10 number := Nat.toList_repr
  rw [← String.length_toList, spelt, ← integer?_leadingNumeral (leadingNumeral?_toDigits number), integer?_toDigits]
  split
  next few => exact iff_of_true rfl few
  next many => exact iff_of_false Bool.false_ne_true many

/-- A power of ten has one digit more than zeros. -/
theorem lt_length_power (exponent : Nat) (positive : 0 < exponent) :
    exponent < (toString (Nat.pow 10 exponent)).length := by
  have spelt : (toString (Nat.pow 10 exponent)).toList = Nat.toDigits 10 (Nat.pow 10 exponent) := Nat.toList_repr
  rw [← String.length_toList, spelt, ← Nat.not_le, Nat.length_toDigits_le_iff (by decide) positive]
  exact Nat.lt_irrefl _

end Numbers

end Reconcile.Text
