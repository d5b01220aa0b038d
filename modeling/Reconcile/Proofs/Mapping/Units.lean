import Reconcile.Catalog.Packaged.System
import Reconcile.Proofs.Mapping.Spelling

/-!
Amounts on their way to a device and back. An amount is cut down to whole device units once and for all, so that it
comes back as it was written. The exception is an amount that is cut down to nothing, or to a number that equals what
the device says for zero: it comes back as zero, and a zero is written in the device's own way.
-/

namespace Reconcile

namespace PropertyRule

/-- Whether a rule has a way of its own to say zero. -/
def hasZero (rule : PropertyRule) : Bool :=
  !rule.zeroValue.isNull

/-- Whether a device value is read as zero. -/
def ReadsZero (rule : PropertyRule) (value : Value) : Prop :=
  rule.toDeclaration value = .ok (.int 0)

/-- A device value as it is written again after it has been read. -/
def rewritten (rule : PropertyRule) (value : Value) : Result Value :=
  rule.toDevice <$> rule.toDeclaration value

section

variable {rule : PropertyRule} {factor : Int}

theorem read_int (rule : PropertyRule) (units : Int) : rule.read (.int units) = .int units :=
  ite_self _

theorem read_eq_self_or (rule : PropertyRule) (value : Value) :
    rule.read value = value ∨ ∃ rest, value = .text (commonHead ++ rest) ∧ rule.read value = .text rest := by
  unfold read
  split
  next => exact .inl rfl
  next =>
    by_cases apart : ∀ rest, value ≠ .text (commonHead ++ rest)
    · exact .inl ((withoutPartition_eq_self_iff value).mpr apart)
    · simp only [not_forall, not_not] at apart
      obtain ⟨rest, rfl⟩ := apart
      exact .inr ⟨rest, rfl, withoutPartition_append rest⟩

variable (scales : rule.multiplier = some factor) (positive : 0 < factor)
include scales positive

theorem multiplier?_of_pos : rule.multiplier? = some factor := by
  have given : factor ≠ 0 := by omega
  rw [multiplier?, scales, Option.filter_some_pos (by simpa using given)]

theorem toDevice_int (number : Int) :
    rule.toDevice (.int number) =
      if number = 0 ∧ rule.hasZero = true then rule.zeroValue else .int (number / factor) := by
  have floored : number.fdiv factor = number / factor := Int.fdiv_eq_ediv_of_nonneg number (by omega)
  rw [toDevice, scaledDown, multiplier?_of_pos scales positive]
  dsimp only
  rw [floored]
  rfl

variable (truthless : rule.hasTruth = false)
include truthless

theorem toDeclaration_eq (value : Value) :
    rule.toDeclaration value = rule.scaledUp factor (rule.read value) >>= rule.parsed := by
  simp only [toDeclaration, truthless, Bool.false_eq_true, ↓reduceIte, multiplier?_of_pos scales positive]

omit scales positive truthless in
theorem parsed_int (rule : PropertyRule) (number : Int) : rule.parsed (.int number) = .ok (.int number) :=
  ite_self _

theorem toDeclaration_int (units : Int) :
    rule.toDeclaration (.int units) = .ok (.int (if rule.isZeroValue (.int units) then 0 else units * factor)) := by
  have scaled : rule.scaledUp factor (.int units) =
      .ok (.int (if rule.isZeroValue (.int units) then 0 else units * factor)) := by
    rw [scaledUp]
    split
    next => rfl
    next => rfl
  rw [toDeclaration_eq scales positive truthless, read_int, scaled, Result.ok_bind, parsed_int]

theorem readsZero_int (units : Int) :
    rule.ReadsZero (.int units) ↔ units = 0 ∨ rule.isZeroValue (.int units) = true := by
  rw [ReadsZero, toDeclaration_int scales positive truthless, Except.ok.injEq, Value.int.injEq]
  split
  next zero => exact iff_of_true rfl (.inr zero)
  next other =>
    have given : factor ≠ 0 := by omega
    rw [or_iff_left other, Int.mul_eq_zero, or_iff_left given]

theorem readsZero_of_read (proper : rule.zeroValue.isProper = true) (stated : rule.hasZero = true)
    (plain : rule.read rule.zeroValue = rule.zeroValue) : rule.ReadsZero rule.zeroValue := by
  have zero : rule.isZeroValue rule.zeroValue = true :=
    Bool.and_eq_true_iff.mpr ⟨stated, Value.equalBy_self true _ proper⟩
  rw [ReadsZero, toDeclaration_eq scales positive truthless, plain, scaledUp, if_pos zero]
  exact rule.parsed_int 0

theorem toDeclaration_text {value final : Value} {content : String} (read : rule.read value = .text content)
    (other : rule.isZeroValue (.text content) = false) (done : rule.toDeclaration value = .ok final) :
    (∃ number, final = .int number) ∨ final = .text content := by
  rw [toDeclaration_eq scales positive truthless, read, scaledUp, other, if_neg Bool.false_ne_true,
    parseInteger_text] at done
  cases leads : Text.leadingNumeral? content.toList with
  | some numeral =>
    rw [leads] at done
    dsimp only at done
    cases read : Text.integerOrFail numeral with
    | error fault =>
      rw [read] at done
      cases done
    | ok number =>
      rw [read] at done
      change rule.parsed (.int (number * factor)) = _ at done
      rw [parsed_int] at done
      cases done
      exact .inl ⟨_, rfl⟩
  | none =>
    rw [leads] at done
    change rule.parsed (.text content) = _ at done
    rcases parsed_eq_ok.mp done with ⟨_, _, _⟩ | _
    · exact .inl ⟨_, rfl⟩
    · exact .inr rfl

theorem zeroValue_again_iff (proper : rule.zeroValue.isProper = true) (stated : rule.hasZero = true) :
    rule.rewritten rule.zeroValue = .ok rule.zeroValue ↔ rule.ReadsZero rule.zeroValue := by
  constructor
  · intro again
    obtain ⟨final, done, again⟩ := Result.map_eq_ok.mp again
    rcases rule.read_eq_self_or rule.zeroValue with plain | ⟨rest, spelling, read⟩
    · exact readsZero_of_read scales positive truthless proper stated plain
    · have shorter : rest ≠ commonHead ++ rest := fun same => by
        have length := congrArg String.length same
        simp [commonHead] at length
      have other : rule.isZeroValue (.text rest) = false := by
        rw [isZeroValue, spelling]
        simp [Value.looseEq, Value.equalBy, shorter]
      rcases toDeclaration_text scales positive truthless read other done with ⟨number, rfl⟩ | rfl
      · -- A number is written as a text only if it is zero.
        rw [toDevice_int scales positive] at again
        split at again
        next none => rw [ReadsZero, done, none.1]
        next => cases again.trans spelling
      · rw [spelling] at again
        exact absurd (Value.text.inj again) shorter
  · intro zero
    rw [rewritten, zero]
    exact congrArg Except.ok ((toDevice_int scales positive 0).trans (if_pos ⟨rfl, stated⟩))

theorem units_again {units : Int} (counts : ¬rule.ReadsZero (.int units)) :
    rule.rewritten (.int units) = .ok (.int units) := by
  rw [readsZero_int scales positive truthless, not_or] at counts
  have whole : units * factor / factor = units := Int.mul_ediv_cancel units (by omega)
  have given : ¬(units * factor = 0 ∧ rule.hasZero = true) := fun zero =>
    counts.1 ((Int.mul_eq_zero.mp zero.1).resolve_right (by omega))
  rw [rewritten, toDeclaration_int scales positive truthless, if_neg counts.2]
  refine congrArg Except.ok ((toDevice_int scales positive (units * factor)).trans ?_)
  rw [if_neg given, whole]

omit truthless in
theorem zero_again {value : Value} (zero : rule.ReadsZero value) :
    rule.rewritten value = .ok (if rule.hasZero then rule.zeroValue else .int 0) := by
  rw [rewritten, zero]
  refine congrArg Except.ok ((toDevice_int scales positive 0).trans ?_)
  rw [Int.zero_ediv]
  cases rule.hasZero <;> simp

theorem readsZero_units (number : Int) :
    rule.ReadsZero (.int (number / factor)) ↔
      0 ≤ number ∧ number < factor ∨ rule.isZeroValue (.int (number / factor)) = true := by
  have below : number / factor = 0 ↔ 0 ≤ number ∧ number < factor := by
    rw [Int.ediv_eq_iff_of_pos positive]
    omega
  rw [readsZero_int scales positive truthless, below]

theorem unstated_again (unstated : rule.hasZero = false) (number : Int) :
    rule.rewritten (rule.toDevice (.int number)) = .ok (rule.toDevice (.int number)) := by
  rw [toDevice_int scales positive number, if_neg (by simp [unstated])]
  by_cases zero : rule.ReadsZero (.int (number / factor))
  · have other : rule.isZeroValue (.int (number / factor)) = false := by
      rw [isZeroValue, ← hasZero, unstated, Bool.false_and]
    have none : number / factor = 0 := by
      simpa [other] using (readsZero_int scales positive truthless _).mp zero
    rw [zero_again scales positive zero, unstated, none]
    rfl
  · exact units_again scales positive truthless zero

/-- Written, read back and written again, an amount comes to what was written first, whatever its units are, unless
these are read as zero and are not the way to say zero themselves: then this is what is written the second time. Units
are read as zero if there are none, or if they equal the way to say zero. This way itself comes to what it was if it is
read as zero, as it is unless it loses a partition. -/
theorem written_again (proper : rule.zeroValue.isProper = true) (number : Int) :
    (rule.rewritten (rule.toDevice (.int number)) = .ok (rule.toDevice (.int number)) ↔
      rule.hasZero = false ∨ (number = 0 ∧ rule.ReadsZero rule.zeroValue) ∨
        (number ≠ 0 ∧ (rule.ReadsZero (.int (number / factor)) → rule.zeroValue = .int (number / factor)))) ∧
    (rule.hasZero = true → number ≠ 0 → rule.ReadsZero (.int (number / factor)) →
      rule.toDevice (.int number) = .int (number / factor) ∧
        rule.rewritten (rule.toDevice (.int number)) = .ok rule.zeroValue) ∧
    (rule.ReadsZero (.int (number / factor)) ↔
      0 ≤ number ∧ number < factor ∨ rule.isZeroValue (.int (number / factor)) = true) ∧
    (rule.hasZero = true → rule.read rule.zeroValue = rule.zeroValue → rule.ReadsZero rule.zeroValue) := by
  have units (given : number ≠ 0) : rule.toDevice (.int number) = .int (number / factor) := by
    rw [toDevice_int scales positive, if_neg (by simp [given])]
  refine ⟨?_, fun stated given zero => ⟨units given, ?_⟩, readsZero_units scales positive truthless number,
    fun stated => readsZero_of_read scales positive truthless proper stated⟩
  · cases stated : rule.hasZero with
    | false => exact iff_of_true (unstated_again scales positive truthless stated number) (.inl rfl)
    | true =>
      by_cases given : number = 0
      · subst given
        rw [toDevice_int scales positive, if_pos ⟨rfl, stated⟩,
          zeroValue_again_iff scales positive truthless proper stated]
        simp
      · rw [units given]
        by_cases zero : rule.ReadsZero (.int (number / factor))
        · rw [zero_again scales positive zero, if_pos stated]
          simp [given, zero]
        · simp [given, zero, units_again scales positive truthless zero]
  · rw [units given, zero_again scales positive zero, if_pos stated]

end

/-- An idle time of ninety seconds is written as one minute, again and again. -/
theorem written_again_idleTime :
    ∃ rule ∈ Packaged.systemCli.properties, rule.multiplier = some 60 ∧ 0 < (60 : Int) ∧ rule.hasTruth = false ∧
      rule.zeroValue.isProper = true ∧ rule.toDevice (.int 90) = .int 1 ∧
      rule.rewritten (rule.toDevice (.int 90)) = .ok (rule.toDevice (.int 90)) := by
  refine ⟨_, List.mem_cons_self .., rfl, by decide, rfl, rfl, rfl, ?_⟩
  refine (written_again rfl (by decide) rfl rfl 90).1.mpr (.inr (.inr ⟨by decide, fun zero => ?_⟩))
  exact absurd ((readsZero_units rfl (by decide) rfl 90).mp zero) (by decide)

/-- Half a minute is written as no minute at all, which is read as zero, and zero switches the idle time off. -/
theorem half_minute_switched_off :
    ∃ rule ∈ Packaged.systemCli.properties, rule.multiplier = some 60 ∧ 0 < (60 : Int) ∧ rule.hasTruth = false ∧
      rule.toDevice (.int 30) = .int 0 ∧ rule.toDeclaration (.int 0) = .ok (.int 0) ∧
      rule.toDevice (.int 0) = .text "disabled" ∧
      rule.rewritten (rule.toDevice (.int 30)) ≠ .ok (rule.toDevice (.int 30)) :=
  ⟨_, List.mem_cons_self .., rfl, by decide, rfl, rfl, rfl, rfl, nofun⟩

end PropertyRule

end Reconcile
