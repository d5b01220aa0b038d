import Reconcile.Number.Ratio

/-!
Double-precision numbers held as sign, mantissa and exponent, so that they are data like any other: equality
is decidable, comparison is exact and nothing depends on machine arithmetic.
-/

namespace Reconcile

/-- Plus or minus `mantissa · 2 ^ exponent`. A built number has its mantissa in `[2 ^ 52, 2 ^ 53)`, or the
least exponent `-1074` and a smaller mantissa; infinity is the one number of magnitude `2 ^ 1024`. -/
structure Binary64 where
  negative : Bool
  mantissa : Nat
  exponent : Int
deriving DecidableEq, Inhabited

namespace Binary64

def zero (negative : Bool) : Binary64 :=
  ⟨negative, 0, -1074⟩

def infinity (negative : Bool) : Binary64 :=
  ⟨negative, Nat.pow 2 52, 972⟩

def isZero (number : Binary64) : Bool :=
  number.mantissa == 0

def isInfinite (number : Binary64) : Bool :=
  decide (972 ≤ number.exponent)

def ratio (number : Binary64) : Ratio :=
  let signed : Int := if number.negative then -(number.mantissa : Int) else number.mantissa
  match number.exponent with
  | .ofNat up => ⟨signed * Nat.pow 2 up, 1⟩
  | .negSucc down => ⟨signed, Nat.pow 2 (down + 1)⟩

/-- `numerator / denominator` scaled by `2 ^ (-exponent)`, as a pair that still has to be divided. -/
def scaled (numerator denominator : Nat) : Int → Nat × Nat
  | .ofNat up => (numerator, denominator * Nat.pow 2 up)
  | .negSucc down => (numerator * Nat.pow 2 (down + 1), denominator)

/-- The number nearest to `numerator / denominator`, a tie going to the even mantissa. -/
def nearest (negative : Bool) (numerator denominator : Nat) : Binary64 :=
  if numerator = 0 then zero negative
  else
    let guess : Int := (Nat.log2 numerator : Int) - Nat.log2 denominator - 53
    let wide := scaled numerator denominator guess
    let exponent := max (-1074) (if wide.2 * Nat.pow 2 53 ≤ wide.1 then guess + 1 else guess)
    let pair := scaled numerator denominator exponent
    let mantissa := roundDiv pair.1 pair.2
    let carried : Binary64 :=
      if mantissa = Nat.pow 2 53 then ⟨negative, Nat.pow 2 52, exponent + 1⟩ else ⟨negative, mantissa, exponent⟩
    if carried.isInfinite then infinity negative else carried

def ofDecimal (negative : Bool) (digits : Nat) (power : Int) : Binary64 :=
  let size : Int := (Nat.log2 digits : Int) / 3 + 1
  if digits = 0 then zero negative
  else if 400 < power then infinity negative
  else if size + power < -400 then zero negative
  else match power with
    | .ofNat up => nearest negative (digits * Nat.pow 10 up) 1
    | .negSucc down => nearest negative digits (Nat.pow 10 (down + 1))

end Binary64

end Reconcile
