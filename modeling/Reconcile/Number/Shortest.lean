import Reconcile.Number.Binary64

/-!
The shortest decimal of a double-precision number: the fewest digits that still round to it, and of the
decimals with that many digits the nearest. It is searched on ever finer decimal grids; the first grid with
a point in the rounding interval wins, and one of the two grid points next to the number is always such a point.
-/

namespace Reconcile

namespace Binary64

/-- The interval of reals that round to a number, and the number itself, over a common denominator. -/
structure Rounding where
  low : Nat
  value : Nat
  high : Nat
  under : Nat
  closed : Bool

/-- Half a unit on either side; below a power of two the neighbour is nearer. The ends belong to the interval
exactly when the mantissa is even. -/
def rounding (number : Binary64) : Rounding :=
  let four := 4 * number.mantissa
  let low := if number.mantissa = Nat.pow 2 52 ∧ -1074 < number.exponent then four - 1 else four - 2
  let closed := number.mantissa % 2 == 0
  match number.exponent - 2 with
  | .ofNat up => ⟨low * Nat.pow 2 up, four * Nat.pow 2 up, (four + 2) * Nat.pow 2 up, 1, closed⟩
  | .negSucc down => ⟨low, four, four + 2, Nat.pow 2 (down + 1), closed⟩

structure Decimal where
  digits : Nat
  power : Int
deriving DecidableEq, Inhabited

/-- `digits · 10 ^ power · under` against numerators over `under`: the two sides of a comparison without fractions. -/
def Rounding.crossed (interval : Rounding) (decimal : Decimal) (numerator : Nat) : Nat × Nat :=
  match decimal.power with
  | .ofNat up => (decimal.digits * Nat.pow 10 up * interval.under, numerator)
  | .negSucc down => (decimal.digits * interval.under, numerator * Nat.pow 10 (down + 1))

def Rounding.holds (interval : Rounding) (decimal : Decimal) : Bool :=
  let below := interval.crossed decimal interval.low
  let above := interval.crossed decimal interval.high
  if interval.closed then below.2 ≤ below.1 && above.1 ≤ above.2 else below.2 < below.1 && above.1 < above.2

def Rounding.distance (interval : Rounding) (decimal : Decimal) : Nat :=
  let sides := interval.crossed decimal interval.value
  (sides.1 - sides.2) + (sides.2 - sides.1)

def Rounding.below (interval : Rounding) (power : Int) : Decimal :=
  match power with
  | .ofNat up => ⟨interval.value / (interval.under * Nat.pow 10 up), power⟩
  | .negSucc down => ⟨interval.value * Nat.pow 10 (down + 1) / interval.under, power⟩

def Rounding.onGrid? (interval : Rounding) (power : Int) : Option Decimal :=
  let lower := interval.below power
  let upper : Decimal := ⟨lower.digits + 1, power⟩
  match interval.holds lower, interval.holds upper with
  | true, true =>
    let nearLower := interval.distance lower
    let nearUpper := interval.distance upper
    some (if nearLower < nearUpper ∨ (nearLower = nearUpper ∧ lower.digits % 2 = 0) then lower else upper)
  | true, false => some lower
  | false, true => some upper
  | false, false => none

def Rounding.point (interval : Rounding) : Int :=
  let whole := interval.value / interval.under
  if whole ≠ 0 then (Nat.toDigits 10 whole).length
  else
    match (List.range 400).find? fun zeros => interval.under ≤ interval.value * Nat.pow 10 (zeros + 1) with
    | some zeros => -(zeros : Int)
    | none => -400

def Decimal.trimmed (decimal : Decimal) : Nat → Decimal
  | 0 => decimal
  | fuel + 1 =>
    if decimal.digits ≠ 0 ∧ decimal.digits % 10 = 0
    then trimmed ⟨decimal.digits / 10, decimal.power + 1⟩ fuel else decimal

/-- Seventeen digits always suffice. -/
def shortest (number : Binary64) : Decimal :=
  let interval := number.rounding
  let point := interval.point
  match (List.range 17).findSome? fun count => interval.onGrid? (point - (count + 1 : Nat)) with
  | some decimal => decimal.trimmed 400
  | none => ⟨0, 0⟩

/-- Written positionally while the point stands at most sixteen digits to the right and four to the left of the
first digit, else with an exponent of at least two digits; a whole number keeps `.0`. -/
def text (number : Binary64) : String :=
  let sign := if number.negative then "-" else ""
  if number.isZero then sign ++ "0.0"
  else if number.isInfinite then sign ++ "inf"
  else
    let decimal := number.shortest
    let digits := Nat.toDigits 10 decimal.digits
    let point : Int := decimal.power + digits.length
    if -4 < point ∧ point ≤ 16 then
      if point ≤ 0 then
        sign ++ "0." ++ String.ofList (List.replicate (-point).toNat '0' ++ digits)
      else
        let whole := digits.take point.toNat ++ List.replicate (point.toNat - digits.length) '0'
        let rest := digits.drop point.toNat
        sign ++ String.ofList whole ++ "." ++ (if rest.isEmpty then "0" else String.ofList rest)
    else
      let power := point - 1
      let size := Nat.toDigits 10 power.natAbs
      let padded := if size.length < 2 then '0' :: size else size
      let rest := digits.drop 1
      sign ++ String.ofList (digits.take 1) ++ (if rest.isEmpty then "" else "." ++ String.ofList rest)
        ++ "e" ++ (if power < 0 then "-" else "+") ++ String.ofList padded

end Binary64

end Reconcile
