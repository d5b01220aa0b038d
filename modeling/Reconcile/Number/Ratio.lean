/-!
Fractions as plain pairs, compared by cross multiplication. They are the common ground on which integers
and binary fractions of any size are compared exactly.
-/

namespace Reconcile

/-- `numerator / denominator`, with a positive `denominator` wherever one is built here. -/
structure Ratio where
  numerator : Int
  denominator : Nat
deriving DecidableEq, Inhabited

namespace Ratio

def ofInt (number : Int) : Ratio :=
  ⟨number, 1⟩

def same (left right : Ratio) : Bool :=
  left.numerator * right.denominator == right.numerator * left.denominator

def less (left right : Ratio) : Bool :=
  left.numerator * right.denominator < right.numerator * left.denominator

theorem same_self (ratio : Ratio) : same ratio ratio = true := by
  simp [same]

end Ratio

/-- The quotient of two naturals to the nearest natural, a tie going to the even neighbour. -/
def roundDiv (numerator denominator : Nat) : Nat :=
  let quotient := numerator / denominator
  let twice := 2 * (numerator % denominator)
  if denominator < twice ∨ (twice = denominator ∧ quotient % 2 = 1) then quotient + 1 else quotient

end Reconcile
