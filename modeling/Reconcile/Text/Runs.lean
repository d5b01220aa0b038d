/-!
Sets of characters written as run lengths. A run list counts, from code point zero on, the characters
outside the set, then those inside it, then those outside it, and so on; what follows the last run is outside.
-/

namespace Reconcile.Text

/-- Whether position `point` falls into a run of the set, the first run being inside exactly when `inside`. -/
def inRuns (inside : Bool) : List Nat → Nat → Bool
  | [], _ => false
  | run :: runs, point => if point < run then inside else inRuns (!inside) runs (point - run)

def inIntervals (intervals : List (Nat × Nat)) (point : Nat) : Bool :=
  intervals.any fun interval => interval.1 ≤ point && point ≤ interval.2

end Reconcile.Text
