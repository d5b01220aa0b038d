import Reconcile.Remote.Failure
import Reconcile.Value.Basic

/-!
Trying again what may work another time.
-/

namespace Reconcile

structure RetryPolicy where
  attempts : Int
  leastWait : Value
  mostWait : Value

namespace RetryPolicy

def short : RetryPolicy :=
  ⟨3, .real (Binary64.ofDecimal false 5 (-1)), .int 2⟩

def standard : RetryPolicy :=
  ⟨5, .int 1, .int 10⟩

def once : RetryPolicy :=
  ⟨1, .int 0, .int 0⟩

/-- How often a call is made at most; the first attempt is never spared. -/
def tries (policy : RetryPolicy) : Nat :=
  max 1 policy.attempts.toNat

def outline (policy : RetryPolicy) : Value :=
  .object [("max_attempts", .int policy.attempts), ("min_wait", policy.leastWait), ("max_wait", policy.mostWait)]

def outlines : Value :=
  .object [("SHORT_RETRY", short.outline), ("DEFAULT_RETRY", standard.outline), ("NO_RETRY", once.outline)]

end RetryPolicy

section Attempts

variable {σ ε α : Type}

/-- What comes of a call that is made again after a failure worth another attempt, but `left + 1` times at most. -/
inductive Attempts (isWorthAnother : ε → Bool) (call : σ → Except ε α × σ) : Nat → σ → Except ε α × σ → Prop where
  | last {left : Nat} {state : σ} {done : Except ε α × σ} (came : call state = done)
      (final : left = 0 ∨ ∀ failure, done.1 = .error failure → isWorthAnother failure = false) :
      Attempts isWorthAnother call left state done
  | again {left : Nat} {state later : σ} {failure : ε} {done : Except ε α × σ}
      (failed : call state = (.error failure, later)) (worth : isWorthAnother failure = true)
      (further : Attempts isWorthAnother call left later done) : Attempts isWorthAnother call (left + 1) state done

def withAttempts (isWorthAnother : ε → Bool) (call : σ → Except ε α × σ) : Nat → σ → Except ε α × σ
  | 0, state => call state
  | left + 1, state =>
    match call state with
    | (.error failure, state) =>
      if isWorthAnother failure then withAttempts isWorthAnother call left state else (.error failure, state)
    | done => done

theorem attempts_withAttempts (isWorthAnother : ε → Bool) (call : σ → Except ε α × σ) (left : Nat) (state : σ) :
    Attempts isWorthAnother call left state (withAttempts isWorthAnother call left state) := by
  induction left generalizing state with
  | zero => exact .last rfl (.inl rfl)
  | succ left ih =>
    unfold withAttempts
    split
    next failure later failed =>
      split
      next worth => exact .again failed worth (ih later)
      next other =>
        refine .last failed (.inr fun _ same => ?_)
        cases same
        exact Bool.eq_false_iff.mpr other
    next passed => exact .last rfl (.inr fun failure same => (passed failure _ (Prod.ext same rfl)).elim)

end Attempts

structure Retrying where
  run {σ ε α : Type} (isWorthAnother : ε → Bool) (call : σ → Except ε α × σ) (left : Nat) (state : σ) : Except ε α × σ
  attempts {σ ε α : Type} (isWorthAnother : ε → Bool) (call : σ → Except ε α × σ) (left : Nat) (state : σ) :
    Attempts isWorthAnother call left state (run isWorthAnother call left state)

def Retrying.usual : Retrying :=
  ⟨withAttempts, attempts_withAttempts⟩

/-- What comes of each call in turn: a value, or the failure it names. The last one repeats. -/
def nextOutcome : List Value × Nat → Except String Value × (List Value × Nat)
  | (outcomes, calls) =>
    let outcome := outcomes.headD .null
    let rest := if outcomes.length ≤ 1 then outcomes else outcomes.tail
    (match outcome with
      | .text name => if Failure.isKnown name then .error name else .ok (.text name)
      | value => .ok value, (rest, calls + 1))

def RetryPolicy.run (policy : RetryPolicy) (kinds : List String) (outcomes : List Value) : Except String Value × Nat :=
  let (outcome, _, calls) := withAttempts (Failure.isAnyOf kinds) nextOutcome (policy.tries - 1) (outcomes, 0)
  (outcome, calls)

end Reconcile
