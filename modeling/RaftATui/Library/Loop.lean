import Mathlib.Order.Basic

/-
This file gives the rules for a loop whose body either goes on or returns.
-/

namespace Machinery.Loop

variable {State Result : Type}

/-- The loop takes at most the given number of turns. -/
def iterate (turn : State → State ⊕ Result) : Nat → State → Option Result
  | 0, _ => none
  | fuel + 1, state =>
      match turn state with
      | .inl next => iterate turn fuel next
      | .inr result => some result

/-- A loop whose turns shrink a measure returns, and it returns what each turn keeps. -/
theorem iterate_eq_some {turn : State → State ⊕ Result} (measure : State → Nat) (returns : State → Result)
    (shrinks : ∀ state next, turn state = .inl next → measure next < measure state)
    (keeps : ∀ state next, turn state = .inl next → returns state = returns next)
    (ends : ∀ state result, turn state = .inr result → returns state = result) {fuel : Nat} {state : State}
    (enough : measure state < fuel) : iterate turn fuel state = some (returns state) := by
  induction fuel generalizing state with
  | zero => exact absurd enough (Nat.not_lt_zero _)
  | succ fuel ih =>
      rw [iterate]
      cases step : turn state with
      | inl next =>
          have smaller := shrinks state next step
          rw [keeps state next step]
          exact ih (by omega)
      | inr result => rw [ends state result step]

end Machinery.Loop
