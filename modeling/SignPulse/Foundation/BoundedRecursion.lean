import Mathlib.Order.Basic

/-!
# Recursion with a bound

A function that asks itself only about smaller arguments, computed for arguments up to a bound: the
bound does not matter once it is large enough.
-/

namespace SignPulse.Foundation

variable {α β : Type*} {run : ℕ → α → β} {body : (α → β) → α → β} {size : α → ℕ}

theorem bounded_stable
    (hsucc : ∀ bound argument, run (bound + 1) argument = body (run bound) argument)
    (hlocal : ∀ left right argument,
      (∀ smaller, size smaller < size argument → left smaller = right smaller) →
        body left argument = body right argument) {bound other : ℕ} {argument : α}
    (hbound : size argument < bound) (hother : size argument < other) :
    run bound argument = run other argument := by
  induction bound generalizing other argument with
  | zero => exact absurd hbound (Nat.not_lt_zero _)
  | succ bound ih =>
    cases other with
    | zero => exact absurd hother (Nat.not_lt_zero _)
    | succ other =>
      rw [hsucc, hsucc]
      refine hlocal _ _ argument fun smaller hsmaller => ?_
      exact ih (Nat.lt_of_lt_of_le hsmaller (Nat.le_of_lt_succ hbound))
        (Nat.lt_of_lt_of_le hsmaller (Nat.le_of_lt_succ hother))

theorem bounded_eq (hsucc : ∀ bound argument, run (bound + 1) argument = body (run bound) argument)
    (hlocal : ∀ left right argument,
      (∀ smaller, size smaller < size argument → left smaller = right smaller) →
        body left argument = body right argument) (argument : α) :
    run (size argument + 1) argument =
      body (fun smaller => run (size smaller + 1) smaller) argument := by
  rw [hsucc]
  refine hlocal _ _ argument fun smaller hsmaller => ?_
  exact bounded_stable hsucc hlocal hsmaller (Nat.lt_succ_self _)

end SignPulse.Foundation
