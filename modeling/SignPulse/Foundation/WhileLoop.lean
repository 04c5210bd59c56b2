import Mathlib.Order.Basic

/-!
# While loops

One turn of a loop either goes round again with a new state or leaves the loop
with a result.  `Leaves` is the meaning of the unbounded loop, a relation that
holds only of runs that end.  `whileLoop` computes with a bound on the number
of turns, and agrees with `Leaves` as soon as a measure below the bound goes
down in every turn.
-/

namespace SignPulse.Foundation

inductive Turn (σ ε : Type*) where
  | again (state : σ)
  | leave (result : ε)

variable {σ ε : Type*}

/-- `Leaves turn state result`: the loop entered in `state` ends, with
`result`. -/
inductive Leaves (turn : σ → Turn σ ε) : σ → ε → Prop where
  | now {state : σ} {result : ε} (hleave : turn state = .leave result) :
      Leaves turn state result
  | later {state next : σ} {result : ε} (hagain : turn state = .again next)
      (hrest : Leaves turn next result) : Leaves turn state result

/-- Run at most `bound` further turns after the present one; `cut` is the
result where that is not enough. -/
def whileLoop (turn : σ → Turn σ ε) (cut : σ → ε) : ℕ → σ → ε
  | 0, state =>
    match turn state with
    | .leave result => result
    | .again next => cut next
  | bound + 1, state =>
    match turn state with
    | .leave result => result
    | .again next => whileLoop turn cut bound next

variable {turn : σ → Turn σ ε} {state : σ}

theorem whileLoop_leaves (cut : σ → ε) (measure : σ → ℕ)
    (hdown : ∀ state next, turn state = .again next → measure next < measure state) :
    ∀ (bound : ℕ) (state : σ), measure state ≤ bound →
      Leaves turn state (whileLoop turn cut bound state) := by
  intro bound
  induction bound with
  | zero =>
    intro state hle
    cases hturn : turn state with
    | again next =>
      have := hdown state next hturn
      omega
    | leave result =>
      simp only [whileLoop, hturn]
      exact Leaves.now hturn
  | succ bound ih =>
    intro state hle
    cases hturn : turn state with
    | again next =>
      have hnext := hdown state next hturn
      simp only [whileLoop, hturn]
      exact Leaves.later hturn (ih next (by omega))
    | leave result =>
      simp only [whileLoop, hturn]
      exact Leaves.now hturn

/-- The invariant rule: what holds on entry and is kept by every turn that goes
round again holds where the loop is left. -/
theorem Leaves.invariant {result : ε} (hleaves : Leaves turn state result) (Inv : σ → Prop)
    (Post : ε → Prop) (hkeep : ∀ state next, Inv state → turn state = .again next → Inv next)
    (hpost : ∀ state result, Inv state → turn state = .leave result →
      Post result) (hentry : Inv state) : Post result := by
  induction hleaves with
  | now hleave => exact hpost _ _ hentry hleave
  | later hagain _ ih => exact ih (hkeep _ _ hentry hagain)

theorem Leaves.unique {left right : ε} (hleft : Leaves turn state left)
    (hright : Leaves turn state right) :
    left = right := by
  induction hleft with
  | now hleave =>
    cases hright with
    | now hleave' => simpa [hleave] using hleave'
    | later hagain _ => simp [hleave] at hagain
  | later hagain _ ih =>
    cases hright with
    | now hleave => simp [hagain] at hleave
    | later hagain' hrest =>
      have hnext := hagain.symm.trans hagain'
      cases hnext
      exact ih hrest

theorem Leaves.simulates {τ δ : Type*} {follow : τ → Turn τ δ} {result : ε}
    (hleaves : Leaves turn state result) (Rel : σ → τ → Prop) (Post : ε → δ → Prop)
    (hagain : ∀ state next other, Rel state other → turn state = .again next →
      Leaves turn next result → ∃ after, follow other = .again after ∧ Rel next after)
    (hleave : ∀ state other, Rel state other → turn state = .leave result →
      ∃ after, follow other = .leave after ∧ Post result after) {other : τ}
    (hentry : Rel state other) :
    ∃ after, Leaves follow other after ∧ Post result after := by
  induction hleaves generalizing other with
  | now hturn =>
    obtain ⟨after, hfollow, hpost⟩ := hleave _ _ hentry hturn
    exact ⟨after, .now hfollow, hpost⟩
  | later hturn hrest ih =>
    obtain ⟨next, hfollow, hrel⟩ := hagain _ _ _ hentry hturn hrest
    obtain ⟨after, hafter, hpost⟩ := ih hagain hleave hrel
    exact ⟨after, .later hfollow hafter, hpost⟩

end SignPulse.Foundation
