import SignPulse.Foundation.WhileLoop

/-!
# Traces of loops

`Passes step first items last`: the items lead from one value to another, each of
them by `step`.  `whileTrace` collects what the turns of a loop emit; where every turn
passes on a value by its items, the whole loop does.
-/

namespace SignPulse.Foundation

variable {σ ε τ ν : Type*}

inductive Passes (step : τ → ν → ν → Prop) : ν → List τ → ν → Prop where
  | nil (value : ν) : Passes step value [] value
  | cons {first next last : ν} {item : τ} {rest : List τ} (hstep : step item first next)
      (hrest : Passes step next rest last) : Passes step first (item :: rest) last

theorem Passes.append {step : τ → ν → ν → Prop} {first middle last : ν} {items others : List τ}
    (hitems : Passes step first items middle) (hothers : Passes step middle others last) :
    Passes step first (items ++ others) last := by
  induction hitems with
  | nil value => exact hothers
  | cons hstep _ ih => exact .cons hstep (ih hothers)

theorem Passes.split {step : τ → ν → ν → Prop} {first last : ν} {items others : List τ}
    (hpasses : Passes step first (items ++ others) last) :
    ∃ middle, Passes step first items middle ∧ Passes step middle others last := by
  induction items generalizing first with
  | nil => exact ⟨first, .nil first, hpasses⟩
  | cons item rest ih =>
    cases hpasses with
    | cons hstep hrest =>
      obtain ⟨middle, hbefore, hafter⟩ := ih hrest
      exact ⟨middle, .cons hstep hbefore, hafter⟩

/-- What the turns of `whileLoop` emit, from the first to the last. -/
def whileTrace (turn : σ → Turn σ ε) (emit : σ → List τ) : ℕ → σ → List τ
  | 0, state => emit state
  | bound + 1, state =>
    emit state ++ match turn state with
      | .leave _ => []
      | .again next => whileTrace turn emit bound next

theorem passes_whileTrace {step : τ → ν → ν → Prop} {turn : σ → Turn σ ε}
    {emit : σ → List τ} (value : σ → ν)
    (hagain : ∀ state next, turn state = .again next →
      Passes step (value state) (emit state) (value next))
    (hleave : ∀ state, ∃ last, Passes step (value state) (emit state) last) :
    ∀ (bound : ℕ) (state : σ),
      ∃ last, Passes step (value state) (whileTrace turn emit bound state) last := by
  intro bound
  induction bound with
  | zero => exact hleave
  | succ bound ih =>
    intro state
    unfold whileTrace
    cases hturn : turn state with
    | leave result =>
      obtain ⟨last, hlast⟩ := hleave state
      exact ⟨last, hlast.append (.nil last)⟩
    | again next =>
      obtain ⟨last, hlast⟩ := ih next
      exact ⟨last, (hagain state next hturn).append hlast⟩

theorem whileLoop_of_mem_whileTrace {turn : σ → Turn σ ε} {emit : σ → List τ}
    {cut : σ → ε} {item : τ} (Seen : σ → Prop) (Post : ε → Prop)
    (hseen : ∀ state next, item ∈ emit state → turn state = .again next → Seen next)
    (hlast : ∀ state result, item ∈ emit state → turn state = .leave result → Post result)
    (hkeep : ∀ state next, Seen state → turn state = .again next → Seen next)
    (hpost : ∀ state result, Seen state → turn state = .leave result → Post result)
    (hcut : ∀ state, Seen state → Post (cut state)) :
    ∀ (bound : ℕ) (state : σ), Seen state ∨ item ∈ whileTrace turn emit bound state →
      Post (whileLoop turn cut bound state) := by
  intro bound
  induction bound with
  | zero =>
    intro state hstate
    unfold whileLoop
    cases hturn : turn state with
    | leave result =>
      rcases hstate with hstate | hitem
      · exact hpost state result hstate hturn
      · exact hlast state result hitem hturn
    | again next =>
      rcases hstate with hstate | hitem
      · exact hcut next (hkeep state next hstate hturn)
      · exact hcut next (hseen state next hitem hturn)
  | succ bound ih =>
    intro state hstate
    unfold whileTrace at hstate
    unfold whileLoop
    cases hturn : turn state with
    | leave result =>
      rw [hturn] at hstate
      rcases hstate with hstate | hitem
      · exact hpost state result hstate hturn
      · exact hlast state result (by simpa using hitem) hturn
    | again next =>
      rw [hturn] at hstate
      refine ih next ?_
      rcases hstate with hstate | hitem
      · exact Or.inl (hkeep state next hstate hturn)
      · rcases List.mem_append.mp hitem with hnow | hlater
        · exact Or.inl (hseen state next hnow hturn)
        · exact Or.inr hlater

end SignPulse.Foundation
