import Mathlib.Order.Basic

/-!
# Runs of a partial step function

`step state action` is the next state, where the action is possible at all.  A run
is a list of actions that takes one state to another, each of them possible and
allowed in the state that it meets.
-/

namespace SignPulse.Foundation

variable {σ α : Type*}

inductive StepRun (step : σ → α → Option σ) (Allowed : σ → α → Prop) :
    σ → List α → σ → Prop where
  | done (state : σ) : StepRun step Allowed state [] state
  | act {state next last : σ} {action : α} {rest : List α}
      (hallowed : Allowed state action) (hstep : step state action = some next)
      (hrest : StepRun step Allowed next rest last) :
      StepRun step Allowed state (action :: rest) last

variable {step : σ → α → Option σ} {Allowed : σ → α → Prop} {first last : σ} {actions : List α}

theorem StepRun.append {middle : σ} {others : List α}
    (hrun : StepRun step Allowed first actions middle)
    (hothers : StepRun step Allowed middle others last) :
    StepRun step Allowed first (actions ++ others) last := by
  induction hrun with
  | done state => exact hothers
  | act hallowed hstep _ ih => exact .act hallowed hstep (ih hothers)

theorem StepRun.invariant (hrun : StepRun step Allowed first actions last) (Inv : σ → Prop)
    (hkeep : ∀ state action next, Inv state → Allowed state action →
      step state action = some next → Inv next) (hfirst : Inv first) : Inv last := by
  induction hrun with
  | done state => exact hfirst
  | act hallowed hstep _ ih => exact ih (hkeep _ _ _ hfirst hallowed hstep)

theorem StepRun.congr {step : σ → α → Option σ} {Allowed Permitted : σ → α → Prop} {Inv : σ → Prop}
    (hsame : ∀ state action next, Inv state → step state action = some next →
      (Allowed state action ↔ Permitted state action))
    (hkeep : ∀ state action next, Inv state → Allowed state action →
      step state action = some next → Inv next)
    {first last : σ} {actions : List α} (hfirst : Inv first) :
    StepRun step Allowed first actions last ↔ StepRun step Permitted first actions last := by
  constructor
  · intro hrun
    induction hrun with
    | done state => exact .done state
    | act hallowed hstep _ ih =>
      have hnext := hkeep _ _ _ hfirst hallowed hstep
      exact .act ((hsame _ _ _ hfirst hstep).mp hallowed) hstep (ih hnext)
  · intro hrun
    induction hrun with
    | done state => exact .done state
    | act hpermitted hstep _ ih =>
      have hallowed := (hsame _ _ _ hfirst hstep).mpr hpermitted
      exact .act hallowed hstep (ih (hkeep _ _ _ hfirst hallowed hstep))

/-- Take the actions one after another, as long as they are possible and allowed. -/
def replay (step : σ → α → Option σ) (allowed : σ → α → Bool) : σ → List α → Option σ
  | state, [] => some state
  | state, action :: rest =>
    if allowed state action then
      match step state action with
      | some next => replay step allowed next rest
      | none => none
    else none

theorem stepRun_of_replay {allowed : σ → α → Bool} :
    ∀ {actions : List α} {first : σ}, replay step allowed first actions = some last →
      StepRun step (fun state action => allowed state action = true) first actions last := by
  intro actions
  induction actions with
  | nil =>
    intro first hreplay
    obtain rfl := Option.some.inj hreplay
    exact .done first
  | cons action rest ih =>
    intro first hreplay
    unfold replay at hreplay
    split at hreplay
    · next hallowed =>
      split at hreplay
      · next next hstep => exact .act hallowed hstep (ih hreplay)
      · cases hreplay
    · cases hreplay

def stateAfter (step : σ → α → Option σ) (first : σ) (actions : List α) : σ :=
  (replay step (fun _ _ => true) first actions).getD first

theorem stepRun_get [∀ state action, Decidable (Allowed state action)]
    (hreplay : (replay step (fun state action => decide (Allowed state action)) first
      actions).isSome = true) :
    StepRun step Allowed first actions ((replay step
      (fun state action => decide (Allowed state action)) first actions).get hreplay) := by
  have hrun := stepRun_of_replay (Option.some_get hreplay).symm
  simpa only [decide_eq_true_eq] using hrun

theorem StepRun.stateAfter_eq (hrun : StepRun step Allowed first actions last) :
    stateAfter step first actions = last := by
  have hreplay : replay step (fun _ _ => true) first actions = some last := by
    induction hrun with
    | done state => rfl
    | act _ hstep _ ih =>
      rw [replay, if_pos rfl, hstep]
      exact ih
  rw [stateAfter, hreplay, Option.getD_some]

theorem stepRun_stateAfter [∀ state action, Decidable (Allowed state action)]
    (hreplay : (replay step (fun state action => decide (Allowed state action)) first
      actions).isSome = true) :
    StepRun step Allowed first actions (stateAfter step first actions) := by
  have hrun := stepRun_get hreplay
  rwa [hrun.stateAfter_eq]

end SignPulse.Foundation
