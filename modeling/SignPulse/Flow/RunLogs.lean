import SignPulse.Flow.NodeLaws

/-!
# Logs of runs

Every visit in the log of a run is a visit that the loop made, and every log
inside a log is the log of a run.
-/

namespace SignPulse.RunLogs

open Foundation
open FlowModels
open FlowContext
open RunEnvironment
open NodeRuns
open FlowEngine
open EngineLaws
open NodeLaws

variable {World Call : Type} {env : Env World Call}

/-- A visit as a run of `graph` makes it. -/
def VisitIn (env : Env World Call) (graph : ExecutionGraph)
    (visit : Visit Call (RunLog Call)) : Prop :=
  Dict.getItem graph.nodes visit.key = some visit.node ∧ ∃ ctx world after,
      VisitRun env (run env) graph visit.key visit.node ctx world visit after

variable {graph : ExecutionGraph} {ctx : ScopedFlowContext} {world : World}
variable {visit : Visit Call (RunLog Call)} {check : RunLog Call → Bool}

theorem visitIn_of_run {key : String} {node : Node} {after : ScopedFlowContext}
    (hnode : Dict.getItem graph.nodes key = some node)
    (hrun : VisitRun env (run env) graph key node ctx world visit after) :
    VisitIn env graph visit := by
  have hshape : visit.key = key ∧ visit.node = node := by
    cases hrun <;> exact ⟨rfl, rfl⟩
  obtain ⟨rfl, rfl⟩ := hshape
  exact ⟨hnode, ctx, world, after, hrun⟩

theorem run_records (Inv : List (Visit Call (RunLog Call)) → ScopedFlowContext → Prop)
    (hentry : Inv [] ctx) (hvisit : ∀ visits before key node start visit after, Inv visits before →
      Dict.getItem graph.nodes key = some node →
      VisitRun env (run env) graph key node before start visit after →
      Inv (visits ++ [visit]) after) :
    Inv (run env graph ctx world).log.visits (run env graph ctx world).log.ctx := by
  rw [run_eq_conclude]
  have hturn : ∀ state, Inv state.visits state.ctx →
      Inv (endState (turn env (run env) graph state)).visits
        (endState (turn env (run env) graph state)).ctx := by
    intro state hinv
    cases turn_cases env (run env) graph state with
    | ended terminal error heq =>
      rw [heq]
      exact hinv
    | refused node error heq =>
      rw [heq]
      exact hinv
    | visited node visit after hnode hsteps hallowed hrun heffect =>
      rw [heffect.visits, heffect.ctx]
      exact hvisit _ _ _ _ _ _ _ hinv hnode hrun
  refine runLoop_invariant (fun state => Inv state.visits state.ctx)
    (fun departure => Inv departure.state.visits departure.state.ctx) hentry ?_ ?_
  · intro state next hinv hagain
    simpa only [hagain, endState] using hturn state hinv
  · intro state departure hinv hleave
    simpa only [hleave, endState] using hturn state hinv

section

variable (env : Env World Call) (graph : ExecutionGraph) (ctx : ScopedFlowContext) (world : World)

@[simp]
theorem run_log_exit : (run env graph ctx world).log.exit = (run env graph ctx world).exit := by
  rw [run_eq_conclude]
  rfl

@[simp]
theorem run_log_ctx : (run env graph ctx world).log.ctx = (run env graph ctx world).ctx := by
  rw [run_eq_conclude]
  rfl

end

theorem returned_of_conclude {departure : Departure World Call} {result : FlowResult}
    (hexit : (conclude env graph departure).log.exit = .returned result) :
    departure.exit = .returned () ∧ result = buildResult env graph departure.state := by
  unfold conclude at hexit
  cases hcase : departure.exit with
  | returned value => exact ⟨rfl, by simpa [hcase] using hexit.symm⟩
  | raised error => simp [hcase] at hexit
  | cancelled level => simp [hcase] at hexit

theorem run_result {env : Env World Call} {result : FlowResult}
    (hexit : (run env graph ctx world).log.exit = .returned result) :
    result.operationReceipts = (run env graph ctx world).log.ctx.operationReceipts ∧
      result.businessStatus =
        businessStatus graph result.success (run env graph ctx world).log.ctx := by
  rw [run_eq_conclude] at hexit ⊢
  rw [(returned_of_conclude hexit).2]
  exact ⟨rfl, rfl⟩

theorem run_visitIn : ∀ visit ∈ (run env graph ctx world).log.visits, VisitIn env graph visit := by
  refine run_records (fun visits _ => ∀ visit ∈ visits, VisitIn env graph visit) (by simp) ?_
  intro visits before key node start visit after hinv hnode hrun old hold
  rcases List.mem_append.mp hold with hbefore | hlast
  · exact hinv old hbefore
  · rw [List.mem_singleton.mp hlast]
    exact visitIn_of_run hnode hrun

variable (hvisit : VisitIn env graph visit)

include hvisit

theorem VisitIn.attempts : visit.attempts = [] ∨ ∃ ctx world,
      visit.attempts = (attemptsOf env (run env) graph visit.node ctx world).attempts := by
  obtain ⟨-, ctx, world, after, hrun⟩ := hvisit
  generalize hkey : visit.key = key at hrun
  generalize hnode : visit.node = node at hrun ⊢
  cases hrun with
  | guardRaised hguard => exact Or.inl rfl
  | skipped hguard => exact Or.inl rfl
  | interrupted hguard hexit => exact Or.inr ⟨ctx, world, rfl⟩
  | settled hguard hexit => exact Or.inr ⟨ctx, world, rfl⟩

theorem VisitIn.attempt {attempt : Attempt Call (RunLog Call)}
    (hattempt : attempt ∈ visit.attempts) :
    ∃ ctx world, attempt = (executeNode env (run env) graph visit.node ctx world).attempt := by
  rcases hvisit.attempts with hnone | ⟨ctx, world, hattempts⟩
  · rw [hnone] at hattempt
    cases hattempt
  · rw [hattempts] at hattempt
    exact attemptLoop_mem hattempt

theorem VisitIn.attempts_length :
    visit.attempts.length ≤ visit.node.retryPolicy.maxAttempts.toNat := by
  rcases hvisit.attempts with hnone | ⟨ctx, world, hattempts⟩
  · rw [hnone]
    exact Nat.zero_le _
  · rw [hattempts]
    exact attemptLoop_length _ _ _ _ _ _

theorem VisitIn.retried
    {before after : List (Attempt Call (RunLog Call))} {attempt : Attempt Call (RunLog Call)}
    (hsplit : visit.attempts = before ++ attempt :: after) (hafter : after ≠ []) :
    letsRetry visit.node.retryPolicy attempt = true := by
  rcases hvisit.attempts with hnone | ⟨ctx, world, hattempts⟩
  · simp [hnone] at hsplit
  · rw [hattempts] at hsplit
    exact attemptLoop_retried hsplit hafter

omit hvisit

theorem VisitIn.nested {graph : ExecutionGraph}
    {visit : Visit Call (RunLog Call)} (hvisit : VisitIn env graph visit)
    {log : RunLog Call} (hlog : log ∈ visit.nested) :
    ∃ inner ∈ subgraphs visit.node, ∃ ctx world, log = (run env inner ctx world).log := by
  obtain ⟨attempt, hattempt, hnested⟩ := List.mem_flatMap.mp hlog
  obtain ⟨ctx, world, rfl⟩ := hvisit.attempt hattempt
  exact executeNode_nested hnested

theorem nestedIn_run {inner outer : RunLog Call} (hnested : NestedIn inner outer) :
    ∀ graph ctx world, outer = (run env graph ctx world).log →
      ∃ graph ctx world, inner = (run env graph ctx world).log := by
  induction hnested with
  | direct hvisit hinner =>
    rintro graph ctx world rfl
    obtain ⟨nested, -, start, world, heq⟩ :=
      (run_visitIn _ hvisit).nested hinner
    exact ⟨nested, start, world, heq⟩
  | deeper hvisit hmiddle _ ih =>
    rintro graph ctx world rfl
    obtain ⟨nested, -, start, world, heq⟩ :=
      (run_visitIn _ hvisit).nested hmiddle
    exact ih nested start world heq

/-! ## Checking the runs inside a log -/

/-- `check` holds of a log and of all logs inside it, which are at most so many
levels deep. -/
def checkLogs (check : RunLog Call → Bool) : ℕ → RunLog Call → Bool
  | 0, log => check log && log.visits.all fun visit => visit.nested.isEmpty
  | levels + 1, log =>
    check log && log.visits.all fun visit => visit.nested.all (checkLogs check levels)

theorem checkLogs_self {levels : ℕ} {log : RunLog Call} (hcheck : checkLogs check levels log = true)
    : check log = true := by
  cases levels <;> exact (Bool.and_eq_true_iff.mp hcheck).1

theorem checkLogs_nested {inner outer : RunLog Call} (hnested : NestedIn inner outer) :
    ∀ levels, checkLogs check levels outer = true → check inner = true := by
  have hinside : ∀ levels (log middle : RunLog Call) visit, visit ∈ log.visits →
      middle ∈ visit.nested → checkLogs check levels log = true →
      ∃ fewer, checkLogs check fewer middle = true := by
    intro levels log middle visit hvisit hmiddle hcheck
    cases levels with
    | zero =>
      have hnone := List.all_eq_true.mp (Bool.and_eq_true_iff.mp hcheck).2 visit hvisit
      rw [List.isEmpty_iff.mp hnone] at hmiddle
      cases hmiddle
    | succ levels =>
      have hall := List.all_eq_true.mp (Bool.and_eq_true_iff.mp hcheck).2 visit hvisit
      exact ⟨levels, List.all_eq_true.mp hall middle hmiddle⟩
  induction hnested with
  | direct hvisit hinner =>
    intro levels hcheck
    obtain ⟨fewer, hfewer⟩ := hinside levels _ _ _ hvisit hinner hcheck
    exact checkLogs_self hfewer
  | deeper hvisit hmiddle _ ih =>
    intro levels hcheck
    obtain ⟨fewer, hfewer⟩ := hinside levels _ _ _ hvisit hmiddle hcheck
    exact ih fewer hfewer

theorem checkLogs_all {levels : ℕ} {log : RunLog Call} (hcheck : checkLogs check levels log = true)
    :
    ∀ inner, inner = log ∨ NestedIn inner log → check inner = true := by
  rintro inner (rfl | hnested)
  · exact checkLogs_self hcheck
  · exact checkLogs_nested hnested levels hcheck

end SignPulse.RunLogs
