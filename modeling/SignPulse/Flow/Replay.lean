import SignPulse.Flow.ExecutorReceipts

/-!
# Replays

Whether an action whose receipt has left NOT_STARTED can reach the runner
again: by the executor's own fallback and retry, or by another attempt at its
node or at a node around it.  The executor answers for the exceptions it sees
with a final error; a time limit around it, and an exception of the run around
it, carry nothing of the receipt.
-/

namespace SignPulse.Replay

open Foundation
open FlowModels
open FlowContext
open RunEnvironment
open NodeRuns
open FlowEngine
open EngineLaws
open NodeLaws
open RunLogs
open TelegramExecutor
open ExecutorReceipts

variable {W : Type}

/-! ## Inside one call of the executor -/

/-- The runner was called only while the receipt stood at NOT_STARTED. -/
def CallsOnce (calls : List RunnerCall) : Prop :=
  ∀ call ∈ calls, call.before = .notStarted

def raisesTypeError (call : RunnerCall) : Bool :=
  match call.exit with
  | .raised error => error.isTypeError
  | _ => false

/-- A call that is made without a timeout and raises a `TypeError` has not
moved the receipt. -/
def FallsBackClean (calls : List RunnerCall) : Prop :=
  ∀ call ∈ calls, call.form = .withNextAction → raisesTypeError call = true →
    call.after = .notStarted

theorem invoke_calls (runner : Runner W) (node : Node) (form : CallForm) (state : CallState W) :
    ∃ call, (invoke runner node form state).2.calls = state.calls ++ [call] ∧
      call.form = form ∧ call.before = state.receiptState ∧
      call.after = (invoke runner node form state).2.receiptState ∧
      call.exit = (invoke runner node form state).1 :=
  ⟨_, rfl, rfl, rfl, rfl, rfl⟩

section Calling

variable {runner : Runner W} {node : Node}

def Clean (state : CallState W) : Prop :=
  FallsBackClean state.calls → CallsOnce state.calls

theorem callsOnce_concat {calls : List RunnerCall} {call : RunnerCall}
    (hcalls : CallsOnce calls) (hcall : call.before = .notStarted) :
    CallsOnce (calls ++ [call]) := by
  intro other hother
  rcases List.mem_append.mp hother with hbefore | hlast
  · exact hcalls other hbefore
  · rwa [List.mem_singleton.mp hlast]

theorem FallsBackClean.left {calls more : List RunnerCall}
    (hclean : FallsBackClean (calls ++ more)) : FallsBackClean calls :=
  fun call hcall => hclean call (List.mem_append_left _ hcall)

variable {state : CallState W}

theorem invoke_clean {form : CallForm} (hclean : Clean state)
    (hidle : FallsBackClean (invoke runner node form state).2.calls →
      state.receiptState = .notStarted) :
    Clean (invoke runner node form state).2 := by
  intro hfalls
  have hstate := hidle hfalls
  obtain ⟨call, hcalls, -, hbefore, -⟩ :=
    invoke_calls runner node form state
  rw [hcalls] at hfalls ⊢
  exact callsOnce_concat (hclean hfalls.left) (hbefore.trans hstate)

theorem runnerWaitFor_clean (hclean : Clean state) (hidle : state.receiptState = .notStarted) :
    Clean (runnerWaitFor runner node state).2 := by
  unfold runnerWaitFor
  split
  · exact invoke_clean hclean fun _ => hidle
  · have hfirst : Clean (invoke runner node .withNextAction state).2 :=
      invoke_clean hclean fun _ => hidle
    obtain ⟨call, hcalls, hform, -, hafter, hexit⟩ :=
      invoke_calls runner node .withNextAction state
    split
    · next error after hcall =>
      rw [hcall] at hfirst hcalls hafter hexit
      split
      · next htype =>
        refine invoke_clean hfirst fun hfalls => ?_
        obtain ⟨again, hagain, -⟩ :=
          invoke_calls runner node .bare after
        rw [hagain] at hfalls
        have hmem : call ∈ after.calls := by
          rw [hcalls]
          exact List.mem_append_right _ (List.mem_singleton.mpr rfl)
        rw [← hafter]
        exact hfalls.left call hmem hform (by simp [raisesTypeError, hexit, htype])
      · exact hfirst
    · exact hfirst

theorem giveUp_calls (original current : PyError) (state : CallState W) :
    (giveUp runner node original current state).state = state := by
  unfold giveUp
  split <;> rfl

theorem retryOnce_clean (original : PyError) (hclean : Clean state)
    (hidle : state.receiptState = .notStarted) :
    Clean (retryOnce runner node original state).state := by
  unfold retryOnce
  split
  · exact hclean
  · exact hclean
  · next world _ =>
    have hcalled : Clean (runnerWaitFor runner node { state with world }).2 :=
      runnerWaitFor_clean hclean hidle
    split
    · next level after hcall =>
      rw [hcall] at hcalled
      exact hcalled
    · next error after hcall =>
      rw [hcall] at hcalled
      rw [giveUp_calls]
      exact hcalled
    · next result after hcall =>
      rw [hcall] at hcalled
      dsimp only
      split
      · rw [giveUp_calls]
        exact hcalled
      · split
        · rw [giveUp_calls]
          exact hcalled
        · exact hcalled

theorem handleError_clean (error : PyError) (hclean : Clean state) :
    Clean (handleError runner node error state).state := by
  unfold handleError
  split
  · next hretry => exact retryOnce_clean error hclean (notStarted_of_retry hretry)
  · rw [giveUp_calls]
    exact hclean

theorem execute_clean (hclean : Clean state) (hidle : state.receiptState = .notStarted) :
    Clean (execute runner node state).state := by
  have hcalled : Clean (runnerWaitFor runner node (noteStart runner state)).2 :=
    runnerWaitFor_clean hclean hidle
  unfold execute
  split
  · next level after hcall =>
    rw [hcall] at hcalled
    exact hcalled
  · next error after hcall =>
    rw [hcall] at hcalled
    exact handleError_clean error hcalled
  · next result after hcall =>
    rw [hcall] at hcalled
    have hsent : ∀ world : RunnerWorld W, Clean { noteSent runner result after with world } := by
      intro world
      simp only [Clean]
      rw [noteSent_calls]
      exact hcalled
    dsimp only
    split
    · exact handleError_clean _ (hsent _)
    · exact hsent _

/-- The executor's fallback and its retry call the runner only while the
receipt stands at NOT_STARTED, a `TypeError` after the receipt was moved
apart. -/
theorem call_clean (ctx : ScopedFlowContext) (world : RunnerWorld W) :
    ∀ run ∈ (call runner node ctx world).calls,
      FallsBackClean run.runnerCalls → CallsOnce run.runnerCalls := by
  intro run hrun
  have hopen : Clean (openCall runner node ctx world) := by
    intro _ call hcall
    cases hcall
  have hunlocked : Clean (callUnlocked runner node (openCall runner node ctx world)).state := by
    unfold callUnlocked
    split
    · exact hopen
    · split
      · exact hopen
      · exact hopen
      · exact execute_clean hopen rfl
  unfold call at hrun
  rw [List.mem_singleton.mp hrun]
  exact hunlocked

end Calling

/-! ## What the engine sees of it -/

section Seen

variable {runner : Runner W} {node : Node}

variable {state : CallState W} {outcome : StepOutcome}

theorem giveUp_signal {original current : PyError}
    (hexit : (giveUp runner node original current state).exit = .returned outcome) :
    outcome.signal = .proceed := by
  unfold giveUp at hexit
  split at hexit <;> cases hexit
  rfl

theorem retryOnce_signal {original : PyError}
    (hexit : (retryOnce runner node original state).exit = .returned outcome) :
    outcome.signal = .proceed := by
  unfold retryOnce at hexit
  split at hexit
  · cases hexit
  · cases hexit
  · split at hexit
    · cases hexit
    · exact giveUp_signal hexit
    · dsimp only at hexit
      split at hexit
      · exact giveUp_signal hexit
      · split at hexit
        · exact giveUp_signal hexit
        · cases hexit
          rfl

theorem handleError_signal {error : PyError}
    (hexit : (handleError runner node error state).exit = .returned outcome) :
    outcome.signal = .proceed := by
  unfold handleError at hexit
  split at hexit
  · exact retryOnce_signal hexit
  · exact giveUp_signal hexit

theorem execute_signal (hexit : (execute runner node state).exit = .returned outcome) :
    outcome.signal = .proceed := by
  unfold execute at hexit
  split at hexit
  · cases hexit
  · exact handleError_signal hexit
  · dsimp only at hexit
    split at hexit
    · exact handleError_signal hexit
    · rw [← Exit.returned.inj hexit]
      split
      · unfold failedResult
        split <;> rfl
      · rfl

/-- The executor never asks for another attempt. -/
theorem call_signal {ctx : ScopedFlowContext} {world : RunnerWorld W}
    (hexit : (call runner node ctx world).exit = .returned outcome) :
    outcome.signal = .proceed := by
  have hunlocked : (callUnlocked runner node (openCall runner node ctx world)).exit =
      .returned outcome := by
    simp only [call, closeCall] at hexit
    split at hexit
    · next hreply => exact hreply.trans hexit
    · cases hexit
    · split at hexit <;> cases hexit
  unfold callUnlocked at hunlocked
  split at hunlocked
  · cases hunlocked
    rfl
  · split at hunlocked
    · cases hunlocked
    · cases hunlocked
    · exact execute_signal hunlocked

theorem call_raised {ctx : ScopedFlowContext} {world : RunnerWorld W} {run : ActionRun}
    {error : PyError} (hrun : run ∈ (call runner node ctx world).calls)
    (hmoved : run.receiptState ≠ .notStarted)
    (hexit : (call runner node ctx world).exit = .raised error) :
    error.nonRetryable = true := by
  unfold call at hrun hexit
  rw [List.mem_singleton.mp hrun] at hmoved
  simp only [closeCall] at hmoved hexit
  split at hexit
  · cases hexit
  · cases hexit
  · next original hreply =>
    simp only [hreply] at hmoved
    split at hexit
    · rw [← Exit.raised.inj hexit]
      rfl
    · next hstays =>
      simp only [hstays, Bool.false_eq_true, if_false] at hmoved
      simp only [Bool.or_eq_true, bne_iff_ne, not_or, not_not] at hstays
      exact absurd hstays.2 hmoved

end Seen

/-! ## Attempts around a moved receipt -/

/-- A call of the executor made in an attempt, by the node itself or by a node
of a run inside it. -/
inductive ActsIn (run : ActionRun) : Attempt ActionRun (RunLog ActionRun) → Prop where
  | own {attempt : Attempt ActionRun (RunLog ActionRun)} (hrun : run ∈ attempt.calls) :
      ActsIn run attempt
  | inside {attempt below : Attempt ActionRun (RunLog ActionRun)}
      {inner : RunLog ActionRun} {visit : Visit ActionRun (RunLog ActionRun)}
      (hinner : inner ∈ attempt.nested) (hvisit : visit ∈ inner.visits)
      (hbelow : below ∈ visit.attempts) (hacts : ActsIn run below) :
      ActsIn run attempt

/-- Some receipt left NOT_STARTED in the attempt. -/
def Moves (attempt : Attempt ActionRun (RunLog ActionRun)) : Prop :=
  ∃ run, ActsIn run attempt ∧ run.receiptState ≠ .notStarted

/-- Once an attempt has moved the receipt of an action, no later attempt of the
visit calls the runner for that action; and the executor itself calls the
runner only while the receipt stands at NOT_STARTED. -/
structure ReplaysNothing (visit : Visit ActionRun (RunLog ActionRun)) : Prop where
  attempts : ∀ before attempt after, visit.attempts = before ++ attempt :: after →
    ∀ run, ActsIn run attempt → run.receiptState ≠ .notStarted →
      ∀ later ∈ after, ∀ again, ActsIn again later → again.nodeId = run.nodeId →
        again.runnerCalls = []
  calls : ∀ attempt ∈ visit.attempts, ∀ run ∈ attempt.calls, CallsOnce run.runnerCalls

def NoReplay (log : RunLog ActionRun) : Prop :=
  ∀ inner, inner = log ∨ NestedIn inner log → ∀ visit ∈ inner.visits, ReplaysNothing visit

/-- The executor does the work of the node. -/
def isExecuted (node : Node) : Bool :=
  match node.kind with
  | .action _ => true
  | .base => true
  | _ => false

/-- The ways to end an attempt that say nothing of the receipts moved in it: its
own time limit, and an exception of a nested run or of a wait. -/
def endsOpen (node : Node) (attempt : Attempt ActionRun (RunLog ActionRun)) : Bool :=
  match attempt.exit with
  | .cancelled 0 => true
  | .raised _ => !isExecuted node
  | _ => false

/-- No attempt that moved a receipt ends so with another attempt to follow, and
no `TypeError` makes the executor call the runner again after the receipt was
moved. -/
structure Guarded (visit : Visit ActionRun (RunLog ActionRun)) : Prop where
  attempts : ∀ attempt ∈ visit.attempts.take (visit.node.retryPolicy.maxAttempts.toNat - 1),
    Moves attempt → endsOpen visit.node attempt = true →
      letsRetry visit.node.retryPolicy attempt = false
  calls : ∀ attempt ∈ visit.attempts, ∀ run ∈ attempt.calls, FallsBackClean run.runnerCalls

section Engine

variable {env : Env (RunnerWorld W) ActionRun} {runner : Runner W}

theorem telegram_settles : ExecutorSettles (telegramEnv env runner) := by
  intro node ctx world outcome hexit
  rw [call_signal hexit]
  decide

section

variable {graph : ExecutionGraph} {node : Node} {ctx : ScopedFlowContext} {world : RunnerWorld W}

theorem executed_raised {error : PyError} (hexecuted : isExecuted node = true)
    (hmoves : Moves (executeNode (telegramEnv env runner) (FlowEngine.run
      (telegramEnv env runner)) graph node ctx world).attempt)
    (hexit : (executeNode (telegramEnv env runner) (FlowEngine.run
      (telegramEnv env runner)) graph node ctx world).exit = .raised error) :
    error.nonRetryable = true := by
  obtain ⟨run, hacts, hmoved⟩ := hmoves
  have hown : run ∈ (executeNode (telegramEnv env runner) (FlowEngine.run
      (telegramEnv env runner)) graph node ctx world).calls := by
    cases hacts with
    | own hrun => exact hrun
    | inside hinner =>
      obtain ⟨inner, hsub, -⟩ := executeNode_nested hinner
      cases hkind : node.kind <;> simp_all [isExecuted, subgraphs]
  cases hkind : node.kind with
  | action rawAction =>
    simp only [executeNode, hkind] at hown hexit
    exact call_raised hown hmoved hexit
  | base =>
    simp only [executeNode, hkind] at hown hexit
    exact call_raised hown hmoved hexit
  | _ => simp [isExecuted, hkind] at hexecuted

theorem endsOpen_of_letsRetry {policy : RetryPolicy}
    (hmoves : Moves (executeNode (telegramEnv env runner) (FlowEngine.run
      (telegramEnv env runner)) graph node ctx world).attempt)
    (hretry : letsRetry policy (executeNode (telegramEnv env runner) (FlowEngine.run
      (telegramEnv env runner)) graph node ctx world).attempt = true) :
    endsOpen node (executeNode (telegramEnv env runner) (FlowEngine.run
      (telegramEnv env runner)) graph node ctx world).attempt = true := by
  generalize hreply : executeNode (telegramEnv env runner) (FlowEngine.run
    (telegramEnv env runner)) graph node ctx world = reply at hretry ⊢
  unfold letsRetry at hretry
  unfold endsOpen
  change (match reply.exit with
    | .cancelled 0 => true
    | .raised _ => !isExecuted node
    | _ => false) = true
  have hattempt : reply.attempt.exit = reply.exit := rfl
  rw [hattempt] at hretry
  cases hexit : reply.exit with
  | cancelled level =>
    cases level with
    | zero => rfl
    | succ level => simp [hexit, expire] at hretry
  | returned outcome =>
    have hsignal := executeNode_signal telegram_settles (hreply ▸ hexit)
    simp [hexit, expire, hsignal] at hretry
  | raised error =>
    cases hexecuted : isExecuted node with
    | false => rfl
    | true =>
      have hfinal := executed_raised hexecuted hmoves (hreply ▸ hexit)
      simp [hexit, expire, stopsRetry, hfinal] at hretry

end

theorem replaysNothing_of_guarded {graph : ExecutionGraph}
    {visit : Visit ActionRun (RunLog ActionRun)}
    (hvisit : VisitIn (telegramEnv env runner) graph visit) (hguarded : Guarded visit) :
    ReplaysNothing visit where
  attempts := by
    intro before attempt after hsplit run hacts hmoved later hlater
    exfalso
    have hafter : after ≠ [] := List.ne_nil_of_mem hlater
    have hattempt : attempt ∈ visit.attempts := by
      rw [hsplit]
      exact List.mem_append_right _ List.mem_cons_self
    have hretry := hvisit.retried hsplit hafter
    have hlength := hvisit.attempts_length
    have htake : attempt ∈ visit.attempts.take (visit.node.retryPolicy.maxAttempts.toNat - 1) := by
      have hshort : before.length + 1 ≤ visit.node.retryPolicy.maxAttempts.toNat - 1 := by
        have := List.length_pos_iff.mpr hafter
        rw [hsplit] at hlength
        simp only [List.length_append, List.length_cons] at hlength
        omega
      have hfirst : attempt ∈ visit.attempts.take (before.length + 1) := by
        rw [hsplit, List.take_length_add_append]
        exact List.mem_append_right _ List.mem_cons_self
      exact List.take_subset_take_left _ hshort hfirst
    have hmoves : Moves attempt := ⟨run, hacts, hmoved⟩
    obtain ⟨ctx, world, rfl⟩ := hvisit.attempt hattempt
    have hopen := endsOpen_of_letsRetry hmoves hretry
    rw [hguarded.attempts _ htake hmoves hopen] at hretry
    cases hretry
  calls := by
    intro attempt hattempt run hrun
    have hclean := hguarded.calls attempt hattempt run hrun
    obtain ⟨ctx, world, rfl⟩ := hvisit.attempt hattempt
    obtain ⟨node, start, begun, hmem⟩ := executeNode_calls run hrun
    exact call_clean start begun run hmem hclean

/-- In a run whose visits are guarded no action is replayed, at any depth. -/
theorem no_replay_of_guarded (env : Env (RunnerWorld W) ActionRun)
    (runner : Runner W) (graph : ExecutionGraph) (ctx : ScopedFlowContext)
    (world : RunnerWorld W)
    (hguarded : ∀ inner, inner = (FlowEngine.run (telegramEnv env runner) graph ctx world).log ∨
        NestedIn inner (FlowEngine.run (telegramEnv env runner) graph ctx world).log →
      ∀ visit ∈ inner.visits, Guarded visit) :
    NoReplay (FlowEngine.run (telegramEnv env runner) graph ctx world).log := by
  intro inner hinner visit hvisit
  have hguard := hguarded inner hinner visit hvisit
  rcases hinner with rfl | hnested
  · exact replaysNothing_of_guarded (run_visitIn visit hvisit) hguard
  · obtain ⟨nested, start, begun, rfl⟩ := nestedIn_run hnested graph ctx world rfl
    exact replaysNothing_of_guarded (run_visitIn visit hvisit) hguard

end Engine

/-! ## A time limit after the message was sent -/

/-- One action that may be tried twice. -/
def retriedGraph : ExecutionGraph where
  entryNodeId := "checkin"
  nodes := [("checkin", { id := "checkin", retryPolicy := { maxAttempts := 2 } })]

/-- An attempt moved the receipt of an action, and the next one called the
runner for the same action. -/
def replays (visit : Visit ActionRun (RunLog ActionRun)) : Bool :=
  match visit.attempts with
  | [first, second] =>
    first.calls.any fun run =>
      run.receiptState != .notStarted && second.calls.any fun again =>
          again.nodeId == run.nodeId && !again.runnerCalls.isEmpty
  | _ => false

/-- The time limit of the node expires after the message was sent, and the
message is sent again. -/
theorem timeout_replays : ¬ NoReplay
      (FlowEngine.run scriptedEnv retriedGraph {}
        { runner := [(true, .cancelled 0), (true, .returned {})] }).log := by
  intro hnone
  have hreplays : ((FlowEngine.run scriptedEnv retriedGraph {}
      { runner := [(true, .cancelled 0), (true, .returned {})] }).log.visits.any
        replays) = true := by
    decide
  obtain ⟨visit, hvisit, hreplay⟩ := List.any_eq_true.mp hreplays
  have hclean := (hnone _ (Or.inl rfl) visit hvisit).attempts
  unfold replays at hreplay
  split at hreplay
  · next first second hattempts =>
    obtain ⟨run, hrun, hagain⟩ := List.any_eq_true.mp hreplay
    obtain ⟨hmoved, hlater⟩ := Bool.and_eq_true_iff.mp hagain
    obtain ⟨again, hmem, hcalled⟩ := List.any_eq_true.mp hlater
    obtain ⟨hsame, hcalls⟩ := Bool.and_eq_true_iff.mp hcalled
    have hnocalls := hclean [] first [second] hattempts run (.own hrun)
      (by simpa using hmoved) second List.mem_cons_self again (.own hmem)
      (by simpa using hsame)
    simp [hnocalls] at hcalls
  · cases hreplay

/-- No attempt but the last ends open, and the runner raises no `TypeError`. -/
def plainly (visit : Visit ActionRun (RunLog ActionRun)) : Bool :=
  ((visit.attempts.take (visit.node.retryPolicy.maxAttempts.toNat - 1)).all
      fun attempt => !endsOpen visit.node attempt) &&
    visit.attempts.all fun attempt => attempt.calls.all fun run =>
      run.runnerCalls.all fun call => !raisesTypeError call

theorem guarded_of_plainly {visit : Visit ActionRun (RunLog ActionRun)}
    (hplain : plainly visit = true) : Guarded visit := by
  obtain ⟨hattempts, hcalls⟩ := Bool.and_eq_true_iff.mp hplain
  constructor
  · intro attempt hattempt _ hopen
    have hclosed := List.all_eq_true.mp hattempts attempt hattempt
    rw [hopen] at hclosed
    cases hclosed
  · intro attempt hattempt run hrun call hcall _ hraises
    have hquiet := List.all_eq_true.mp (List.all_eq_true.mp
      (List.all_eq_true.mp hcalls attempt hattempt) run hrun) call hcall
    rw [hraises] at hquiet
    cases hquiet

/-- The connection is lost after the message was sent: it is not sent again. -/
theorem lost_connection_not_replayed : NoReplay
      (FlowEngine.run scriptedEnv retriedGraph {}
        { runner := [(true, .raised connectionLost), (true, .returned {})] }).log := by
  refine no_replay_of_guarded _ _ _ _ _ fun inner hinner visit hvisit => ?_
  have hchecked : checkLogs (fun log => log.visits.all plainly) 0
      (FlowEngine.run scriptedEnv retriedGraph {}
        { runner := [(true, .raised connectionLost), (true, .returned {})] }).log = true := by
    decide
  exact guarded_of_plainly (List.all_eq_true.mp (checkLogs_all hchecked inner hinner) visit hvisit)

end SignPulse.Replay
