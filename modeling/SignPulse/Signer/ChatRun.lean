import SignPulse.Flow.WorldLaws
import SignPulse.Flow.ExecutorReceipts

/-!
# The flow of a chat

`_run_pulseflow_chat` of `signer_runner.py`: the graph of a chat is run until a
run succeeds or no other may follow.  Between the runs the signer decides by the
exception that it keeps and by the flag `pulseflow_side_effect_started` of its
context, which the executor sets from the receipts.
-/

namespace SignPulse.ChatRun

open Foundation
open FlowModels
open FlowContext
open RunEnvironment
open FlowEngine
open TelegramExecutor
open ExecutorReceipts
open WorldLaws

variable {W : Type}

/-- The fields of `SignChatV3` that its run reads, and what its compilation gives. -/
structure Chat where
  chatId : ChatId
  messageThreadId : Option ℤ := none
  compiled : Except PyError ExecutionGraph

/-- The signer around the runs of its chats. -/
structure Signer (W : Type) where
  runner : Runner W
  account : String := ""
  /-- `task_retry_count_var`. -/
  taskRetryCount : ℤ := 0
  /-- `SIGN_TASK_FLOW_RETRY_ATTEMPTS`, one where it is not set. -/
  flowRetryAttempts : ℤ := 1
  /-- The action that an execution of the node has stored with it. -/
  builtAction : Node → RunnerWorld W → Option SignAction
  /-- The text of the action of a node, or of its params. -/
  actionText : Node → RunnerWorld W → String
  /-- `stop_after_current_action`. -/
  stopRequested : RunnerWorld W → Bool
  clearStop : RunnerWorld W → RunnerWorld W
  /-- `_reset_v4_legacy_context`. -/
  resetLegacyContext : RunnerWorld W → RunnerWorld W
  /-- Copying a result to the context and to the log. -/
  bookkeep : FlowResult → RunnerWorld W → Except PyError Unit × RunnerWorld W
  /-- `_drain_event_publish_tasks`. -/
  drain : RunnerWorld W → Exit Unit × RunnerWorld W

/-- Code that may set the flag of the context and never clears it. -/
def keepFlag (before after : RunnerWorld W) : RunnerWorld W :=
  { after with contextSideEffect := before.contextSideEffect || after.contextSideEffect }

def keeping {α : Type} (act : RunnerWorld W → α × RunnerWorld W) (world : RunnerWorld W) :
    α × RunnerWorld W :=
  ((act world).1, keepFlag world (act world).2)

/-- `err_detail`. -/
def errDetail (result : FlowResult) : String :=
  pyOrElse (result.failure.map Failure.error)
    s!"steps={result.steps}, path={pyReprList result.path}"

/-- The exception made of a result that is no success. -/
def failureError (result : FlowResult) : PyError :=
  match result.failure.bind Failure.failureCode with
  | some "semantic_review_required" =>
    { name := "SemanticReviewRequired"
      message := errDetail result
      nonRetryable := true
      failureCode := some "semantic_review_required"
      semanticDisposition := some "review" }
  | some "semantic_stop_requested" =>
    { name := "SemanticStopRequested"
      message := errDetail result
      nonRetryable := true
      failureCode := some "semantic_stop_requested"
      semanticDisposition := some "stop" }
  | _ =>
    { name := "RuntimeError"
      message := s!"PulseFlow 执行失败（工作流节点执行失败）: {errDetail result}"
      nonRetryable := result.failure.any Failure.nonRetryable }

/-! ## The executor of the signer -/

/-- `TelegramNodeExecutor.__call__` around another `_call_unlocked`. -/
def callWith (runner : Runner W) (unlocked : CallState W → CallReply W) (node : Node)
    (ctx : ScopedFlowContext) (world : RunnerWorld W) :
    ExecutorReply (RunnerWorld W) ActionRun :=
  let operationId := operationIdOf ctx node.id
  let previousSideEffect := runner.contextFlag world
  let reply := unlocked (openCall runner node ctx world)
  let legacyMark := runner.contextFlag reply.state.world
  let (exit, receiptState) := closeCall reply.exit legacyMark reply.state.receiptState
  { exit
    ctx := closeReceipt reply.state.ctx operationId node.id receiptState
    world :=
      runner.setContextFlag (previousSideEffect || legacyMark || receiptState != .notStarted)
        reply.state.world
    calls :=
      [{ nodeId := node.id, operationId, runnerCalls := reply.state.calls,
         receiptState }] }

namespace Signer

def chatRunner (signer : Signer W) : Runner W :=
  { signer.runner with hasContext := true }

/-- `metadata.get("raw_action")`. -/
def storedAction (signer : Signer W) (node : Node) (world : RunnerWorld W) : Option SignAction :=
  match node.kind with
  | .action (some rawAction) => some rawAction
  | _ => signer.builtAction node world

/-- `explicit_successor`: the next node is one that holds no action. -/
def explicitSuccessor (signer : Signer W) (graph : ExecutionGraph) (node : Node)
    (world : RunnerWorld W) : Bool :=
  match node.nextNodeId with
  | some nextId =>
    nextId != "" && (Dict.getItem graph.nodes nextId).any fun next =>
        (signer.storedAction next world).isNone
  | none => false

/-- `explicit_stop`. -/
def explicitStop (signer : Signer W) (node : Node) (world : RunnerWorld W) : Bool :=
  (signer.storedAction node world).any SignAction.stopFlowOnTerminal

/-- What `_CutoverNodeExecutor` makes of the outcome of an action. -/
def cutoverOutcome (signer : Signer W) (graph : ExecutionGraph) (node : Node)
    (outcome : StepOutcome) (world : RunnerWorld W) : StepOutcome × RunnerWorld W :=
  let outcome :=
    if outcome.outputText != "" then outcome
    else { outcome with outputText := signer.actionText node world }
  let stopSignal := signer.stopRequested world || outcome.matchedTerminal
  if signer.explicitSuccessor graph node world && !signer.explicitStop node world then
    (outcome, signer.clearStop world)
  else if stopSignal then
    ({ outcome with
        signal :=
          match outcome.status with
          | .success | .terminalEarly | .skipped => .haltSuccess
          | _ => .haltFail },
      signer.clearStop world)
  else (outcome, world)

/-- `_CutoverNodeExecutor._call_unlocked`. -/
def cutoverUnlocked (signer : Signer W) (graph : ExecutionGraph) (node : Node)
    (state : CallState W) : CallReply W :=
  let reply := callUnlocked signer.chatRunner node state
  match reply.exit with
  | .returned outcome =>
    let (outcome, world) := signer.cutoverOutcome graph node outcome reply.state.world
    { exit := .returned outcome, state := { reply.state with world } }
  | .raised error => { exit := .raised error, state := reply.state }
  | .cancelled level => { exit := .cancelled level, state := reply.state }

def chatEnv (signer : Signer W) (env : Env (RunnerWorld W) ActionRun)
    (graph : ExecutionGraph) : Env (RunnerWorld W) ActionRun :=
  { env with
    executor := fun node =>
      callWith signer.chatRunner (signer.cutoverUnlocked graph node) node
    pause := keeping env.pause
    deliveries := fun node ctx => keeping (env.deliveries node ctx)
    assess := fun node text => keeping (env.assess node text) }

/-! ## The loop -/

/-- `max_flow_attempts`. -/
def maxFlowAttempts (signer : Signer W) : ℕ :=
  (max 1
    (if signer.taskRetryCount != 0 then signer.taskRetryCount
      else signer.flowRetryAttempts)).toNat

/-- The context that every attempt starts with. -/
def flowContext (signer : Signer W) (chat : Chat) : ScopedFlowContext where
  system := { chatId := some chat.chatId, messageThreadId := chat.messageThreadId }
  account := [("name", .str signer.account)]

/-- What follows a run that returned, inside the `try`. -/
def takeResult (signer : Signer W) (result : FlowResult) (world : RunnerWorld W) :
    Exit Unit × RunnerWorld W :=
  match keeping (signer.bookkeep result) world with
  | (.error error, world) => (.raised error, world)
  | (.ok (), world) =>
    if result.success then keeping signer.drain world
    else (.raised (failureError result), world)

/-- How one pass through the loop ends, with the log of its run. -/
structure FlowAttempt (W : Type) where
  exit : Exit Unit
  world : RunnerWorld W
  log : RunLog ActionRun

/-- One pass through the loop up to its `except`. -/
def attemptFlow (signer : Signer W) (env : Env (RunnerWorld W) ActionRun) (chat : Chat)
    (graph : ExecutionGraph) (world : RunnerWorld W) : FlowAttempt W :=
  let start := keepFlag world (signer.resetLegacyContext world)
  let reply := FlowEngine.run (signer.chatEnv env graph) graph (signer.flowContext chat) start
  match reply.exit with
  | .cancelled level =>
    { exit := .cancelled level, world := reply.world, log := reply.log }
  | .raised error => { exit := .raised error, world := reply.world, log := reply.log }
  | .returned result =>
    let (exit, world) := signer.takeResult result reply.world
    { exit, world, log := reply.log }

end Signer

/-- How the run of a chat ends, with the logs of its attempts. -/
structure ChatReply (W : Type) where
  exit : Exit Unit
  world : RunnerWorld W
  attempts : List (RunLog ActionRun)

/-- The exception that leaves `_run_pulseflow_chat`. -/
def raisedError (lastError : PyError) : PyError :=
  if lastError.name == "FlowLoopLimitExceededError" ||
      lastError.name == "WorkflowLoopExceededError" then
    { name := "WorkflowLoopExceededError", message := lastError.message }
  else lastError

def noResultError : PyError where
  name := "RuntimeError"
  message := "PulseFlow 执行失败（工作流节点执行失败）：没有得到执行结果"

namespace Signer

/-- What follows the loop if no attempt succeeded. -/
def giveUpFlow (signer : Signer W) (lastError : PyError) (world : RunnerWorld W) :
    Exit Unit × RunnerWorld W :=
  match keeping signer.drain world with
  | (.returned (), world) => (.raised (raisedError lastError), world)
  | (.raised error, world) => (.raised error, world)
  | (.cancelled level, world) => (.cancelled level, world)

/-- The loop over the attempts, given how many are left. -/
def flowLoop (signer : Signer W) (env : Env (RunnerWorld W) ActionRun) (chat : Chat)
    (graph : ExecutionGraph) : ℕ → RunnerWorld W → ChatReply W
  | 0, world => { exit := .raised noResultError, world, attempts := [] }
  | remaining + 1, world =>
    let attempt := signer.attemptFlow env chat graph world
    match attempt.exit with
    | .returned () =>
      { exit := .returned (), world := attempt.world, attempts := [attempt.log] }
    | .cancelled level =>
      { exit := .cancelled level, world := attempt.world, attempts := [attempt.log] }
    | .raised lastError =>
      if lastError.nonRetryable || remaining == 0 || attempt.world.contextSideEffect then
        let (exit, world) := signer.giveUpFlow lastError attempt.world
        { exit, world, attempts := [attempt.log] }
      else
        let reply := flowLoop signer env chat graph remaining attempt.world
        { reply with attempts := attempt.log :: reply.attempts }

/-- `_run_pulseflow_chat`. -/
def runPulseflowChat (signer : Signer W) (env : Env (RunnerWorld W) ActionRun)
    (chat : Chat) (world : RunnerWorld W) : ChatReply W :=
  let world := { world with contextSideEffect := false }
  match chat.compiled with
  | .error error => { exit := .raised error, world, attempts := [] }
  | .ok graph => signer.flowLoop env chat graph signer.maxFlowAttempts world

end Signer

/-! ## The flag is evidence of the receipts -/

/-- The flag of the context. -/
def SideEffectStarted (world : RunnerWorld W) : Prop :=
  world.contextSideEffect = true

/-- The call left its receipt in another state than it began with. -/
def Touched (run : ActionRun) : Prop :=
  run.receiptState ≠ .notStarted

/-- No call in a run left its receipt anywhere but at NOT_STARTED. -/
def Untouched (log : RunLog ActionRun) : Prop :=
  ∀ run, CalledIn run log → run.receiptState = .notStarted

theorem sideEffectStarted_keeping {α : Type} (act : RunnerWorld W → α × RunnerWorld W)
    {world : RunnerWorld W} (hstarted : SideEffectStarted world) :
    SideEffectStarted (keeping act world).2 := by
  have hstarted : world.contextSideEffect = true := hstarted
  simp [SideEffectStarted, keeping, keepFlag, hstarted]

section Executor

variable {runner : Runner W} {unlocked : CallState W → CallReply W} {node : Node}
  {ctx : ScopedFlowContext} {world : RunnerWorld W}

theorem callWith_lasts (hcontext : runner.hasContext = true) (hstarted : SideEffectStarted world) :
    SideEffectStarted (callWith runner unlocked node ctx world).world := by
  have hstarted : world.contextSideEffect = true := hstarted
  simp [SideEffectStarted, callWith, Runner.setContextFlag, Runner.contextFlag, hcontext, hstarted]

/-- The `finally` of `__call__`: a receipt that has moved sets the flag. -/
theorem callWith_shown (hcontext : runner.hasContext = true) {run : ActionRun}
    (hrun : run ∈ (callWith runner unlocked node ctx world).calls) (htouched : Touched run) :
    SideEffectStarted (callWith runner unlocked node ctx world).world := by
  have hstate : run.receiptState =
      (closeCall (unlocked (openCall runner node ctx world)).exit
        (runner.contextFlag (unlocked (openCall runner node ctx world)).state.world)
        (unlocked (openCall runner node ctx world)).state.receiptState).2 := by
    rw [List.mem_singleton.mp hrun]
    rfl
  have hmoved : run.receiptState ≠ .notStarted := htouched
  rw [hstate] at hmoved
  simp [SideEffectStarted, callWith, Runner.setContextFlag, hcontext, hmoved]

end Executor

namespace Signer

variable (signer : Signer W) (env : Env (RunnerWorld W) ActionRun) (chat : Chat)
  (graph : ExecutionGraph)

theorem chatEnv_marks : Marks (signer.chatEnv env graph) SideEffectStarted Touched where
  executor := fun _ _ _ => callWith_lasts rfl
  shown := fun _ _ _ _ => callWith_shown rfl
  pause := fun _ => sideEffectStarted_keeping env.pause
  deliveries := fun node ctx _ => sideEffectStarted_keeping (env.deliveries node ctx)
  assess := fun node text _ => sideEffectStarted_keeping (env.assess node text)

theorem takeResult_lasts (result : FlowResult) {world : RunnerWorld W}
    (hstarted : SideEffectStarted world) :
    SideEffectStarted (signer.takeResult result world).2 := by
  have hbooked := sideEffectStarted_keeping (signer.bookkeep result) hstarted
  unfold takeResult
  split
  · next hraised =>
    rw [hraised] at hbooked
    exact hbooked
  · next after hdone =>
    rw [hdone] at hbooked
    split
    · exact sideEffectStarted_keeping signer.drain hbooked
    · exact hbooked

theorem attemptFlow_shown (world : RunnerWorld W) {run : ActionRun}
    (hcalled : CalledIn run (signer.attemptFlow env chat graph world).log)
    (htouched : Touched run) :
    SideEffectStarted (signer.attemptFlow env chat graph world).world := by
  have hmarked := run_marked (signer.chatEnv_marks env graph) graph (signer.flowContext chat)
    (keepFlag world (signer.resetLegacyContext world))
  simp only [attemptFlow] at hcalled ⊢
  split at hcalled
  · exact hmarked.shown run hcalled htouched
  · exact hmarked.shown run hcalled htouched
  · exact signer.takeResult_lasts _ (hmarked.shown run hcalled htouched)

theorem attemptFlow_untouched {world : RunnerWorld W}
    (hclear : (signer.attemptFlow env chat graph world).world.contextSideEffect = false) :
    Untouched (signer.attemptFlow env chat graph world).log := by
  intro run hcalled
  by_contra htouched
  have hstarted : (signer.attemptFlow env chat graph world).world.contextSideEffect = true :=
    signer.attemptFlow_shown env chat graph world hcalled htouched
  rw [hclear] at hstarted
  cases hstarted

/-- Where the loop goes on after an attempt, its error may be retried and the flag
is clear. -/
theorem flowLoop_attempts (remaining : ℕ) (world : RunnerWorld W) :
    let attempt := signer.attemptFlow env chat graph world
    let logs := (signer.flowLoop env chat graph (remaining + 1) world).attempts
    logs = [attempt.log] ∨ attempt.world.contextSideEffect = false ∧ logs = attempt.log ::
          (signer.flowLoop env chat graph remaining attempt.world).attempts := by
  intro attempt logs
  simp only [logs, flowLoop]
  split
  · exact Or.inl rfl
  · exact Or.inl rfl
  · next lastError _ =>
    by_cases hstop : (lastError.nonRetryable || remaining == 0 ||
        attempt.world.contextSideEffect) = true
    · rw [if_pos hstop]
      exact Or.inl rfl
    · rw [if_neg hstop]
      simp only [Bool.or_eq_true, not_or, Bool.not_eq_true] at hstop
      exact Or.inr ⟨hstop.2, rfl⟩

theorem flowLoop_untouched :
    ∀ (attempts : ℕ) (world : RunnerWorld W) (earlier later : List (RunLog ActionRun))
      (next : RunLog ActionRun),
      (signer.flowLoop env chat graph attempts world).attempts = earlier ++ next :: later →
        ∀ log ∈ earlier, Untouched log := by
  intro attempts
  induction attempts with
  | zero =>
    intro world earlier later next hattempts
    simp [flowLoop] at hattempts
  | succ remaining ih =>
    intro world earlier later next hattempts log hlog
    cases earlier with
    | nil => cases hlog
    | cons first rest =>
      rw [List.cons_append] at hattempts
      rcases signer.flowLoop_attempts env chat graph remaining world with
        hlast | ⟨hclear, hagain⟩
      · rw [hattempts] at hlast
        simp at hlast
      · rw [hattempts] at hagain
        obtain ⟨rfl, hrest⟩ := List.cons.inj hagain
        rcases List.mem_cons.mp hlog with rfl | hlater
        · exact signer.attemptFlow_untouched env chat graph hclear
        · exact ih _ rest later next hrest.symm log hlater

end Signer

/-- Another attempt of a chat's flow starts only if every call of the earlier
attempts, at whatever depth, left its receipt at NOT_STARTED. -/
theorem retried_only_untouched (signer : Signer W) (env : Env (RunnerWorld W) ActionRun)
    (chat : Chat) (world : RunnerWorld W) {earlier later : List (RunLog ActionRun)}
    {next : RunLog ActionRun}
    (hattempts : (signer.runPulseflowChat env chat world).attempts = earlier ++ next :: later) :
    ∀ log ∈ earlier, Untouched log := by
  simp only [Signer.runPulseflowChat] at hattempts
  split at hattempts
  · simp at hattempts
  · exact signer.flowLoop_untouched env chat _ _ _ earlier later next hattempts

/-- A signer that may run a flow twice, whose runner answers from a script. -/
def Signer.scripted : Signer (List (Bool × Exit RunnerResult)) where
  runner := Runner.scripted
  taskRetryCount := 2
  builtAction _ _ := none
  actionText _ _ := ""
  stopRequested _ := false
  clearStop := id
  resetLegacyContext := id
  bookkeep _ world := (.ok (), world)
  drain world := (.returned (), world)

def checkinAttempts (answers : List (Bool × Exit RunnerResult)) : List (RunLog ActionRun) :=
  (Signer.scripted.runPulseflowChat scriptedEnv
    { chatId := .number 1, compiled := .ok checkinGraph } { runner := answers }).attempts

/-- The connection is lost before the operation begins, and the flow is run again. -/
theorem lost_connection_retried :
    ∃ first second, checkinAttempts [(false, .raised connectionLost), (true, .returned {})] =
        [first, second] ∧
      (∃ run, CalledIn run first) ∧ Untouched first := by
  have hlength : (checkinAttempts
      [(false, .raised connectionLost), (true, .returned {})]).length = 2 := by
    decide
  have hcalls : ((checkinAttempts
      [(false, .raised connectionLost), (true, .returned {})]).head?.any fun log =>
        log.visits.any fun visit => visit.attempts.any fun attempt =>
          !attempt.calls.isEmpty) = true := by
    decide
  obtain ⟨first, second, hattempts⟩ := List.length_eq_two.mp hlength
  refine ⟨first, second, hattempts, ?_, ?_⟩
  · rw [hattempts] at hcalls
    simp only [List.head?_cons, Option.any_some, List.any_eq_true, Bool.not_eq_true',
      List.isEmpty_eq_false_iff_exists_mem] at hcalls
    obtain ⟨visit, hvisit, attempt, hattempt, run, hrun⟩ := hcalls
    exact ⟨run, .own hvisit hattempt hrun⟩
  · have hsplit : checkinAttempts [(false, .raised connectionLost), (true, .returned {})] =
        [first] ++ second :: [] := hattempts
    exact retried_only_untouched Signer.scripted scriptedEnv _ _ hsplit first List.mem_cons_self

/-- Where the operation had begun, the flow is not run again. -/
example : (checkinAttempts [(true, .raised connectionLost), (true, .returned {})]).length = 1 := by
  decide

end SignPulse.ChatRun
