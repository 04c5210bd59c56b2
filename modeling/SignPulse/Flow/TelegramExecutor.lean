import SignPulse.Flow.RunEnvironment

/-!
# The Telegram executor

`TelegramNodeExecutor` of `flow_adapter.py`: the receipt that goes with each
call, the calls of the runner with their fallback and their one retry, and what
becomes of a failed answer.  Rendering, skip patterns, delays and the texts of
replies belong to the runner, which may answer as it likes.
-/

namespace SignPulse.TelegramExecutor

open Foundation
open FlowModels
open FlowContext
open RunEnvironment

/-- The three ways in which `_runner_wait_for` calls the runner. -/
inductive CallForm where
  | withTimeout | withNextAction | bare
  deriving DecidableEq, Repr

/-- What is looked at in the value that `runner.wait_for` returns: whether it is
`False`, and its `id` if that counts as true. -/
structure RunnerResult where
  isFalse : Bool := false
  messageId : Option ℤ := none
  deriving DecidableEq, Repr

/-- A call of `runner.wait_for`, with the state of the receipt before and
after it. -/
structure RunnerCall where
  form : CallForm
  before : OperationAttemptState
  after : OperationAttemptState
  exit : Exit RunnerResult

/-- One call of the executor, with the state in which it left its receipt. -/
structure ActionRun where
  nodeId : String
  operationId : String
  runnerCalls : List RunnerCall
  receiptState : OperationAttemptState

/-- The runner and the two `pulseflow_side_effect_started` flags, that of its
context and its own. -/
structure RunnerWorld (W : Type) where
  runner : W
  contextSideEffect : Bool := false
  runnerSideEffect : Bool := false

/-- An answer of `runner.wait_for`; `marks` where it called
`mark_operation_attempted` on the way. -/
structure RunnerAnswer (W : Type) where
  exit : Exit RunnerResult
  marks : Bool
  world : RunnerWorld W

structure Runner (W : Type) where
  /-- The runner has a context object. -/
  hasContext : Bool := true
  /-- `_runner_supports_timeout`. -/
  supportsTimeout : Bool := true
  /-- The action made of a node that stores none. -/
  buildAction : Node → SignAction
  /-- The pattern of `skip_if_matched`, where it matches. -/
  skipMatch : Node → ScopedFlowContext → RunnerWorld W → Option String
  /-- Rendering the action and waiting for its delay. -/
  prepare : Node → ScopedFlowContext → RunnerWorld W → Exit Unit × RunnerWorld W
  time : RunnerWorld W → ℚ
  waitFor : Node → ScopedFlowContext → CallForm → RunnerWorld W → RunnerAnswer W
  /-- Reading the stop signal and the output of an action. -/
  readOutput : Node → RunnerWorld W → Except PyError (Bool × String) × RunnerWorld W
  /-- `_is_transient_step_error`. -/
  isTransient : PyError → Bool
  sleep : RunnerWorld W → Exit Unit × RunnerWorld W

variable {W : Type}

namespace Runner

/-- `materialize_action`. -/
def materializeAction (runner : Runner W) (node : Node) : SignAction :=
  match node.kind with
  | .action (some rawAction) => rawAction
  | _ => runner.buildAction node

def contextFlag (runner : Runner W) (world : RunnerWorld W) : Bool :=
  runner.hasContext && world.contextSideEffect

def setContextFlag (runner : Runner W) (flag : Bool) (world : RunnerWorld W) : RunnerWorld W :=
  if runner.hasContext then { world with contextSideEffect := flag } else world

/-- `mark_side_effect_started`. -/
def markSideEffectStarted (runner : Runner W) (world : RunnerWorld W) : RunnerWorld W :=
  runner.setContextFlag true world

end Runner

/-- The state of one call of the executor.  The receipt is kept apart from the
context while it runs. -/
structure CallState (W : Type) where
  ctx : ScopedFlowContext
  world : RunnerWorld W
  receiptState : OperationAttemptState := .notStarted
  calls : List RunnerCall := []

structure CallReply (W : Type) where
  exit : Exit StepOutcome
  state : CallState W

/-- One call of `runner.wait_for`. -/
def invoke (runner : Runner W) (node : Node) (form : CallForm)
    (state : CallState W) : Exit RunnerResult × CallState W :=
  let answer := runner.waitFor node state.ctx form state.world
  let after := if answer.marks then .attempted else state.receiptState
  (answer.exit,
    { state with
      world := answer.world
      receiptState := after
      calls := state.calls ++
        [{ form, before := state.receiptState, after, exit := answer.exit }] })

/-- `_runner_wait_for`. -/
def runnerWaitFor (runner : Runner W) (node : Node) (state : CallState W) :
    Exit RunnerResult × CallState W :=
  if runner.supportsTimeout then invoke runner node .withTimeout state
  else
    match invoke runner node .withNextAction state with
    | (.raised error, after) =>
      if error.isTypeError then invoke runner node .bare after
      else (.raised error, after)
    | reply => reply

/-- `has_side_effect` of the handler. -/
def hasSideEffect (runner : Runner W) (state : CallState W) : Bool :=
  runner.contextFlag state.world || state.world.runnerSideEffect ||
    state.receiptState != .notStarted

/-- The end of the handler: the error is kept in an outcome, or the exception
that is being handled goes on. -/
def giveUp (runner : Runner W) (node : Node) (original current : PyError)
    (state : CallState W) : CallReply W :=
  if (runner.materializeAction node).continueOnError then
    { exit := .returned
        { nodeId := node.id, status := .skipped, error := some current,
          outputText := current.message, updatesLastOutput := false }
      state }
  else { exit := .raised original, state }

def retryOnce (runner : Runner W) (node : Node) (original : PyError)
    (state : CallState W) : CallReply W :=
  match runner.sleep state.world with
  | (.cancelled level, world) =>
    { exit := .cancelled level, state := { state with world } }
  | (.raised error, world) => { exit := .raised error, state := { state with world } }
  | (.returned (), world) =>
    match runnerWaitFor runner node { state with world } with
    | (.cancelled level, state) => { exit := .cancelled level, state }
    | (.raised error, state) => giveUp runner node original error state
    | (.returned result, state) =>
      let marked :=
        if result.isFalse then state.world
        else runner.markSideEffectStarted state.world
      match runner.readOutput node marked with
      | (.error error, world) =>
        giveUp runner node original error { state with world }
      | (.ok (matchedTerminal, outputText), world) =>
        if result.isFalse then
          giveUp runner node original original { state with world }
        else
          { exit := .returned
              { nodeId := node.id, status := .success, matchedTerminal,
                outputText }
            state := { state with world } }

/-- A flood wait of at most a minute, or else a transient error. -/
def worthRetry (runner : Runner W) (error : PyError) : Bool :=
  match error.floodWait with
  | some seconds => if seconds ≤ 60 then true else runner.isTransient error
  | none => runner.isTransient error

def handleError (runner : Runner W) (node : Node) (error : PyError)
    (state : CallState W) : CallReply W :=
  if worthRetry runner error && !hasSideEffect runner state then
    retryOnce runner node error state
  else giveUp runner node error error state

/-- `if res is not False: …`. -/
def noteSent (runner : Runner W) (result : RunnerResult) (state : CallState W) : CallState W :=
  if result.isFalse then state
  else
    let world := runner.markSideEffectStarted state.world
    let system := state.ctx.system
    { state with
      world
      ctx :=
        { state.ctx with
          system :=
            { system with
              lastSentMessageId := result.messageId.or system.lastSentMessageId
              lastMessageId := result.messageId.or system.lastMessageId
              lastActionFinishedAt := some (runner.time world) } } }

/-- A `False` of the runner. -/
def failedResult (runner : Runner W) (node : Node) (matchedTerminal : Bool)
    (outputText : String) : StepOutcome :=
  if (runner.materializeAction node).continueOnError then
    { nodeId := node.id
      status := .skipped
      matchedTerminal
      outputText :=
        if outputText != "" then outputText else "Failed but continue_on_error" }
  else
    { nodeId := node.id
      status := .failed
      matchedTerminal
      outputText :=
        if outputText != "" then outputText
        else s!"Action {node.id} execution returned False" }

def noteStart (runner : Runner W) (state : CallState W) : CallState W :=
  let system := state.ctx.system
  { state with
    ctx :=
      { state.ctx with
        system :=
          { system with lastActionStartedAt := some (runner.time state.world) } } }

/-- The `try` of `_call_unlocked`. -/
def execute (runner : Runner W) (node : Node) (state : CallState W) : CallReply W :=
  match runnerWaitFor runner node (noteStart runner state) with
  | (.cancelled level, state) => { exit := .cancelled level, state }
  | (.raised error, state) => handleError runner node error state
  | (.returned result, state) =>
    let sent := noteSent runner result state
    match runner.readOutput node sent.world with
    | (.error error, world) => handleError runner node error { sent with world }
    | (.ok (matchedTerminal, outputText), world) =>
      { exit := .returned
          (if result.isFalse then
            failedResult runner node matchedTerminal outputText
          else
            { nodeId := node.id, status := .success, matchedTerminal, outputText })
        state := { sent with world } }

/-- `_call_unlocked`. -/
def callUnlocked (runner : Runner W) (node : Node) (state : CallState W) : CallReply W :=
  match runner.skipMatch node state.ctx state.world with
  | some pattern =>
    { exit := .returned
        { nodeId := node.id, status := .skipped,
          outputText := s!"Skipped by skip_if_matched: {pattern}",
          updatesLastOutput := false }
      state }
  | none =>
    match runner.prepare node state.ctx state.world with
    | (.cancelled level, world) =>
      { exit := .cancelled level, state := { state with world } }
    | (.raised error, world) =>
      { exit := .raised error, state := { state with world } }
    | (.returned (), world) => execute runner node { state with world }

/-- `UnknownOperationResult`. -/
def unknownOperationResult (error : PyError) : PyError where
  name := "UnknownOperationResult"
  message :=
    s!"External operation result is unknown; automatic replay stopped: {error.message}"
  nonRetryable := true
  failureCode := some "operation_unknown"

/-- The handlers of `__call__`: the exit of the call, and the state in which it
leaves the receipt. -/
def closeCall (exit : Exit StepOutcome) (legacyMark : Bool) (receiptState : OperationAttemptState) :
    Exit StepOutcome × OperationAttemptState :=
  let moved := legacyMark || receiptState != .notStarted
  match exit with
  | .returned outcome =>
    (.returned outcome, if receiptState = .attempted then .confirmed else receiptState)
  | .cancelled level => (.cancelled level, if moved then .unknown else receiptState)
  | .raised error =>
    if moved then (.raised (unknownOperationResult error), .unknown)
    else (.raised error, receiptState)

def attemptNumber (ctx : ScopedFlowContext) (nodeId : String) : ℕ :=
  1 + (ctx.operationReceipts.filter fun receipt => receipt.nodeId == nodeId).length

def operationIdOf (ctx : ScopedFlowContext) (nodeId : String) : String :=
  s!"{nodeId}:{attemptNumber ctx nodeId}"

/-- The state in which `__call__` enters `_call_unlocked`. -/
def openCall (runner : Runner W) (node : Node) (ctx : ScopedFlowContext)
    (world : RunnerWorld W) : CallState W where
  ctx :=
    ctx.beginOperation (operationIdOf ctx node.id) node.id (attemptNumber ctx node.id) "telegram"
  world := runner.setContextFlag false world

/-- Write the receipt back, with evidence where the operation is confirmed. -/
def closeReceipt (ctx : ScopedFlowContext) (operationId nodeId : String)
    (state : OperationAttemptState) : ScopedFlowContext :=
  if state = .confirmed then
    ctx.markOperationConfirmed operationId [("node_id", nodeId)]
  else ctx.setReceiptState operationId state

/-- `TelegramNodeExecutor.__call__`. -/
def call (runner : Runner W) (node : Node) (ctx : ScopedFlowContext)
    (world : RunnerWorld W) : ExecutorReply (RunnerWorld W) ActionRun :=
  let operationId := operationIdOf ctx node.id
  let previousSideEffect := runner.contextFlag world
  let reply := callUnlocked runner node (openCall runner node ctx world)
  let legacyMark := runner.contextFlag reply.state.world
  let (exit, receiptState) := closeCall reply.exit legacyMark reply.state.receiptState
  { exit
    ctx := closeReceipt reply.state.ctx operationId node.id receiptState
    world :=
      runner.setContextFlag (previousSideEffect || legacyMark || receiptState != .notStarted)
        reply.state.world
    calls :=
      [{ nodeId := node.id, operationId, runnerCalls := reply.state.calls,
         receiptState }] }

/-- Surroundings whose executor is a Telegram executor. -/
def telegramEnv (env : Env (RunnerWorld W) ActionRun) (runner : Runner W) :
    Env (RunnerWorld W) ActionRun :=
  { env with executor := call runner }

/-- A runner that answers from a script: whether it marks the operation as
attempted, and how it ends.  It tries nothing again by itself. -/
def Runner.scripted : Runner (List (Bool × Exit RunnerResult)) where
  buildAction _ := {}
  skipMatch _ _ _ := none
  prepare _ _ world := (.returned (), world)
  time _ := 0
  waitFor _ _ _ world :=
    match world.runner with
    | [] => { exit := .returned {}, marks := true, world }
    | (marks, exit) :: rest =>
      { exit, marks
        world :=
          { world with
            runner := rest
            contextSideEffect := world.contextSideEffect || marks } }
  readOutput _ world := (.ok (false, ""), world)
  isTransient _ := false
  sleep world := (.returned (), world)

end SignPulse.TelegramExecutor
