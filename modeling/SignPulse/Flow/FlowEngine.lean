import SignPulse.Foundation.WhileLoop
import SignPulse.Flow.NodeRuns

/-!
# The engine

`PulseFlowEngine.run`: the attempts at a node, what follows from the recorded
outcome, and the loop over the nodes of a graph.  Hooks, the trace and the
metrics are left out: none of them decides anything.
-/

namespace SignPulse.FlowEngine

open Foundation
open FlowModels
open FlowContext
open RunEnvironment
open TargetAliases
open NodeRuns

variable {World Call : Type}

/-! ## Attempts -/

def timeoutError : PyError where
  name := "TimeoutError"
  isTimeout := true

/-- The own `wait_for` of an attempt: an expiry at level zero is its own. -/
def expire {α : Type} : Exit α → Exit α
  | .cancelled 0 => .raised timeoutError
  | .cancelled (level + 1) => .cancelled level
  | exit => exit

/-- `has_side_effect`. -/
def hasSideEffect (ctx : ScopedFlowContext) : Bool :=
  ctx.pulseflowSideEffectStarted || ctx.sideEffectStarted || ctx.system.sideEffectStarted

/-- An exception after which the node is not tried again, whatever number of
attempts is left. -/
def stopsRetry (policy : RetryPolicy) (ctx : ScopedFlowContext) (error : PyError) : Bool :=
  error.nonRetryable || hasSideEffect ctx ||
    (!policy.retryOnExceptions.isEmpty && !policy.retryOnExceptions.contains error.name &&
      !(error.isTimeout && policy.retryOnExceptions.contains "TimeoutError"))

/-- The outcome of a node whose attempts ended with an exception. -/
def failedOutcome (nodeId : String) (error : PyError) : StepOutcome where
  nodeId := nodeId
  status := if error.isTimeout then .timeout else .failed
  error := some error
  outputText :=
    if error.message != "" then error.message
    else if error.isTimeout then "TimeoutError"
    else "Execution error"

/-- The outcome of a node that asked for another attempt on its last one. -/
def exhausted (outcome : StepOutcome) : StepOutcome :=
  { outcome with
    status := .failed
    signal := .proceed }

/-- The backoff after an exception; `none` where another attempt follows. -/
def backoff (env : Env World Call) (world : World) : Option (Exit StepOutcome) × World :=
  match env.pause world with
  | (.returned (), world) => (none, world)
  | (.raised error, world) => (some (.raised error), world)
  | (.cancelled level, world) => (some (.cancelled level), world)

/-- The handler of an exception of an attempt; `none` where another attempt
follows. -/
def handleException (env : Env World Call) (node : Node) (isLast : Bool)
    (error : PyError) (ctx : ScopedFlowContext) (world : World) :
    Option (Exit StepOutcome) × World :=
  if stopsRetry node.retryPolicy ctx error || isLast then
    (some (.returned (failedOutcome node.id error)), world)
  else backoff env world

/-- What follows one attempt; `none` where another attempt follows. -/
def afterAttempt (env : Env World Call) (node : Node) (isLast : Bool)
    (reply : NodeReply World Call) : Option (Exit StepOutcome) × World :=
  match expire reply.exit with
  | .cancelled level => (some (.cancelled level), reply.world)
  | .raised error => handleException env node isLast error reply.ctx reply.world
  | .returned outcome =>
    if outcome.signal ≠ .retryNode then (some (.returned outcome), reply.world)
    else if isLast then (some (.returned (exhausted outcome)), reply.world)
    else
      match env.pause reply.world with
      | (.returned (), world) => (none, world)
      | (.cancelled level, world) => (some (.cancelled level), world)
      -- the backoff stands inside the `try` of the attempt
      | (.raised error, world) =>
        handleException env node isLast error reply.ctx world

/-- All the attempts at a node. -/
structure AttemptsReply (World Call : Type) where
  attempts : List (Attempt Call (RunLog Call))
  exit : Exit StepOutcome
  ctx : ScopedFlowContext
  world : World

/-- The attempt loop, given how many attempts are left. -/
def attemptLoop (env : Env World Call) (node : Node)
    (execute : ScopedFlowContext → World → NodeReply World Call) :
    ℕ → ScopedFlowContext → World → AttemptsReply World Call
  | 0, ctx, world =>
    { attempts := []
      exit := .returned { nodeId := node.id, status := .failed }
      ctx, world }
  | remaining + 1, ctx, world =>
    let reply := execute ctx world
    match afterAttempt env node (remaining == 0) reply with
    | (some exit, world) =>
      { attempts := [reply.attempt], exit, ctx := reply.ctx, world }
    | (none, world) =>
      let rest := attemptLoop env node execute remaining reply.ctx world
      { rest with attempts := reply.attempt :: rest.attempts }

/-! ## Guards -/

def skipReason (env : Env World Call) (node : Node) (ctx : ScopedFlowContext) :
    Except PyError (Option String) := do
  let skip ←
    if truthy node.skipIf then env.evaluateCondition ctx (node.skipIf.getD "")
    else pure false
  if skip then
    let condition := node.skipIf.getD ""
    return some s!"Condition skip_if '{condition}' evaluated to True"
  if truthy node.runIf then
    let condition := node.runIf.getD ""
    let run ← env.evaluateCondition ctx condition
    if run then return none
    return some s!"Condition run_if '{condition}' evaluated to False"
  return none

/-! ## The state of a run -/

structure RunState (World Call : Type) where
  currentId : String
  executedPath : List String := []
  nodeVisitCounts : Dict String ℕ := []
  totalSteps : ℕ := 0
  consecutiveFailures : ℕ := 0
  lastFailureError : Option String := none
  lastFailureCode : Option String := none
  lastFailureCategory : Option String := none
  lastNonRetryable : Bool := false
  lastSemanticDisposition : Option String := none
  ctx : ScopedFlowContext
  world : World
  visits : List (Visit Call (RunLog Call)) := []

def entryState (graph : ExecutionGraph) (ctx : ScopedFlowContext) (world : World) :
    RunState World Call where
  currentId := pyOrElse graph.resumeFromNodeId graph.entryNodeId
  ctx := ctx
  world := world

/-- How a run leaves its loop: with the last state, and an exception or a
cancellation that goes through it. -/
structure Departure (World Call : Type) where
  state : RunState World Call
  exit : Exit Unit

def atTerminal (nodeId : String) : Bool :=
  nodeId == TERMINAL_COMPLETE_ID || nodeId == TERMINAL_FAIL_ID

namespace RunState

variable {World Call : Type}

def visitCount (state : RunState World Call) (nodeId : String) : ℕ :=
  (Dict.getItem state.nodeVisitCounts nodeId).getD 0

/-- Count a step into a node. -/
def enter (state : RunState World Call) (node : Node) : RunState World Call :=
  { state with
    totalSteps := state.totalSteps + 1
    executedPath := state.executedPath ++ [node.id]
    nodeVisitCounts :=
      Dict.setItem state.nodeVisitCounts node.id (state.visitCount node.id + 1) }

/-- Go to the target of an edge. -/
def advance (state : RunState World Call) (target : Option String) : RunState World Call :=
  { state with currentId := normalizeTarget target }

def leave (state : RunState World Call) (terminal : String) :
    Turn (RunState World Call) (Departure World Call) :=
  .leave { state := { state with currentId := terminal }, exit := .returned () }

/-- End the run in failure. -/
def failWith (state : RunState World Call) (error : String) :
    Turn (RunState World Call) (Departure World Call) :=
  { state with lastFailureError := some error }.leave TERMINAL_FAIL_ID

end RunState

/-- The text of the error when a node is entered too often. -/
def loopLimitError (state : RunState World Call) (node : Node) : Option PyError :=
  let count := state.visitCount node.id
  let path := " -> ".intercalate state.executedPath
  if !node.loopPolicy.allowLoop && 1 < count then
    some
      { name := "FlowLoopLimitExceededError"
        message := s!"Node {node.id} loop not allowed (visited {count} times, path: {path})" }
  else if node.loopPolicy.allowLoop && node.loopPolicy.maxVisits < count then
    some
      { name := "FlowLoopLimitExceededError"
        message := s!"Node {node.id} loop limit exceeded ({count}/{node.loopPolicy.maxVisits}, path: {path})" }
  else none

/-! ## What follows from a recorded outcome -/

/-- An error that ends the run: `f_code or s_disp or nr`. -/
def controlledError (error : PyError) : Bool :=
  truthy error.failureCode || truthy error.semanticDisposition || error.nonRetryable

def reviewOrStop (details : StepDetails) : Bool :=
  details.semanticDisposition == some "review" || details.semanticDisposition == some "stop"

/-- `is_controlled`. -/
def isControlled (outcome : StepOutcome) : Bool :=
  outcome.error.any controlledError || reviewOrStop outcome.details

namespace RunState

variable {World Call : Type}

def noteError (state : RunState World Call) (error : Option PyError) : RunState World Call :=
  match error with
  | some error =>
    if controlledError error then
      { state with
        lastFailureCode := error.failureCode
        lastSemanticDisposition := error.semanticDisposition
        lastNonRetryable := true }
    else state
  | none => state

def noteCategory (state : RunState World Call) (details : StepDetails) : RunState World Call :=
  if truthy details.failureCategory then
    { state with
      lastFailureCategory := details.failureCategory
      lastNonRetryable :=
        state.lastNonRetryable || details.failureCategory == some "retry_exhausted" }
  else state

def noteDisposition (state : RunState World Call) (details : StepDetails) : RunState World Call :=
  if reviewOrStop details then
    { state with
      lastSemanticDisposition := details.semanticDisposition
      lastNonRetryable := true
      lastFailureCode :=
        if details.semanticDisposition = some "review" then
          some "semantic_review_required"
        else some "semantic_stop_requested" }
  else state

/-- The failure that an outcome reports, in the variables of the run. -/
def note (state : RunState World Call) (outcome : StepOutcome) : RunState World Call :=
  ((state.noteError outcome.error).noteCategory outcome.details).noteDisposition outcome.details

def record (state : RunState World Call) (outcome : StepOutcome) : RunState World Call :=
  { state with ctx := state.ctx.recordStepOutcome outcome }

end RunState

/-- `outcome.output_text or (str(outcome.error) if outcome.error else None)`,
or else `fallback`. -/
def failureText (outcome : StepOutcome) (fallback : String) : String :=
  pyOrElse (pyOr (some outcome.outputText) (outcome.error.map PyError.message)) fallback

def succeededStatus (status : NodeStatus) : Bool :=
  status == .success || status == .terminalEarly

def failedStatus (status : NodeStatus) : Bool :=
  status == .failed || status == .timeout

def countFailures (consecutiveFailures : ℕ) (status : NodeStatus) : ℕ :=
  if succeededStatus status then 0
  else if failedStatus status then consecutiveFailures + 1
  else consecutiveFailures

def breaks (graph : ExecutionGraph) (status : NodeStatus) (failures : ℕ) : Option ℤ :=
  if failedStatus status then
    graph.consecutiveFailureLimit.filter fun limit => limit ≤ failures
  else none

/-- The edge that a failed node leaves by. -/
def fallbackTarget (graph : ExecutionGraph) (node : Node) : Option String :=
  if !truthy node.onFailureNodeId && truthy graph.errorHandlerNodeId &&
      graph.errorHandlerNodeId != some node.id then
    graph.errorHandlerNodeId
  else node.onFailureNodeId

def followEdge (graph : ExecutionGraph) (node : Node) (outcome : StepOutcome)
    (state : RunState World Call) :
    Turn (RunState World Call) (Departure World Call) :=
  if succeededStatus outcome.status || outcome.status == .skipped then
    .again (state.advance (pyOr node.nextNodeId (some TERMINAL_COMPLETE_ID)))
  else
    .again
      ({ state with
          lastFailureError :=
            some (failureText outcome s!"Node {node.id} failed") }.advance
        (pyOr (fallbackTarget graph node) (some TERMINAL_FAIL_ID)))

/-- The terminal policy of a node that matched one of its terminal patterns. -/
def followPolicy (graph : ExecutionGraph) (node : Node) (outcome : StepOutcome)
    (state : RunState World Call) :
    Turn (RunState World Call) (Departure World Call) :=
  if outcome.matchedTerminal && succeededStatus outcome.status then
    match node.terminalPolicy with
    | .stopFlow => state.leave TERMINAL_COMPLETE_ID
    | .branchTo =>
      .again (state.advance
        (pyOr (pyOr node.terminalBranchTarget node.nextNodeId) (some TERMINAL_COMPLETE_ID)))
    | .ignore => followEdge graph node outcome state
  else followEdge graph node outcome state

def followSignal (graph : ExecutionGraph) (node : Node) (outcome : StepOutcome)
    (state : RunState World Call) :
    Turn (RunState World Call) (Departure World Call) :=
  match outcome.signal with
  | .haltSuccess => state.leave TERMINAL_COMPLETE_ID
  | .haltFail =>
    state.failWith (failureText outcome s!"Node {node.id} halted with failure")
  | .branch =>
    if truthy outcome.targetNodeId then
      .again
        ({ state with
            nodeVisitCounts :=
              if outcome.details.retryFlowRestart then []
              else state.nodeVisitCounts }.advance outcome.targetNodeId)
    else followPolicy graph node outcome state
  | _ => followPolicy graph node outcome state

def settle (graph : ExecutionGraph) (node : Node) (outcome : StepOutcome)
    (state : RunState World Call) :
    Turn (RunState World Call) (Departure World Call) :=
  let noted := (state.record outcome).note outcome
  if isControlled outcome then
    let cause := (pyOr noted.lastFailureCode noted.lastSemanticDisposition).getD "None"
    noted.failWith (failureText outcome s!"Node {node.id} controlled termination: {cause}")
  else
    let failures := countFailures noted.consecutiveFailures outcome.status
    let counted := { noted with consecutiveFailures := failures }
    match breaks graph outcome.status failures with
    | some limit =>
      counted.failWith s!"Circuit breaker triggered: consecutive failures reached {limit}"
    | none => followSignal graph node outcome counted

def skippedOutcome (nodeId reason : String) : StepOutcome where
  nodeId := nodeId
  status := .skipped
  outputText := reason
  updatesLastOutput := false

/-! ## The loop -/

/-- One visit to a node that the loop limits let in: its guards, and its
attempts unless they skip it. -/
def visitNode (env : Env World Call) (runSub : SubRun World Call)
    (graph : ExecutionGraph) (node : Node) (state : RunState World Call) :
    Turn (RunState World Call) (Departure World Call) :=
  let visit : Visit Call (RunLog Call) :=
    { key := state.currentId, node, attempts := [], outcome := none }
  match skipReason env node state.ctx with
  | .error error =>
    .leave
      { state := { state with visits := state.visits ++ [visit] }
        exit := .raised error }
  | .ok (some reason) =>
    let outcome := skippedOutcome node.id reason
    .again
      ({ state with
          visits := state.visits ++ [{ visit with outcome := some outcome }] }
        |>.record outcome
        |>.advance (pyOr node.nextNodeId (some TERMINAL_COMPLETE_ID)))
  | .ok none =>
    let reply :=
      attemptLoop env node (executeNode env runSub graph node)
        node.retryPolicy.maxAttempts.toNat state.ctx state.world
    let visited (outcome : Option StepOutcome) : RunState World Call :=
      { state with
        ctx := reply.ctx
        world := reply.world
        visits :=
          state.visits ++ [{ visit with attempts := reply.attempts, outcome }] }
    match reply.exit with
    | .raised error => .leave { state := visited none, exit := .raised error }
    | .cancelled level => .leave { state := visited none, exit := .cancelled level }
    | .returned outcome => settle graph node outcome (visited (some outcome))

/-- One turn of the loop of `run`. -/
def turn (env : Env World Call) (runSub : SubRun World Call)
    (graph : ExecutionGraph) (state : RunState World Call) :
    Turn (RunState World Call) (Departure World Call) :=
  if state.currentId = "" || atTerminal state.currentId then
    .leave { state, exit := .returned () }
  else if graph.maxTotalSteps ≤ state.totalSteps then
    state.failWith s!"Flow step limit exceeded: {graph.maxTotalSteps}"
  else
    match Dict.getItem graph.nodes state.currentId with
    -- the message is made after `current_id` was overwritten
    | none => state.failWith s!"Node not found: {TERMINAL_FAIL_ID}"
    | some node =>
      let entered := state.enter node
      match loopLimitError entered node with
      | some error => .leave { state := entered, exit := .raised error }
      | none => visitNode env runSub graph node entered

/-! ## The result -/

/-- Some wait node of the graph stands in the records with a success. -/
def confirmedByWait (graph : ExecutionGraph) (ctx : ScopedFlowContext) : Bool :=
  (Dict.valueList ctx.stepOutcomes).any fun outcome =>
    (Dict.getItem graph.nodes outcome.nodeId).any isWaitEvent && outcome.status == .success

def businessStatus (graph : ExecutionGraph) (success : Bool)
    (ctx : ScopedFlowContext) : BusinessStatus :=
  if success && (Dict.valueList ctx.stepOutcomes).any fun outcome =>
      outcome.details.businessStatus == some .partialResult then .partialResult
  else if ctx.operationReceipts.any (·.state == .unknown) then .unknown
  else if success && confirmedByWait graph ctx then .confirmed
  else if success then .notEvaluated
  else .failed

def targetText (ctx : ScopedFlowContext) : Option String :=
  if ctx.lastReceivedText != "" then some ctx.lastReceivedText
  else ctx.targetMessages.getLast?.map TargetMessage.text

def buildResult (env : Env World Call) (graph : ExecutionGraph)
    (state : RunState World Call) : FlowResult :=
  let success := state.currentId == TERMINAL_COMPLETE_ID
  let lastNode := pyOrElse (some state.currentId) "unknown"
  { success
    path := state.executedPath
    steps := state.totalSteps
    businessStatus := businessStatus graph success state.ctx
    operationReceipts := state.ctx.operationReceipts
    failure :=
      if success then none
      else
        some
          { error :=
              env.redactTraceText
                (pyOrElse state.lastFailureError s!"Workflow failed at node {lastNode}")
            failureCode := state.lastFailureCode
            failureCategory := state.lastFailureCategory
            nonRetryable := state.lastNonRetryable
            semanticDisposition := state.lastSemanticDisposition }
    targetMessage := targetText state.ctx
    targetMessages := state.ctx.targetMessages
    lastOutput := state.ctx.lastOutput
    lastReceivedText := state.ctx.lastReceivedText }

/-- What `run` gives back once its loop is left. -/
def conclude (env : Env World Call) (graph : ExecutionGraph)
    (departure : Departure World Call) : RunReply World Call :=
  let state := departure.state
  let exit : Exit FlowResult :=
    match departure.exit with
    | .returned () => .returned (buildResult env graph state)
    | .raised error => .raised error
    | .cancelled level => .cancelled level
  { exit
    ctx := state.ctx
    world := state.world
    log := { graph, visits := state.visits, ctx := state.ctx, exit } }

/-- The loop of `run` on its own. -/
def runLoop (env : Env World Call) (runSub : SubRun World Call)
    (graph : ExecutionGraph) (ctx : ScopedFlowContext) (world : World) :
    Departure World Call :=
  whileLoop (turn env runSub graph) (fun state => { state, exit := .cancelled 0 })
    graph.maxTotalSteps.toNat (entryState graph ctx world)

def runWith (env : Env World Call) (runSub : SubRun World Call) : SubRun World Call :=
  fun graph ctx world => conclude env graph (runLoop env runSub graph ctx world)

/-- `run` for graphs of at most so many levels. -/
def runLevels (env : Env World Call) : ℕ → SubRun World Call
  | 0 => fun graph ctx world =>
    conclude env graph
      { state := entryState graph ctx world
        exit := .raised { name := "RecursionError" } }
  | levels + 1 => runWith env (runLevels env levels)

/-- `PulseFlowEngine.run`. -/
def run (env : Env World Call) : SubRun World Call :=
  fun graph => runLevels env graph.depth graph

end SignPulse.FlowEngine
