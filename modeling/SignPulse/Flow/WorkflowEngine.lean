import SignPulse.Flow.ChatCompiler
import SignPulse.Flow.FlowEngine

/-!
# The workflow engine

`workflow_engine.py`: the older entry point for workflows of steps.  It checks
the topology by itself, builds a graph by itself, has the flow engine run it,
and turns what comes back into its own result or its own loop error.  The parts
of a step that only its executor reads are left out.
-/

namespace SignPulse.WorkflowEngine

open Foundation
open FlowModels
open FlowContext
open RunEnvironment

structure WorkflowStep where
  stepId : String
  nextStepId : Option String := none
  onFailureStepId : Option String := none
  allowLoop : Bool := false
  maxRetries : Option ℤ := none
  deriving DecidableEq, Repr

structure WorkflowDefinition where
  steps : List WorkflowStep
  initialStepId : String

structure WorkflowContext where
  currentStepId : String := ""
  executionPath : List String := []
  totalStepsExecuted : ℕ := 0
  maxTotalSteps : ℤ := 25
  deriving DecidableEq, Repr

/-- `step_map`. -/
def stepMap (wf : WorkflowDefinition) : Dict String WorkflowStep :=
  Dict.update [] (wf.steps.map fun step => (step.stepId, step))

/-! ## Topology -/

def endNames : List String :=
  ["COMPLETE", "FAIL"]

/-- The target is neither absent nor the end nor a step. -/
def missing (wf : WorkflowDefinition) (target : Option String) : Bool :=
  match target with
  | some text =>
    text != "" && !endNames.contains text && !Dict.hasKey (stepMap wf) text
  | none => false

def checkStep (wf : WorkflowDefinition) (step : WorkflowStep) : Except String Unit := do
  if missing wf step.nextStepId then
    let target := step.nextStepId.getD ""
    throw s!"步骤 {step.stepId} 指向的后续步骤 {target} 不存在"
  if missing wf step.onFailureStepId then
    let target := step.onFailureStepId.getD ""
    throw s!"步骤 {step.stepId} 指向的失败后步骤 {target} 不存在"

/-- A step on a cycle has declared the loop, with a number of retries. -/
def mayLoop (wf : WorkflowDefinition) (stepId : String) : Bool :=
  match Dict.getItem (stepMap wf) stepId with
  | some step => step.allowLoop && step.maxRetries.any fun retries => 0 ≤ retries
  | none => false

/-- `_dfs`. -/
def cycleSearch (wf : WorkflowDefinition) : Search String String Unit where
  skips := endNames.contains
  neighbors stepId :=
    match Dict.getItem (stepMap wf) stepId with
    | some step =>
      [step.nextStepId, step.onFailureStepId].filterMap fun target =>
        target.filter fun text => text != ""
    | none => []
  enter _ _ := .ok ()
  close steps stepId :=
    if steps.all (mayLoop wf) then .ok ()
    else
      let path := " -> ".intercalate steps
      .error s!"检测到未允许的环路: {path} -> {stepId}"

/-- `validate_topology`.  The targets are checked before the search, which
therefore meets each step once on a path. -/
def validateTopology (wf : WorkflowDefinition) : Except String Unit := do
  if !Dict.hasKey (stepMap wf) wf.initialStepId then
    throw s!"初始步骤 {wf.initialStepId} 不存在"
  wf.steps.forM (checkStep wf)
  let bound := wf.steps.length + 1
  let entered ← (cycleSearch wf).visit bound [] wf.initialStepId ([], ())
  let _ ← (wf.steps.map WorkflowStep.stepId).foldlM
    (fun progress stepId =>
      if stepId ∈ progress.1 then .ok progress
      else (cycleSearch wf).visit bound [] stepId progress)
    entered
  return ()

/-! ## The graph -/

/-- `next_nid`. -/
def nextNodeId (target : Option String) : String :=
  match target with
  | none => TERMINAL_COMPLETE_ID
  | some text =>
    if text = "COMPLETE" then TERMINAL_COMPLETE_ID
    else if text = "FAIL" then TERMINAL_FAIL_ID
    else text

/-- `on_fail_nid`. -/
def onFailureNodeId (target : Option String) : String :=
  match target with
  | none => TERMINAL_FAIL_ID
  | some text =>
    if text = "FAIL" then TERMINAL_FAIL_ID
    else if text = "COMPLETE" then TERMINAL_COMPLETE_ID
    else text

/-- `limit`. -/
def stepLimit (step : WorkflowStep) : ℤ :=
  match step.maxRetries with
  | some retries => if step.allowLoop then retries + 1 else 1
  | none => 1

def bridgeNode (step : WorkflowStep) : Node where
  id := step.stepId
  nextNodeId := some (nextNodeId step.nextStepId)
  onFailureNodeId := some (onFailureNodeId step.onFailureStepId)
  loopPolicy := { allowLoop := step.allowLoop, maxVisits := stepLimit step }

def bridgeGraph (wf : WorkflowDefinition) (maxTotalSteps : ℤ) : ExecutionGraph where
  entryNodeId := wf.initialStepId
  nodes := Dict.update [] (wf.steps.map fun step => (step.stepId, bridgeNode step))
  maxTotalSteps := maxTotalSteps

/-! ## The executor -/

/-- The `step_executor` argument of `run`; it may write to the context. -/
abbrev StepExecutor (World : Type) :=
  WorkflowStep → WorkflowContext → World → Exit Bool × WorkflowContext × World

variable {World Call : Type}

def bridgeOutcome (node : Node) (step : WorkflowStep) (ctx : WorkflowContext)
    (stepSuccess : Bool) : StepOutcome :=
  let status := if stepSuccess then NodeStatus.success else NodeStatus.failed
  if ctx.currentStepId = "COMPLETE" then
    { nodeId := node.id, status := .success, signal := .haltSuccess }
  else if ctx.currentStepId = "FAIL" then
    { nodeId := node.id, status := .failed, signal := .haltFail }
  else if ctx.currentStepId ≠ step.stepId then
    { nodeId := node.id
      status
      signal := .branch
      targetNodeId := some ctx.currentStepId }
  else { nodeId := node.id, status }

/-- What the bridge writes to the context before it calls the step executor. -/
def WorkflowContext.enter (ctx : WorkflowContext) (stepId : String) : WorkflowContext :=
  { ctx with
    currentStepId := stepId
    executionPath := ctx.executionPath ++ [stepId]
    totalStepsExecuted := ctx.totalStepsExecuted + 1 }

/-- `_bridge_node_executor`, over a world that holds the workflow context. -/
def bridgeExecutor (wf : WorkflowDefinition) (stepExecutor : Option (StepExecutor World))
    (node : Node) (flowCtx : ScopedFlowContext) (world : WorkflowContext × World) :
    ExecutorReply (WorkflowContext × World) Call :=
  match Dict.getItem (stepMap wf) node.id with
  | none =>
    { exit := .raised { name := "KeyError", message := pyRepr node.id }
      ctx := flowCtx
      world }
  | some step =>
    let entered := world.1.enter step.stepId
    let (answer, ctx, after) : Exit Bool × WorkflowContext × World :=
      match stepExecutor with
      | some execute => execute step entered world.2
      | none => (.returned true, entered, world.2)
    let exit : Exit StepOutcome :=
      match answer with
      | .returned stepSuccess => .returned (bridgeOutcome node step ctx stepSuccess)
      | .raised error => .raised error
      | .cancelled level => .cancelled level
    { exit, ctx := flowCtx, world := (ctx, after) }

/-! ## The run -/

structure WorkflowResult where
  success : Bool
  path : List String
  steps : ℕ
  error : Option String
  deriving DecidableEq

/-- The exception is a `FlowLoopLimitExceededError`. -/
def isLoopLimit (error : PyError) : Bool :=
  error.name == "FlowLoopLimitExceededError" || error.name == "WorkflowLoopExceededError"

def loopExceeded (message : String) : PyError where
  name := "WorkflowLoopExceededError"
  message := message

/-- The step limit was the reason, as far as the text of the error and the number
of steps tell. -/
def hitStepLimit (ctx : WorkflowContext) (part text : String) : Bool :=
  pyContains text part || decide (ctx.maxTotalSteps ≤ ctx.totalStepsExecuted)

/-- The body of the `try` after the flow engine has returned. -/
def adaptResult (ctx : WorkflowContext) (result : FlowResult) : Exit WorkflowResult :=
  let error := result.failure.map Failure.error
  if hitStepLimit ctx "Flow step limit exceeded" (pyOrElse error "") then
    .raised (loopExceeded s!"执行已达最大步数硬上限 {ctx.maxTotalSteps}")
  else
    .returned
      { success := result.success
        path := ctx.executionPath
        steps := ctx.totalStepsExecuted
        error }

/-- The handler of a `FlowLoopLimitExceededError`. -/
def adaptLoopLimit (wf : WorkflowDefinition) (ctx : WorkflowContext) (error : PyError) : PyError :=
  if hitStepLimit ctx "Max total step limit exceeded" error.message then
    loopExceeded s!"执行已达最大步数硬上限 {ctx.maxTotalSteps}: {error.message}"
  else
    let stepId := pyOrElse (some ctx.currentStepId) wf.initialStepId
    let limit := ((Dict.getItem (stepMap wf) stepId).map stepLimit).getD 1
    let visits := ctx.executionPath.count stepId + 1
    loopExceeded s!"步骤 {stepId} 执行次数 ({visits}) 超过允许上限 {limit}: {error.message}"

/-- The `try` statement of `run`.  The error that its body raises for the step
limit is one that its own handler catches. -/
def adapt (wf : WorkflowDefinition) (ctx : WorkflowContext) (exit : Exit FlowResult) :
    Exit WorkflowResult :=
  let tried : Exit WorkflowResult :=
    match exit with
    | .returned result => adaptResult ctx result
    | .raised error => .raised error
    | .cancelled level => .cancelled level
  match tried with
  | .raised error =>
    if isLoopLimit error then .raised (adaptLoopLimit wf ctx error)
    else .raised error
  | exit => exit

structure WorkflowReply (World : Type) where
  exit : Exit WorkflowResult
  ctx : WorkflowContext
  world : World

/-- The surroundings of the run of the bridge graph. -/
def bridgeEnv (env : Env (WorkflowContext × World) Call) (wf : WorkflowDefinition)
    (stepExecutor : Option (StepExecutor World)) : Env (WorkflowContext × World) Call :=
  { env with executor := bridgeExecutor wf stepExecutor }

def bridgeRun (env : Env (WorkflowContext × World) Call) (wf : WorkflowDefinition)
    (stepExecutor : Option (StepExecutor World)) (ctx : WorkflowContext) (world : World) :
    RunReply (WorkflowContext × World) Call :=
  FlowEngine.run (bridgeEnv env wf stepExecutor) (bridgeGraph wf ctx.maxTotalSteps) {} (ctx, world)

/-- `WorkflowEngine.run`. -/
def run (env : Env (WorkflowContext × World) Call) (wf : WorkflowDefinition)
    (stepExecutor : Option (StepExecutor World)) (ctx : WorkflowContext) (world : World) :
    WorkflowReply World :=
  match validateTopology wf with
  | .error message =>
    { exit := .raised { name := "WorkflowTopologyError", message }, ctx, world }
  | .ok () =>
    let reply := bridgeRun env wf stepExecutor ctx world
    { exit := adapt wf reply.world.1 reply.exit
      ctx := reply.world.1
      world := reply.world.2 }

end SignPulse.WorkflowEngine
