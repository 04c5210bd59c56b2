import SignPulse.Flow.TargetAliases
import SignPulse.Flow.WaitEvent

/-!
# Node executions

`PulseFlowEngine._execute_node` and the functions it dispatches to.  Nested
graphs are run by `runSub`, which stands for `run` itself.
-/

namespace SignPulse.NodeRuns

open Foundation
open FlowModels
open FlowContext
open RunEnvironment
open TargetAliases
open WaitEvent

variable {World Call : Type}

/-- How nested graphs are run. -/
abbrev SubRun (World Call : Type) :=
  ExecutionGraph → ScopedFlowContext → World → RunReply World Call

/-! ## Condition, extractor and delay nodes -/

/-- The first case whose expression holds; an expression that cannot be
evaluated does not hold. -/
def matchingCase (env : Env World Call) (ctx : ScopedFlowContext)
    (cases : List ConditionCase) : Option ConditionCase :=
  cases.find? fun case =>
    truthy case.targetId &&
      (match env.evaluateCondition ctx case.condition with
        | .ok holds => holds
        | .error _ => false)

/-- `_run_condition_node`. -/
def runConditionNode (env : Env World Call) (nodeId : String)
    (cases : List ConditionCase) (defaultTargetId : Option String)
    (ctx : ScopedFlowContext) : StepOutcome :=
  match matchingCase env ctx cases with
  | some case =>
    let target := case.targetId.getD ""
    { nodeId
      status := .success
      signal := .branch
      targetNodeId := some (normalizeTarget case.targetId)
      outputText := s!"Condition matched: {case.condition} -> {target}"
      updatesLastOutput := false }
  | none =>
    let target := normalizeTarget (pyOr defaultTargetId (some TERMINAL_FAIL_ID))
    { nodeId
      status := .success
      signal := .branch
      targetNodeId := some target
      outputText := s!"Condition default branch -> {target}"
      updatesLastOutput := false }

/-- `_run_extractor_node`. -/
def runExtractorNode (env : Env World Call) (nodeId : String)
    (config : ExtractorConfig) (ctx : ScopedFlowContext) (world : World) :
    NodeReply World Call :=
  match env.extract config ctx with
  | .error error => { exit := .raised error, ctx, world }
  | .ok (matched, extracted) =>
    let ctx := { ctx with vars := Dict.update ctx.vars extracted }
    if config.required && !matched then
      { exit := .returned
          { nodeId
            status := .failed
            outputText :=
              s!"Extractor {nodeId} failed: pattern '{config.regex}' did not match and is required"
            updatesLastOutput := false }
        ctx, world }
    else
      { exit := .returned
          { nodeId
            status := .success
            extractedVars := extracted
            outputText := s!"Extracted {extracted.length} variables"
            updatesLastOutput := false }
        ctx, world }

/-- `_run_delay_node`. -/
def runDelayNode (env : Env World Call) (nodeId : String)
    (ctx : ScopedFlowContext) (world : World) : NodeReply World Call :=
  match env.pause world with
  | (.returned (), world) =>
    { exit := .returned
        { nodeId, status := .success, outputText := "Delayed",
          updatesLastOutput := false }
      ctx, world }
  | (.raised error, world) => { exit := .raised error, ctx, world }
  | (.cancelled level, world) => { exit := .cancelled level, ctx, world }

/-! ## Subflow nodes -/

/-- The variables of the parent under the names the subflow knows them by. -/
def mapInputVars (parent : ScopedFlowContext) (inputVars : Dict String String)
    (sub : ScopedFlowContext) : ScopedFlowContext :=
  inputVars.foldl
    (fun sub (targetKey, sourceKey) =>
      match Dict.getItem parent.vars sourceKey with
      | some value => sub.setVar targetKey value
      | none => sub)
    sub

/-- What a successful subflow hands to its parent, `output_vars` first. -/
def exportedVars (config : SubflowVars) (sub : ScopedFlowContext) : Dict String PyValue :=
  let renamed := config.outputVars.filterMap fun (subKey, parentKey) =>
    (Dict.getItem sub.vars subKey).map fun value => (parentKey, value)
  let kept := config.exportVars.filterMap fun key =>
    (Dict.getItem sub.vars key).map fun value => (key, value)
  Dict.update [] (renamed ++ kept)

def statusText (success : Bool) : String :=
  if success then "success" else "failed"

/-- `_run_subflow_node`. -/
def runSubflowNode (runSub : SubRun World Call) (nodeId : String)
    (subflowGraph : Option ExecutionGraph) (config : SubflowVars)
    (ctx : ScopedFlowContext) (world : World) : NodeReply World Call :=
  match subflowGraph with
  | none =>
    { exit := .returned
        { nodeId, status := .failed,
          outputText := "SubflowNode has no subflow_graph",
          updatesLastOutput := false }
      ctx, world }
  | some graph =>
    let sub := runSub graph (mapInputVars ctx config.inputVars ctx.childContext) world
    match sub.exit with
    | .raised error =>
      { exit := .raised error, ctx, world := sub.world, nested := [sub.log] }
    | .cancelled level =>
      { exit := .cancelled level, ctx, world := sub.world, nested := [sub.log] }
    | .returned result =>
      let extracted := if result.success then exportedVars config sub.ctx else []
      { exit := .returned
          { nodeId
            status := if result.success then .success else .failed
            outputText :=
              s!"Subflow finished with status: {statusText result.success}"
            extractedVars := extracted }
        ctx := { ctx with vars := Dict.update ctx.vars extracted }
        world := sub.world
        nested := [sub.log] }

/-! ## Parallel nodes -/

/-- How one branch ended.  A branch that was cut off before its turn came has
no log. -/
structure BranchReply (Call : Type) where
  exit : Exit FlowResult
  ctx : ScopedFlowContext
  log : Option (RunLog Call)

/-- `_run_single_branch` for every branch, in the order of their listing. -/
def runBranches (env : Env World Call) (runSub : SubRun World Call) (ctx : ScopedFlowContext) :
    List ExecutionGraph → World → List (BranchReply Call) × World
  | [], world => ([], world)
  | graph :: rest, world =>
    let (reply, world) : BranchReply Call × World :=
      match env.pause world with
      | (.returned (), world) =>
        let sub := runSub graph ctx.childContext world
        ({ exit := sub.exit, ctx := sub.ctx, log := some sub.log }, sub.world)
      | (.raised error, world) =>
        ({ exit := .raised error, ctx := ctx.childContext, log := none }, world)
      | (.cancelled level, world) =>
        ({ exit := .cancelled level, ctx := ctx.childContext, log := none }, world)
    let (replies, world) := runBranches env runSub ctx rest world
    (reply :: replies, world)

namespace BranchReply

variable {Call : Type}

def succeeded (reply : BranchReply Call) : Bool :=
  match reply.exit with
  | .returned result => result.success
  | _ => false

def cancelLevel (reply : BranchReply Call) : Option ℕ :=
  match reply.exit with
  | .cancelled level => some level
  | _ => none

end BranchReply

/-- The values that the successful branches wrote for each variable, in the
order of the branches. -/
def writtenValues (ctx : ScopedFlowContext) (replies : List (BranchReply Call)) :
    Dict String (List PyValue) :=
  (replies.filter BranchReply.succeeded).foldl
    (fun written reply =>
      reply.ctx.vars.foldl
        (fun written (key, value) =>
          match Dict.getItem ctx.vars key with
          | some old =>
            if value == old then written
            else Dict.setItem written key ((Dict.getItem written key).getD [] ++ [value])
          | none =>
            Dict.setItem written key ((Dict.getItem written key).getD [] ++ [value]))
        written)
    []

/-- Some later value differs from the first. -/
def conflicting (values : List PyValue) : Bool :=
  match values with
  | [] => false
  | first :: rest => rest.any fun value => value != first

def mergedValue (policy : VariableConflictPolicy) (values : List PyValue) : PyValue :=
  if policy = .collect && conflicting values then .list values
  else if policy = .firstWriter then values.head?.getD .none
  else values.getLast?.getD .none

def ParallelMode.text : ParallelMode → String
  | .all => "all"
  | .any => "any"
  | .allSettled => "all_settled"

/-- What the join of a parallel node decides. -/
structure Join where
  succeededCount : ℕ
  failedCount : ℕ
  overallSuccess : Bool
  mergedVars : Dict String PyValue

def joinBranches (mode : ParallelMode) (joinStrategy : String)
    (policy : VariableConflictPolicy) (ctx : ScopedFlowContext)
    (replies : List (BranchReply Call)) : Join :=
  let succeededCount := (replies.filter BranchReply.succeeded).length
  let failedCount := replies.length - succeededCount
  let byMode :=
    match mode with
    | .all => failedCount == 0
    | .any => 0 < succeededCount
    | .allSettled => true
  let written := if joinStrategy = "merge" then writtenValues ctx replies else []
  if (written.any fun item => conflicting item.2) && policy = .fail then
    { succeededCount, failedCount, overallSuccess := false, mergedVars := [] }
  else
    { succeededCount, failedCount, overallSuccess := byMode
      mergedVars := written.map fun item => (item.1, mergedValue policy item.2) }

/-- The receipts of the branches that returned, under ids that name the branch. -/
def branchReceipts (nodeId : String) : ℕ → List (BranchReply Call) → List OperationReceipt
  | _, [] => []
  | index, reply :: rest =>
    let own :=
      match reply.exit with
      | .returned _ =>
        reply.ctx.operationReceipts.map fun receipt =>
          { receipt with
            operationId := s!"{nodeId}.branch{index}.{receipt.operationId}" }
      | _ => []
    own ++ branchReceipts nodeId (index + 1) rest

def parallelBusinessStatus (join : Join) (receipts : List OperationReceipt) : BusinessStatus :=
  if receipts.any (·.state == .unknown) then .unknown
  else if join.failedCount != 0 && join.succeededCount != 0 then .partialResult
  else if join.failedCount != 0 then .failed
  else .confirmed

/-- `_run_parallel_node`. -/
def runParallelNode (env : Env World Call) (runSub : SubRun World Call)
    (nodeId : String) (branches : List ExecutionGraph) (mode : ParallelMode)
    (joinStrategy : String) (policy : VariableConflictPolicy)
    (ctx : ScopedFlowContext) (world : World) : NodeReply World Call :=
  if branches.isEmpty then
    { exit := .returned
        { nodeId, status := .success, outputText := "ParallelNode has no branches",
          updatesLastOutput := false }
      ctx, world }
  else
    let (replies, world) := runBranches env runSub ctx branches world
    let nested := replies.filterMap BranchReply.log
    match replies.findSome? BranchReply.cancelLevel with
    -- `gather` is cancelled as a whole, and nothing of its results is read
    | some level => { exit := .cancelled level, ctx, world, nested }
    | none =>
      let join := joinBranches mode joinStrategy policy ctx replies
      let receipts := branchReceipts nodeId 0 replies
      let vars :=
        if join.overallSuccess && joinStrategy == "merge" then
          Dict.update ctx.vars join.mergedVars
        else ctx.vars
      { exit := .returned
          { nodeId
            status := if join.overallSuccess then .success else .failed
            outputText :=
              s!"ParallelNode branches finished: {join.succeededCount} succeeded, {join.failedCount} failed (mode={ParallelMode.text mode})"
            extractedVars := join.mergedVars
            updatesLastOutput := false
            details :=
              { businessStatus := some (parallelBusinessStatus join receipts) } }
        ctx :=
          { ctx with
            vars
            operationReceipts := ctx.operationReceipts ++ receipts }
        world
        nested }

/-! ## Dispatch -/

def ofExecutor (reply : ExecutorReply World Call) : NodeReply World Call where
  exit := reply.exit
  ctx := reply.ctx
  world := reply.world
  calls := reply.calls

/-- `ctx.system["last_action_node"] = node`. -/
def rememberAction (ctx : ScopedFlowContext) (node : Node) : ScopedFlowContext :=
  { ctx with system := { ctx.system with lastActionNode := some node } }

/-- `_execute_node`, for a run with an event bus. -/
def executeNode (env : Env World Call) (runSub : SubRun World Call)
    (graph : ExecutionGraph) (node : Node) (ctx : ScopedFlowContext)
    (world : World) : NodeReply World Call :=
  match node.kind with
  | .action _ => ofExecutor (env.executor node (rememberAction ctx node) world)
  | .condition cases defaultTargetId =>
    { exit := .returned (runConditionNode env node.id cases defaultTargetId ctx)
      ctx, world }
  | .extractor config => runExtractorNode env node.id config ctx world
  | .delay => runDelayNode env node.id ctx world
  | .subflow subflowGraph config =>
    runSubflowNode runSub node.id subflowGraph config ctx world
  | .parallel branches mode joinStrategy policy =>
    runParallelNode env runSub node.id branches mode joinStrategy policy ctx world
  | .waitEvent config => runWaitEventNode env graph node config ctx world
  | .base => ofExecutor (env.executor node ctx world)

end SignPulse.NodeRuns
