import SignPulse.Foundation.DepthFirst
import SignPulse.Flow.TargetAliases

/-!
# Validation of graphs

`GraphNormalizer.validate_graph`: the sizes, the targets of all edges, and a
depth-first search that looks for loops and validates the nested graphs on its
way.  An error is the text of a `GraphValidationError`.
-/

namespace SignPulse.GraphNormalizer

open Foundation
open FlowModels

/-- The texts that the validator takes for the end of the flow. -/
def sentinels : List String :=
  [TERMINAL_COMPLETE_ID, TERMINAL_FAIL_ID, "COMPLETE", "FAIL"]

/-- The entries of the `budget` dictionary. -/
structure Budget where
  currentTotalNodes : Option ℤ := none
  totalNodes : Option ℤ := none
  maxTotalTaskNodes : Option ℤ := none
  maxNodes : Option ℤ := none
  deriving DecidableEq, Repr

/-- The two arguments that the validator writes to. -/
structure Ledger where
  budget : Option Budget := none
  warnings : Option (List String) := none
  deriving DecidableEq, Repr

/-! ## Sizes -/

def checkSize (graph : ExecutionGraph) (depth : ℤ) : Except String Unit :=
  if graph.nodes.isEmpty then .error "执行图不能为空"
  else if MAX_NODES_PER_GRAPH < graph.nodes.length then
    .error s!"单图节点总数超过上限: 当前 {graph.nodes.length} > 最大允许 {MAX_NODES_PER_GRAPH}"
  else if MAX_SUBFLOW_DEPTH < depth then
    .error s!"子图嵌套深度超过上限: 当前 {depth} > 最大允许 {MAX_SUBFLOW_DEPTH}"
  else .ok ()

def totalError (total limit : ℤ) : String :=
  s!"全任务流程图节点总数超过上限: 当前 {total} > 最大允许 {limit}"

/-- Count the nodes of the graph; the outermost graph opens a budget if it is
given none. -/
def spend (graph : ExecutionGraph) (depth : ℤ) (budget : Option Budget) :
    Except String (Option Budget) :=
  let count : ℤ := graph.nodes.length
  match budget with
  | some budget =>
    let current := budget.currentTotalNodes.getD (budget.totalNodes.getD 0)
    let limit :=
      budget.maxTotalTaskNodes.getD (budget.maxNodes.getD MAX_TOTAL_TASK_NODES)
    let total := current + count
    if limit < total then .error (totalError total limit)
    else
      .ok (some { budget with currentTotalNodes := some total, totalNodes := some total })
  | none =>
    if depth = 1 then
      if MAX_TOTAL_TASK_NODES < count then
        .error (totalError count MAX_TOTAL_TASK_NODES)
      else
        .ok (some
          { currentTotalNodes := some count
            totalNodes := some count
            maxTotalTaskNodes := some MAX_TOTAL_TASK_NODES })
    else .ok none

/-! ## Targets -/

/-- The edges of a node in the order of the source, with the words by which an
error names them. -/
def nodeEdges (nodeId : String) (node : Node) : List (String × Option String) :=
  [(s!"步骤 {nodeId} 的 next_node_id", node.nextNodeId),
    (s!"步骤 {nodeId} 的 on_failure_node_id", node.onFailureNodeId),
    (s!"步骤 {nodeId} 的 terminal_branch_target", node.terminalBranchTarget)] ++
  match node.kind with
  | .condition cases defaultTargetId =>
    cases.map (fun case => (s!"条件节点 {nodeId} 的目标", case.targetId)) ++
      [(s!"条件节点 {nodeId} 的默认目标", defaultTargetId)]
  | _ => []

/-- A target that is no sentinel names a node. -/
def checkTarget (graph : ExecutionGraph) (message : String → String)
    (target : Option String) : Except String Unit :=
  match target with
  | none => .ok ()
  | some text =>
    if text != "" && !sentinels.contains text && !Dict.hasKey graph.nodes text then
      .error (message text)
    else .ok ()

def dangling (label text : String) : String :=
  s!"{label} '{text}' 指向不存在的节点"

def checkReferences (graph : ExecutionGraph) : Except String Unit := do
  if !Dict.hasKey graph.nodes graph.entryNodeId then
    throw s!"初始步骤 {graph.entryNodeId} 不在图节点中"
  checkTarget graph (fun text => s!"断点恢复节点 resume_from_node_id '{text}' 不在图节点中")
    graph.resumeFromNodeId
  graph.nodes.forM fun (nodeId, node) =>
    (nodeEdges nodeId node).forM fun (label, target) =>
      checkTarget graph (dangling label) target
  checkTarget graph (dangling "全局错误处理节点 error_handler_node_id") graph.errorHandlerNodeId

/-! ## The search -/

/-- The nodes at which `_dfs` turns back at once. -/
def skips (graph : ExecutionGraph) (nodeId : String) : Bool :=
  sentinels.contains nodeId || !Dict.hasKey graph.nodes nodeId

/-- The `neighbors` of `_dfs`. -/
def neighbors (graph : ExecutionGraph) (nodeId : String) : List String :=
  match Dict.getItem graph.nodes nodeId with
  | some node =>
    (nodeEdges nodeId node).filterMap fun edge => edge.2.filter fun text => text != ""
  | none => []

/-- `allow_loop` and `max_visits > 1`. -/
def mayRepeat (graph : ExecutionGraph) (nodeId : String) : Bool :=
  match Dict.getItem graph.nodes nodeId with
  | some node => node.loopPolicy.allowLoop && 1 < node.loopPolicy.maxVisits
  | none => true

def loopError (steps : List String) (nodeId : String) : String :=
  let path := " -> ".intercalate steps
  s!"检测到未允许的环路: {path} -> {nodeId}"

/-- How nested graphs are validated. -/
abbrev ValidateSub := ExecutionGraph → ℤ → Ledger → Except String Ledger

/-- The nested graphs of a node that the search enters. -/
def validateNested (validateSub : ValidateSub) (depth : ℤ) (node : Node)
    (ledger : Ledger) : Except String Ledger :=
  match node.kind with
  | .subflow (some graph) _ => validateSub graph (depth + 1) ledger
  | .parallel branches _ _ _ =>
    if MAX_PARALLEL_BRANCHES < branches.length then
      .error s!"并行分支数超过上限: 当前 {branches.length} > 最大允许 {MAX_PARALLEL_BRANCHES}"
    else
      branches.foldlM (fun ledger branch => validateSub branch (depth + 1) ledger) ledger
  | _ => .ok ledger

/-- `_dfs`. -/
def graphSearch (validateSub : ValidateSub) (graph : ExecutionGraph) (depth : ℤ) :
    Search String String Ledger where
  skips := skips graph
  neighbors := neighbors graph
  enter nodeId ledger :=
    match Dict.getItem graph.nodes nodeId with
    | some node => validateNested validateSub depth node ledger
    | none => .ok ledger
  close steps nodeId :=
    if steps.all (mayRepeat graph) then .ok () else .error (loopError steps nodeId)

/-- A search meets each node once on a path. -/
def searchBound (graph : ExecutionGraph) : ℕ :=
  graph.nodes.length + 1

def unreachableWarnings (graph : ExecutionGraph) (entryVisited : List String) : List String :=
  let unreachable := (Dict.keyList graph.nodes).filter fun nodeId =>
    nodeId ∉ entryVisited
  (unreachable.mergeSort fun left right => decide (left ≤ right)).map fun nodeId =>
    s!"步骤 '{nodeId}' 从入口步骤 '{graph.entryNodeId}' 不可达"

/-! ## Validation -/

def validateWith (validateSub : ValidateSub) : ValidateSub :=
  fun graph depth ledger => do
    checkSize graph depth
    let budget ← spend graph depth ledger.budget
    checkReferences graph
    let search := graphSearch validateSub graph depth
    let bound := searchBound graph
    let (entryVisited, entryLedger) ←
      search.visit bound [] graph.entryNodeId ([], { ledger with budget })
    let (_, found) ←
      (Dict.keyList graph.nodes).foldlM
        (fun progress nodeId =>
          if nodeId ∈ progress.1 then .ok progress
          else search.visit bound [] nodeId progress)
        (entryVisited, entryLedger)
    .ok
      { -- a budget that was opened here is not the caller's
        budget := ledger.budget.bind fun _ => found.budget
        warnings := found.warnings.map fun warnings =>
          warnings ++ unreachableWarnings graph entryVisited }

/-- `validate_graph` for graphs of at most so many levels. -/
def validateLevels : ℕ → ValidateSub
  | 0 => fun _ _ _ => .error "maximum recursion depth exceeded"
  | levels + 1 => validateWith (validateLevels levels)

/-- `GraphNormalizer.validate_graph`. -/
def validateGraph : ValidateSub :=
  fun graph => validateLevels graph.depth graph

end SignPulse.GraphNormalizer
