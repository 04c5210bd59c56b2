import SignPulse.Backend.ChainedRuns
import SignPulse.Flow.ChatCompiler
import SignPulse.Foundation.Raising

/-!
# Configured graphs

What a chat configures besides a list of actions, steps or the dictionary of a graph, and the
graph that is made of it: `ExecutionGraph.from_dict`, and `_build_node_from_flow_step` for every
step.  Of a compiled node there is what it does; its edges, policies and timeouts are elsewhere.
-/

namespace SignPulse.GraphData

open Foundation
open FlowModels
open ChainedRuns (Config isTrue getEntry)

/-- `NodeType`. -/
inductive NodeType where
  | action | waitEvent | condition | extractor | delay | subflow | parallel
  deriving DecidableEq, Repr

/-- `NodeType(text)`. -/
def NodeType.ofText : String → Option NodeType
  | "action" => some .action
  | "wait_event" => some .waitEvent
  | "condition" => some .condition
  | "extractor" => some .extractor
  | "delay" => some .delay
  | "subflow" => some .subflow
  | "parallel" => some .parallel
  | _ => none

/-- `SupportAction.name`. -/
def actionName : SupportAction → String
  | .sendText => "SEND_TEXT"
  | .sendDice => "SEND_DICE"
  | .clickKeyboardByText => "CLICK_KEYBOARD_BY_TEXT"
  | .chooseOptionByImage => "CHOOSE_OPTION_BY_IMAGE"
  | .replyByCalculationProblem => "REPLY_BY_CALCULATION_PROBLEM"
  | .replyByImageRecognition => "REPLY_BY_IMAGE_RECOGNITION"
  | .clickButtonByCalculationProblem => "CLICK_BUTTON_BY_CALCULATION_PROBLEM"
  | .keywordNotify => "KEYWORD_NOTIFY"
  | .customPlugin => "CUSTOM_PLUGIN"

/-- `SupportAction.value`. -/
def actionValue : SupportAction → ℤ
  | .sendText => 1
  | .sendDice => 2
  | .clickKeyboardByText => 3
  | .chooseOptionByImage => 4
  | .replyByCalculationProblem => 5
  | .replyByImageRecognition => 6
  | .clickButtonByCalculationProblem => 7
  | .keywordNotify => 8
  | .customPlugin => 99

/-- A `WorkflowStepConfig` or a `FlowStepConfig`, with the fields that say what the step does. -/
inductive StepConfig where
  | workflow (stepId : String) (actionType : SupportAction) (config : Config)
  | flow (stepId : String) (nodeType : NodeType) (actionType : Option SupportAction)
      (params : Config) (config : Option Config) (subflowGraph : Option Config)
      (branches : List Config)

/-- `steps` or `flow_graph` of a chat. -/
inductive FlowSource where
  | steps (steps : List StepConfig)
  | flowGraph (graph : Config)

/-- What a compiled node was made of. -/
inductive Item where
  | step (step : StepConfig)
  | node (entries : Config)

/-- An instance of the class that `ACTION_MODEL_MAP` names, with the `mode` of a plugin. -/
structure RawAction where
  action : SupportAction
  mode : PyValue := .str "reactive"

/-- What a compiled node does, over the type `G` of nested graphs.  An action node has its action
as an object, or only as the text `action_type` with `params`. -/
inductive CompiledKind (G : Type) where
  | action (rawAction : RawAction)
  | textAction (actionType : String) (params : Config)
  | waitEvent
  | subflow (graph : Option G)
  | parallel (branches : List G)
  | other

structure CompiledNode (G : Type) where
  source : Item
  kind : CompiledKind G

structure CompiledGraph where
  nodes : List (String × CompiledNode CompiledGraph)

/-- The parts of the model classes that decide what they accept, and conversions of values. -/
structure Models where
  /-- `str(value)` of what is no text. -/
  strOf : PyValue → String
  /-- `int(text)`. -/
  intOfText : String → Option ℤ
  /-- The constructor of the class of a node type. -/
  acceptsNode : NodeType → Config → Except PyError Unit
  /-- That of `ExecutionGraph`. -/
  acceptsGraph : Config → Except PyError Unit
  /-- That of the class of an action. -/
  acceptsAction : SupportAction → Config → Except PyError Unit
  /-- `params` of an action node, given something else than a dictionary. -/
  paramsOf : PyValue → Except PyError Config

variable (models : Models)

def Models.toStr : PyValue → String
  | .str text => text
  | value => models.strOf value

/-- `left or right`. -/
def orElse (left right : PyValue) : PyValue :=
  if isTrue left then left else right

/-! ## Graphs -/

/-- `action_type` of an action node. -/
def actionTypeText (entries : Config) : Except PyError String :=
  match Dict.getItem entries "action_type" with
  | none => .ok "SEND_TEXT"
  | some (.str text) => .ok text
  | some (.bool value) => .ok (models.strOf (.bool value))
  | some (.int value) => .ok (models.strOf (.int value))
  | some (.float value) => .ok (models.strOf (.float value))
  | some _ => .error { name := "ValidationError", message := "str type expected" }

def actionParams (entries : Config) : Except PyError Config :=
  match Dict.getItem entries "params" with
  | none => .ok []
  | some (.dict params) => .ok params
  | some value => models.paramsOf value

/-- How nested dictionaries are read. -/
abbrev ReadSub := Config → Except PyError CompiledGraph

/-- A branch.  Of something else than a dictionary the model makes, if anything, a graph of nodes
without a class of their own. -/
def readBranch (readSub : ReadSub) : PyValue → Except PyError CompiledGraph
  | .dict graph => readSub graph
  | _ => .ok { nodes := [] }

/-- `node_type` or `type`, in lower case; an action where there is neither. -/
def nodeTypeOf (entries : Config) : Except PyError NodeType :=
  let raw := orElse (getEntry entries "node_type") (getEntry entries "type")
  if isTrue raw then
    match NodeType.ofText (pyLower (models.toStr raw)) with
    | some ntype => .ok ntype
    | none => .error { name := "ValueError", message := "未知或不支持的节点类型: " ++ models.toStr raw }
  else .ok .action

def actionKind (entries : Config) : Except PyError (CompiledKind CompiledGraph) := do
  let text ← actionTypeText models entries
  let params ← actionParams models entries
  return .textAction text params

/-- `node.get("subflow_graph")`, where it is a dictionary. -/
def subflowOf (node : Config) : Option Config :=
  match Dict.getItem node "subflow_graph" with
  | some (.dict graph) => some graph
  | _ => none

def subflowKind (readSub : ReadSub) (entries : Config) :
    Except PyError (CompiledKind CompiledGraph) :=
  match subflowOf entries with
  | some graph => do
    let sub ← readSub graph
    return .subflow (some sub)
  | none => .ok (.subflow none)

def parallelKind (readSub : ReadSub) (entries : Config) :
    Except PyError (CompiledKind CompiledGraph) := do
  let items :=
    match Dict.getItem entries "branches" with
    | some (.list items) => items
    | _ => []
  let branches ← items.mapM (readBranch readSub)
  return .parallel branches

def kindOf (readSub : ReadSub) (ntype : NodeType) (entries : Config) :
    Except PyError (CompiledKind CompiledGraph) :=
  match ntype with
  | .action => actionKind models entries
  | .waitEvent => .ok .waitEvent
  | .subflow => subflowKind readSub entries
  | .parallel => parallelKind readSub entries
  | .condition | .extractor | .delay => .ok .other

/-- An `id` that is given is the key of the node. -/
def checkId (nid : String) (entries : Config) : Except PyError Unit :=
  match Dict.getItem entries "id" with
  | none | some .none => .ok ()
  | some value =>
    if models.toStr value = nid then .ok ()
    else
      .error
        { name := "ValueError"
          message := "节点 ID 不一致: key '" ++ nid ++ "' vs id '" ++ models.toStr value ++ "'" }

/-- One entry of `nodes`.  What is no dictionary becomes at most a node without a class. -/
def readNode (readSub : ReadSub) (nid : String) :
    PyValue → Except PyError (CompiledNode CompiledGraph)
  | .dict entries => do
    checkId models nid entries
    let ntype ← nodeTypeOf models entries
    let kind ← kindOf models readSub ntype entries
    models.acceptsNode ntype entries
    return { source := .node entries, kind }
  | _ => .ok { source := .node [], kind := .other }

def rawNodes (data : Config) : Except PyError (Dict String PyValue) :=
  match Dict.getItem data "nodes" with
  | none => .ok []
  | some (.dict nodes) => .ok nodes
  | some _ => .error { name := "AttributeError", message := "object has no attribute 'items'" }

def readEntry (readSub : ReadSub) (entry : String × PyValue) :
    Except PyError (String × CompiledNode CompiledGraph) := do
  let node ← readNode models readSub entry.1 entry.2
  return (entry.1, node)

def fromDictWith (readSub : ReadSub) : ReadSub :=
  fun data => do
    let entries ← rawNodes data
    let nodes ← entries.mapM (readEntry models readSub)
    models.acceptsGraph data
    return { nodes }

/-- `from_dict` for dictionaries of at most so many levels. -/
def fromDictLevels : ℕ → ReadSub
  | 0 => fun _ => .error { name := "RecursionError" }
  | levels + 1 => fromDictWith models (fromDictLevels levels)

/-- `ExecutionGraph.from_dict`. -/
def fromDict : ReadSub :=
  fun data => fromDictLevels models (PyValue.dict data).depth data

/-! ### Depth -/

theorem depth_subflowOf {node graph : Config} (hsub : subflowOf node = some graph) :
    (PyValue.dict graph).depth < (PyValue.dict node).depth := by
  unfold subflowOf at hsub
  split at hsub
  · next found hget =>
    cases hsub
    exact PyValue.depth_lt_of_mem_dict (Dict.mem_of_getItem hget)
  · cases hsub

/-! ## Steps -/

/-- `action_from_step`. -/
def actionFromStep (actionType : Option SupportAction) (data : Config) : Except PyError RawAction :=
  match actionType with
  | none => .error { name := "WorkflowConfigError", message := "未知的动作类型" }
  | some action => do
    models.acceptsAction action data
    return { action, mode := getEntry data "mode" (.str "reactive") }

/-- An action node of a flow step.  One whose action cannot be made keeps its text. -/
def flowActionKind (actionType : Option SupportAction) (params config : Config) :
    CompiledKind CompiledGraph :=
  match actionFromStep models actionType (Dict.update config params) with
  | .ok rawAction => .action rawAction
  | .error _ =>
    .textAction ((actionType.map actionName).getD "SEND_TEXT") (Dict.update params config)

def flowSubflowKind (subflowGraph : Option Config) : Except PyError (CompiledKind CompiledGraph) :=
  match subflowGraph.filter fun graph => !graph.isEmpty with
  | some graph => do
    let sub ← fromDict models graph
    return .subflow (some sub)
  | none => .ok (.subflow none)

/-- `_build_node_from_flow_step`, and the part of `_from_workflow_steps` for other steps. -/
def buildNode (step : StepConfig) : Except PyError (CompiledKind CompiledGraph) :=
  match step with
  | .workflow _ actionType config => do
    let rawAction ← actionFromStep models (some actionType) config
    return .action rawAction
  | .flow _ nodeType actionType params config subflowGraph branches =>
    match nodeType with
    | .action => .ok (flowActionKind models actionType params (config.getD []))
    | .waitEvent => .ok .waitEvent
    | .subflow => flowSubflowKind models subflowGraph
    | .parallel => do
      let graphs ← branches.mapM (fromDict models)
      return .parallel graphs
    | .condition | .extractor | .delay => .ok .other

def StepConfig.stepId : StepConfig → String
  | .workflow stepId _ _ => stepId
  | .flow stepId _ _ _ _ _ _ => stepId

/-- The graph of a chat.  That the identifiers of its steps are distinct was checked before. -/
def compile : FlowSource → Except PyError CompiledGraph
  | .steps steps => do
    let nodes ← steps.mapM fun step => do
      let kind ← buildNode models step
      return (step.stepId, { source := .step step, kind })
    return { nodes }
  | .flowGraph [] =>
    .error { name := "GraphValidationError", message := "任务配置不合法：没有配置任何可执行动作" }
  | .flowGraph graph => fromDict models graph

end SignPulse.GraphData
