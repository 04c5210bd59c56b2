import SignPulse.Signer.ChatConfigs

/-!
# Graphs of chats

`GraphNormalizer.compile` for a chat, with all that is in a node: a graph is made of the chat's
linear actions, of its steps or of its `flow_graph`, and checked.  What a setting that was not
given explicitly stands for is read from the environment.
-/

namespace SignPulse.ChatGraphs

open Foundation
open FlowModels (PyError SupportAction TerminalPolicy ParallelMode LoopPolicy
  TERMINAL_COMPLETE_ID TERMINAL_FAIL_ID pyOr pyOrElse)
open TargetAliases (resolveSentinelId)
open GraphData (NodeType actionName)
open ChatCompiler (stepId waitId AI_ACTION_TYPES)
open ChainedRuns (Config getEntry isTrue)
open ChatConfigs

/-! ## Settings -/

def DEFAULT_RETRY_KEYWORDS : List String :=
  ["再试", "重试", "稍后", "人数较多", "繁忙", "请 10 秒后"]

/-- `_env_int`.  `intOf` is `int` of a text. -/
def envInt (intOf : String → Option ℤ) (value : Option String) (default minimum maximum : ℤ) : ℤ :=
  max minimum (min maximum ((value.bind intOf).getD default))

/-- `re.split(r"[\n,]+", raw)`, up to empty parts. -/
def splitKeywords : List Char → List Char → List String
  | part, [] => [String.ofList part.reverse]
  | part, char :: rest =>
    if char = '\n' ∨ char = ',' then String.ofList part.reverse :: splitKeywords [] rest
    else splitKeywords (char :: part) rest

/-- `parse_retry_keywords`, of an environment variable. -/
def parseRetryKeywords (raw : Option String) : List String :=
  let parts := (raw.map fun text => splitKeywords [] text.toList).getD []
  match (parts.map pyStrip).filter (· ≠ "") with
  | [] => DEFAULT_RETRY_KEYWORDS
  | keywords => keywords

/-- The reply and retry settings in force, in their ranges, and the timeouts of actions. -/
structure Settings where
  replyTimeout : ℤ
  retryKeywords : List String
  retryInterval : ℤ
  retryMaxAttempts : ℤ
  actionTimeout : ℚ := 25
  aiActionTimeout : ℚ := 60
  replyTimeout_mem : 30 ≤ replyTimeout ∧ replyTimeout ≤ 3600
  retryKeywords_ne_nil : retryKeywords ≠ []
  retryInterval_mem : 1 ≤ retryInterval ∧ retryInterval ≤ 300
  retryMaxAttempts_mem : 0 ≤ retryMaxAttempts ∧ retryMaxAttempts ≤ 10

theorem envInt_mem {intOf : String → Option ℤ} {value : Option String}
    {default minimum maximum : ℤ} (hrange : minimum ≤ maximum) :
    minimum ≤ envInt intOf value default minimum maximum ∧
      envInt intOf value default minimum maximum ≤ maximum := by
  unfold envInt
  omega

theorem parseRetryKeywords_ne_nil (raw : Option String) : parseRetryKeywords raw ≠ [] := by
  simp only [parseRetryKeywords]
  split
  · exact List.cons_ne_nil _ _
  · next hfilled => exact hfilled

/-- `read_positive_float_env`. -/
def readPositiveFloatEnv (floatOf : String → Option ℚ) (value : Option String)
    (default minimum : ℚ) : ℚ :=
  match value.bind floatOf with
  | some number => max number minimum
  | none => default

/-- What the getters of `reply_settings` and the compiler read. -/
def Settings.ofEnvironment (intOf : String → Option ℤ) (floatOf : String → Option ℚ)
    (getenv : String → Option String) : Settings where
  replyTimeout := envInt intOf (getenv "SIGN_TASK_REPLY_TIMEOUT") 90 30 3600
  retryKeywords := parseRetryKeywords (getenv "SIGN_TASK_RETRY_KEYWORDS")
  retryInterval := envInt intOf (getenv "SIGN_TASK_RETRY_INTERVAL") 10 1 300
  retryMaxAttempts := envInt intOf (getenv "SIGN_TASK_RETRY_MAX_ATTEMPTS") 3 0 10
  actionTimeout := readPositiveFloatEnv floatOf (getenv "SIGN_TASK_ACTION_TIMEOUT") 25 5
  aiActionTimeout := readPositiveFloatEnv floatOf (getenv "SIGN_TASK_AI_ACTION_TIMEOUT") 60 10
  replyTimeout_mem := envInt_mem (by decide)
  retryKeywords_ne_nil := parseRetryKeywords_ne_nil _
  retryInterval_mem := envInt_mem (by decide)
  retryMaxAttempts_mem := envInt_mem (by decide)

/-! ## Nodes -/

structure RetryPolicy where
  maxAttempts : ℤ := 1
  backoffSeconds : ℚ := 1
  backoffMultiplier : ℚ := 2
  maxBackoffSeconds : ℚ := 15
  retryOnExceptions : List String := []

/-- The `metadata` of a node: the entries that are data, the action and the step.  Model objects
are equal when their fields are, whichever of them were given. -/
structure Metadata where
  entries : Config := []
  rawAction : Option SignAction := none
  workflowStep : Option StepConfig := none

structure WaitEvent where
  eventType : String
  filterPatterns : List String := []
  successPatterns : List String
  failurePatterns : List String
  semanticResult : Option Config
  retryKeywords : List String
  retryInterval : ℚ
  maxRetries : ℤ
  actionNodeId : Option String

/-- What a node is, over the type `G` of nested graphs. -/
inductive NodeKind (G : Type) where
  | action (actionType : String) (params : Config)
  | waitEvent (event : WaitEvent)
  | condition (cases : List (String × Option String)) (defaultTargetId : Option String)
  | delay (seconds : ℚ)
  | extractor (sourceField regex : String) (exportVars : Dict String String)
  | subflow (subflowGraph : Option G) (subflowId : Option String)
      (inputVars outputVars : Dict String String)
  | parallel (branches : List G) (mode : ParallelMode) (maxConcurrency : Option ℤ)
      (joinStrategy : String)

structure GraphNode (G : Type) where
  id : String
  name : String
  nextNodeId : Option String
  onFailureNodeId : Option String
  terminalPolicy : TerminalPolicy := .ignore
  terminalBranchTarget : Option String := none
  retryPolicy : RetryPolicy := {}
  loopPolicy : LoopPolicy := {}
  timeoutSeconds : ℚ
  runIf : Option String := none
  skipIf : Option String := none
  metadata : Metadata
  kind : NodeKind G

structure ChatGraph where
  entryNodeId : String
  nodes : List (String × GraphNode ChatGraph)
  maxTotalSteps : ℤ := 30
  errorHandlerNodeId : Option String := none
  resumeFromNodeId : Option String := none
  consecutiveFailureLimit : Option ℤ := none

abbrev ChatNode := GraphNode ChatGraph

/-- What the model classes make of dictionaries and values, and `validate_graph`. -/
structure Models where
  retryPolicy : Config → Except PyError RetryPolicy
  loopPolicy : Config → Except PyError LoopPolicy
  /-- `ExecutionGraph.from_dict`. -/
  fromDict : Config → Except PyError ChatGraph
  /-- The class of `ACTION_MODEL_MAP`, called with the data of a step. -/
  actionOf : SupportAction → Config → Except PyError SignAction
  /-- `str(value)` and `float(value)`. -/
  strOf : PyValue → String
  floatOf : PyValue → Option ℚ
  /-- A value for a field that is an optional text. -/
  textOf : PyValue → Except PyError (Option String)
  validate : ChatGraph → Except PyError Unit

def ofText : Option String → PyValue
  | some text => .str text
  | none => .none

def ofInt : Option ℤ → PyValue
  | some value => .int value
  | none => .none

def setDefault (d : Config) (key : String) (value : PyValue) : Config :=
  if Dict.hasKey d key then d else Dict.setItem d key value

/-- `metadata.setdefault("retry_entry_node_id", entry_id)`, for the nodes that wait. -/
def withRetryEntry (entryId : String) (node : ChatNode) : ChatNode :=
  match node.kind with
  | .waitEvent _ =>
    { node with
      metadata :=
        { node.metadata with
          entries := setDefault node.metadata.entries "retry_entry_node_id" (.str entryId) } }
  | _ => node

/-! ## Actions -/

/-- The type of an action, and the parameters of its class. -/
def kindParams : ActionKind → String × Config
  | .sendText text => ("SEND_TEXT", [("text", .str text)])
  | .sendDice dice => ("SEND_DICE", [("dice", .str dice)])
  | .clickKeyboardByText text => ("CLICK_KEYBOARD_BY_TEXT", [("text", .str text)])
  | .chooseOptionByImage aiPrompt => ("CHOOSE_OPTION_BY_IMAGE", [("ai_prompt", ofText aiPrompt)])
  | .clickButtonByCalculationProblem aiPrompt =>
    ("CLICK_BUTTON_BY_CALCULATION", [("ai_prompt", ofText aiPrompt)])
  | .replyByCalculationProblem aiPrompt =>
    ("REPLY_BY_CALCULATION", [("ai_prompt", ofText aiPrompt)])
  | .replyByImageRecognition aiPrompt =>
    ("REPLY_BY_IMAGE_RECOGNITION", [("ai_prompt", ofText aiPrompt)])
  | .keywordNotify fields => ("KEYWORD_NOTIFY", [("keywords", getEntry fields "keywords")])
  | .plugin fields =>
    ("PLUGIN",
      [("plugin_name", getEntry fields "plugin_name"), ("mode", getEntry fields "mode"),
        ("timeout", getEntry fields "timeout"), ("params", getEntry fields "params")])

/-- `_extract_action_type_and_params`. -/
def extractActionTypeAndParams (act : SignAction) : String × Config :=
  let (actionType, params) := kindParams act.kind
  let params :=
    match act.delay with
    | some delay => Dict.setItem params "delay" (.str delay)
    | none => params
  (actionType, Dict.update params
      [("skip_if_matched", ofText act.skipIfMatched),
        ("continue_on_error", .bool act.continueOnError),
        ("stop_flow_on_terminal", .bool act.stopFlowOnTerminal)])

/-- `timeout` of an action: only a plugin has one. -/
def ownTimeout (act : SignAction) : Option ℚ :=
  match act.kind with
  | .plugin fields => (getEntry fields "timeout").number?
  | _ => none

variable (models : Models) (settings : Settings)

def defaultTimeout (actionType : String) : ℚ :=
  if actionType ∈ AI_ACTION_TYPES then max settings.actionTimeout settings.aiActionTimeout
  else settings.actionTimeout

/-- `_explicit_setting`, for an object. -/
def explicitSetting {α : Type} (fieldsSet : List String) (key : String) (value : α) : Option α :=
  if key ∈ fieldsSet then some value else none

def clampTimeout (seconds : ℚ) : ℚ :=
  max 30 (min 3600 seconds)

def clampInterval (seconds : ℚ) : ℚ :=
  max 1 (min 300 seconds)

def clampAttempts (attempts : ℤ) : ℤ :=
  max 0 (min 10 attempts)

/-- What the settings decide of a node that waits. -/
structure WaitPolicy where
  timeoutSeconds : ℚ
  retryKeywords : List String
  retryInterval : ℚ
  maxRetries : ℤ

def replyPolicy (act : SignAction) : WaitPolicy :=
  let explicit {α : Type} (key : String) (value : α) := explicitSetting act.fieldsSet key value
  { timeoutSeconds :=
      clampTimeout
        ((explicit "reply_timeout_seconds" act.replyTimeoutSeconds).getD settings.replyTimeout)
    retryKeywords :=
      (explicit "reply_retry_keywords" act.replyRetryKeywords).getD settings.retryKeywords
    retryInterval :=
      clampInterval
        ((explicit "reply_retry_interval" act.replyRetryInterval).getD settings.retryInterval)
    maxRetries :=
      clampAttempts
        ((explicit "reply_retry_max_attempts" act.replyRetryMaxAttempts).getD
          settings.retryMaxAttempts) }

/-- `next_action_id`. -/
def nextActionId (total index : ℕ) : String :=
  if index + 1 < total then stepId (index + 1) else TERMINAL_COMPLETE_ID

/-- `effective_next_id`. -/
def effectiveNextId (total index : ℕ) (act : SignAction) : String :=
  if act.waitForReply then waitId index else nextActionId total index

def actionNode (total index : ℕ) (act : SignAction) : ChatNode :=
  let (actionType, params) := extractActionTypeAndParams act
  { id := stepId index
    name := "Action-" ++ toString (index + 1)
    nextNodeId := some (effectiveNextId total index act)
    onFailureNodeId :=
      some (if act.continueOnError then effectiveNextId total index act else TERMINAL_FAIL_ID)
    terminalPolicy := if act.stopFlowOnTerminal then .stopFlow else .ignore
    timeoutSeconds :=
      match ownTimeout act with
      | some seconds => max 5 seconds
      | none => defaultTimeout settings actionType
    metadata := { rawAction := some act.values }
    kind := .action actionType params }

def waitNode (chat : SignChatV3) (total index : ℕ) (act : SignAction) : ChatNode :=
  let policy := replyPolicy settings act
  { id := waitId index
    name := "等待机器人回复"
    nextNodeId := some (nextActionId total index)
    onFailureNodeId := some TERMINAL_FAIL_ID
    timeoutSeconds := policy.timeoutSeconds
    metadata :=
      { entries :=
          [("chat_id", .int chat.chatId), ("chat_name", ofText chat.name),
            ("message_thread_id", ofInt chat.messageThreadId),
            ("action_node_id", .str (stepId index))] }
    kind := .waitEvent
      { eventType := "ANY"
        successPatterns := act.replySuccessPatterns
        failurePatterns := act.replyFailurePatterns
        semanticResult := act.semanticResult
        retryKeywords := policy.retryKeywords
        retryInterval := policy.retryInterval
        maxRetries := policy.maxRetries
        actionNodeId := some (stepId index) } }

def actionNodes (chat : SignChatV3) (total : ℕ) (item : SignAction × ℕ) :
    List (String × ChatNode) :=
  let (act, index) := item
  (stepId index, actionNode settings total index act) :: if act.waitForReply then
      [(waitId index, withRetryEntry (stepId 0) (waitNode settings chat total index act))]
    else []

/-- `_from_linear_actions`, up to the check. -/
def fromLinearActions (chat : SignChatV3) : Except PyError ChatGraph :=
  let actions := chat.actions.getD []
  if actions.isEmpty then
    .error { name := "GraphValidationError", message := "任务配置不合法：没有配置任何可执行动作" }
  else
    .ok
      { entryNodeId := stepId 0
        nodes :=
          Dict.update [] (actions.zipIdx.flatMap (actionNodes settings chat actions.length)) }

/-! ## Steps -/

/-- `action_from_step`.  The data is the step's `config`, updated with its `params`. -/
def actionFromStep (stepId : String) (actionType : Option SupportAction) (data : Config) :
    Except PyError SignAction :=
  match actionType with
  | none =>
    .error
      { name := "WorkflowConfigError"
        message := "步骤 '" ++ stepId ++ "' 未知的动作类型: None" }
  | some action => models.actionOf action data

def terminalPolicyOf (text : String) : TerminalPolicy :=
  if pyLower text = "stop_flow" then .stopFlow
  else if pyLower text = "branch_to" then .branchTo
  else .ignore

/-- `_resolve_sentinel_id` of an entry of a `config`. -/
def resolveEntry (value : PyValue) : Except PyError (Option String) :=
  match value with
  | .str text => .ok (resolveSentinelId (some text))
  | value =>
    if isTrue value then
      .error { name := "AttributeError", message := "object has no attribute 'strip'" }
    else .ok none

/-- `left or right`. -/
def orElse (left right : PyValue) : PyValue :=
  if isTrue left then left else right

/-- The timeout of a step's `config`, where it has one that is a number. -/
def configTimeout (config : Config) : Option ℚ :=
  if Dict.hasKey config "timeout" || Dict.hasKey config "timeout_seconds" then
    models.floatOf (orElse (getEntry config "timeout") (getEntry config "timeout_seconds"))
  else none

def workflowNode (step : WorkflowStepConfig) : Except PyError ChatNode := do
  let rawAct ← actionFromStep models step.stepId (some step.actionType) step.config
  let (actionType, params) := extractActionTypeAndParams rawAct
  let isStopOnTerm :=
    rawAct.stopFlowOnTerminal || isTrue (getEntry step.config "stop_flow_on_terminal")
  let rawPolicy := getEntry step.config "terminal_policy"
  let terminalBranchTarget ← resolveEntry (getEntry step.config "terminal_branch_target")
  let runIf ← models.textOf (orElse (getEntry step.config "run_if")
    (getEntry step.config "condition"))
  let skipIf ← models.textOf (getEntry step.config "skip_if")
  return {
    id := step.stepId
    name := "Step-" ++ step.stepId
    nextNodeId := resolveSentinelId step.nextStepId
    onFailureNodeId := resolveSentinelId step.onFailureStepId
    terminalPolicy :=
      terminalPolicyOf
        (if isTrue rawPolicy then models.strOf rawPolicy
          else if isStopOnTerm then "stop_flow" else "ignore")
    terminalBranchTarget
    loopPolicy :=
      { allowLoop := step.allowLoop
        maxVisits :=
          match step.maxRetries with
          | some retries => if step.allowLoop then retries + 1 else 1
          | none => 1 }
    timeoutSeconds :=
      match configTimeout models step.config with
      | some seconds => max 5 seconds
      | none => defaultTimeout settings actionType
    runIf
    skipIf
    metadata :=
      { rawAction := some rawAct.values
        workflowStep := some (.workflow step) }
    kind := .action actionType (Dict.update params step.config) }

/-- `step.node_type.value.capitalize()`. -/
def nodeTypeTitle : NodeType → String
  | .action => "Action"
  | .waitEvent => "Wait_event"
  | .condition => "Condition"
  | .extractor => "Extractor"
  | .delay => "Delay"
  | .subflow => "Subflow"
  | .parallel => "Parallel"

def eventPolicy (step : FlowStepConfig) : WaitPolicy :=
  let explicit {α : Type} (key : String) (value : α) := explicitSetting step.fieldsSet key value
  { timeoutSeconds :=
      clampTimeout
        (((explicit "timeout_seconds" step.timeoutSeconds).filter (0 < ·)).getD
          settings.replyTimeout)
    retryKeywords := (explicit "retry_keywords" step.retryKeywords).getD settings.retryKeywords
    retryInterval :=
      clampInterval ((explicit "retry_interval" step.retryInterval).getD settings.retryInterval)
    maxRetries :=
      clampAttempts ((explicit "max_retries" step.maxRetries).getD settings.retryMaxAttempts) }

/-- `_resolve_flow_step_timeout`. -/
def resolveFlowStepTimeout (step : FlowStepConfig) : ℚ :=
  let seconds := if step.timeoutSeconds ≤ 0 then settings.actionTimeout else step.timeoutSeconds
  match step.nodeType with
  | .waitEvent => (eventPolicy settings step).timeoutSeconds
  | .action =>
    match step.actionType with
    | some action =>
      if actionName action ∈ AI_ACTION_TYPES then max seconds settings.aiActionTimeout
      else seconds
    | none => seconds
  | _ => seconds

def flowAction (step : FlowStepConfig) : Metadata × NodeKind ChatGraph :=
  let config := step.config.getD []
  let metadata (rawAction : Option SignAction) : Metadata :=
    { rawAction
      workflowStep := some (StepConfig.values (.flow step)) }
  match actionFromStep models step.stepId step.actionType (Dict.update config step.params) with
  | .ok rawAct =>
    let (actionType, params) := extractActionTypeAndParams rawAct
    (metadata (some rawAct.values), .action actionType (Dict.update params config))
  | .error _ =>
    (metadata none, .action ((step.actionType.map actionName).getD "SEND_TEXT")
        (Dict.update step.params config))

def flowEvent (step : FlowStepConfig) : NodeKind ChatGraph :=
  let policy := eventPolicy settings step
  .waitEvent
    { eventType := if step.eventType = "" then "ANY" else step.eventType
      filterPatterns := step.filterPatterns
      successPatterns := step.successPatterns
      failurePatterns := step.failurePatterns
      semanticResult := step.semanticResult
      retryKeywords := policy.retryKeywords
      retryInterval := policy.retryInterval
      maxRetries := policy.maxRetries
      actionNodeId := step.actionNodeId }

/-- What a node that waits is told of its chat, besides what its metadata has. -/
def withChat (chat : SignChatV3) (entries : Config) : Config :=
  let entries := setDefault entries "chat_id" (.int chat.chatId)
  let entries := setDefault entries "chat_name" (ofText chat.name)
  match chat.messageThreadId with
  | some threadId => setDefault entries "message_thread_id" (.int threadId)
  | none => entries

/-- `ParallelMode(mode_str)`, or all. -/
def parallelModeOf (text : String) : ParallelMode :=
  match pyLower (if text = "" then "all" else text) with
  | "any" => .any
  | "all_settled" => .allSettled
  | _ => .all

/-- The part of `_build_node_from_flow_step` that depends on the type of the node. -/
def flowKind (chat : SignChatV3) (step : FlowStepConfig) :
    Except PyError (Metadata × NodeKind ChatGraph) :=
  match step.nodeType with
  | .action => .ok (flowAction models step)
  | .waitEvent => .ok ({ entries := withChat chat [] }, flowEvent settings step)
  | .condition =>
    let parsedCases := step.cases.map fun entry =>
      ((Dict.getItem entry "condition").getD "", resolveSentinelId (Dict.getItem entry "target_id"))
    .ok ({}, .condition parsedCases (resolveSentinelId step.defaultTargetId))
  | .delay => .ok ({}, .delay (if step.delaySeconds = 0 then 1 else step.delaySeconds))
  | .extractor =>
    let exportVars :=
      match step.exportVars, step.variableName.filter (· ≠ "") with
      | [], some name => [("1", name)]
      | exportVars, _ => exportVars
    .ok ({}, .extractor step.sourceField step.regex exportVars)
  | .subflow => do
    let given := step.subflowGraph.filter fun graph => !graph.isEmpty
    let subflowGraph ← given.mapM models.fromDict
    let kind := NodeKind.subflow subflowGraph step.subflowId step.inputVars step.outputVars
    return ({}, kind)
  | .parallel => do
    let branches ← step.branches.mapM models.fromDict
    let mode := parallelModeOf step.parallelMode
    return ({}, .parallel branches mode step.maxConcurrency step.joinStrategy)

def stepRetryPolicy (step : FlowStepConfig) : Except PyError RetryPolicy :=
  if step.retryPolicy.isEmpty then .ok {} else models.retryPolicy step.retryPolicy

def stepLoopPolicy (step : FlowStepConfig) : Except PyError LoopPolicy :=
  if step.loopPolicy.isEmpty then .ok {} else models.loopPolicy step.loopPolicy

/-- `_build_node_from_flow_step`. -/
def buildNodeFromFlowStep (chat : SignChatV3) (step : FlowStepConfig) :
    Except PyError ChatNode := do
  let retryPolicy ← stepRetryPolicy models step
  let loopPolicy ← stepLoopPolicy models step
  let (metadata, kind) ← flowKind models settings chat step
  return {
    id := step.stepId
    name := pyOrElse step.name (nodeTypeTitle step.nodeType ++ "-" ++ step.stepId)
    nextNodeId := resolveSentinelId step.nextStepId
    onFailureNodeId := resolveSentinelId step.onFailureStepId
    terminalPolicy := terminalPolicyOf step.terminalPolicy
    terminalBranchTarget := resolveSentinelId step.terminalBranchTarget
    retryPolicy
    loopPolicy
    timeoutSeconds := resolveFlowStepTimeout settings step
    runIf := step.runIf
    skipIf := step.skipIf
    metadata
    kind }

def stepNode (chat : SignChatV3) : StepConfig → Except PyError ChatNode
  | .workflow step => workflowNode models settings step
  | .flow step => buildNodeFromFlowStep models settings chat step

/-- `initial_step_id`, or the first step. -/
def entryIdOf (chat : SignChatV3) (steps : List StepConfig) : String :=
  pyOrElse chat.initialStepId ((steps.head?.map StepConfig.stepId).getD TERMINAL_COMPLETE_ID)

def stepEntry (chat : SignChatV3) (entryId : String) (step : StepConfig) :
    Except PyError (String × ChatNode) := do
  let node ← stepNode models settings chat step
  return (step.stepId, withRetryEntry entryId node)

def maxTotalSteps (nodes : List (String × ChatNode)) : ℤ :=
  max 60 (nodes.length * 2)

/-- `_from_workflow_steps`, up to the check. -/
def fromWorkflowSteps (chat : SignChatV3) (steps : List StepConfig) : Except PyError ChatGraph := do
  let entryId := entryIdOf chat steps
  let entries ← steps.mapM (stepEntry models settings chat entryId)
  let nodes := Dict.update [] entries
  return { entryNodeId := entryId, nodes, maxTotalSteps := maxTotalSteps nodes }

/-! ## Graphs -/

def chatNode (chat : SignChatV3) (node : ChatNode) : ChatNode :=
  match node.kind with
  | .waitEvent _ =>
    { node with
      metadata := { node.metadata with entries := withChat chat node.metadata.entries } }
  | _ => node

/-- `_from_flow_graph`, up to the check. -/
def fromFlowGraph (chat : SignChatV3) (rawGraph : Config) : Except PyError ChatGraph := do
  let graph ← models.fromDict rawGraph
  let nodes := graph.nodes.map fun entry => (entry.1, chatNode chat entry.2)
  return { graph with nodes, maxTotalSteps := maxTotalSteps nodes }

/-- The source that is compiled: an empty one is passed over. -/
def buildGraph (chat : SignChatV3) : Except PyError ChatGraph :=
  match chat.flowGraph.filter (fun graph => !graph.isEmpty),
    chat.steps.filter (fun steps => !steps.isEmpty) with
  | some rawGraph, _ => fromFlowGraph models chat rawGraph
  | none, some steps => fromWorkflowSteps models settings chat steps
  | none, none => fromLinearActions settings chat

/-- `GraphNormalizer.compile`, for a chat. -/
def compile (chat : SignChatV3) : Except PyError ChatGraph := do
  let graph ← buildGraph models settings chat
  models.validate graph
  return graph

end SignPulse.ChatGraphs
