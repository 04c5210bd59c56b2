import SignPulse.Foundation.PyText
import SignPulse.Foundation.PyValue

/-!
# Flow graphs

The data model of `flow_models.py`: nodes, execution graphs, step outcomes and
the events and errors they carry.  Entries of `metadata` and of
`semantic_result` that the engine reads are fields of the node they belong to.
Durations, backoff lengths and display names are left out: no decision of the
engine depends on them except through the clock, which belongs to the
environment of a run.
-/

namespace SignPulse.FlowModels

open Foundation

def TERMINAL_COMPLETE_ID : String := "_TERMINAL_COMPLETE"
def TERMINAL_FAIL_ID : String := "_TERMINAL_FAIL"

def MAX_NODES_PER_GRAPH : ℕ := 50
def MAX_SUBFLOW_DEPTH : ℕ := 3
def MAX_PARALLEL_BRANCHES : ℕ := 10
def MAX_TOTAL_TASK_NODES : ℕ := 150

/-- Truth value of an optional string: present and not empty. -/
def truthy : Option String → Bool
  | some text => text != ""
  | none => false

/-- `left or right` of two optional strings. -/
def pyOr (left right : Option String) : Option String :=
  if truthy left then left else right

/-- `left or right` where the right operand is never absent. -/
def pyOrElse (left : Option String) (right : String) : String :=
  (pyOr left (some right)).getD right

theorem pyOr_some {text : String} (htext : text ≠ "") (other : Option String) :
    pyOr (some text) other = some text := by
  simp [pyOr, truthy, htext]

theorem pyOr_of_not_truthy {first : Option String} (hfirst : truthy first = false)
    (other : Option String) : pyOr first other = other := by
  simp [pyOr, hfirst]

inductive NodeStatus where
  | pending | running | success | terminalEarly | failed | skipped | timeout
  deriving DecidableEq, Repr

inductive FlowSignal where
  | proceed | haltSuccess | haltFail | branch | retryNode
  deriving DecidableEq, Repr

inductive TerminalPolicy where
  | ignore | stopFlow | branchTo
  deriving DecidableEq, Repr

inductive ParallelMode where
  | all | any | allSettled
  deriving DecidableEq, Repr

inductive VariableConflictPolicy where
  | fail | firstWriter | lastWriter | collect
  deriving DecidableEq, Repr

/-- The `business_status` of a result and of a step's details. -/
inductive BusinessStatus where
  | confirmed | unknown | partialResult | failed | notEvaluated
  deriving DecidableEq, Repr

/-- An exception: the class name, its text, and the attributes that the engine
and the executor look up on it.  `floodWait` is the wait in seconds that
`_extract_flood_wait_seconds` finds on it. -/
structure PyError where
  name : String
  message : String := ""
  isTimeout : Bool := false
  isTypeError : Bool := false
  nonRetryable : Bool := false
  failureCode : Option String := none
  semanticDisposition : Option String := none
  floodWait : Option ℤ := none
  deriving DecidableEq, Repr

/-- The entries of `details` that some decision reads. -/
structure StepDetails where
  failureCategory : Option String := none
  semanticDisposition : Option String := none
  retryFlowRestart : Bool := false
  businessStatus : Option BusinessStatus := none
  deriving DecidableEq, Repr

structure StepOutcome where
  nodeId : String
  status : NodeStatus
  outputText : String := ""
  extractedVars : Dict String PyValue := []
  matchedTerminal : Bool := false
  signal : FlowSignal := .proceed
  targetNodeId : Option String := none
  error : Option PyError := none
  updatesLastOutput : Bool := true
  details : StepDetails := {}

/-- `max_attempts` and `retry_on_exceptions`; an empty list allows every
exception. -/
structure RetryPolicy where
  maxAttempts : ℤ := 1
  retryOnExceptions : List String := []
  deriving DecidableEq, Repr

structure LoopPolicy where
  allowLoop : Bool := false
  maxVisits : ℤ := 1
  deriving DecidableEq, Repr

/-- A chat is named by its number or by a user name. -/
inductive ChatId where
  | number (id : ℤ)
  | username (text : String)
  deriving DecidableEq, Repr

namespace ChatId

/-- `str(chat_id)`. -/
def toStr : ChatId → String
  | .number id => toString id
  | .username text => text

def truthy : ChatId → Bool
  | .number id => id != 0
  | .username text => text != ""

end ChatId

/-- `TelegramMessageEvent`. -/
structure TelegramMessageEvent where
  chatId : ℤ
  messageThreadId : Option ℤ := none
  messageId : ℤ
  senderId : Option ℤ := none
  eventType : String := "NEW_MESSAGE"
  text : String
  occurredAt : ℚ
  isOutgoing : Bool := false
  deriving DecidableEq

inductive SupportAction where
  | sendText | sendDice | clickKeyboardByText | chooseOptionByImage
  | replyByCalculationProblem | replyByImageRecognition
  | clickButtonByCalculationProblem | keywordNotify | customPlugin
  deriving DecidableEq, Repr

/-- `SignAction`: the fields that the compiler and the executor read.  The
reply settings are `none` where they were not set explicitly. -/
structure SignAction where
  action : SupportAction := .sendText
  continueOnError : Bool := false
  stopFlowOnTerminal : Bool := false
  waitForReply : Bool := false
  runIf : Option String := none
  skipIf : Option String := none
  replySuccessPatterns : List String := []
  replyFailurePatterns : List String := []
  replyRetryKeywords : Option (List String) := none
  replyRetryMaxAttempts : Option ℤ := none
  replyTimeoutSeconds : Option ℚ := none
  timeout : Option ℚ := none
  semanticMode : Option String := none
  deriving DecidableEq, Repr

structure ConditionCase where
  condition : String := ""
  targetId : Option String := none
  deriving DecidableEq, Repr

/-- The fields of `WaitEventNode`.  The entries from `chatId` on are those of
its `metadata`; `semanticMode` is `semantic_result["mode"]`. -/
structure WaitEventConfig where
  eventType : String := "NEW_MESSAGE"
  filterPatterns : List String := []
  successPatterns : List String := []
  failurePatterns : List String := []
  semanticMode : Option String := none
  retryKeywords : List String := []
  maxRetries : ℤ := 3
  actionNodeId : Option String := none
  chatId : Option ChatId := none
  messageThreadId : Option ℤ := none
  minMessageId : Option ℤ := none
  sinceTimestamp : Option ℚ := none
  senderId : Option ℤ := none
  retryEntryNodeId : Option String := none
  deriving DecidableEq

structure ExtractorConfig where
  sourceField : String := "prev.output"
  regex : String := ""
  exportVars : Dict String String := []
  extractJson : Bool := false
  required : Bool := false
  deriving DecidableEq

/-- `input_vars`, `output_vars` and `export_vars` of a subflow node. -/
structure SubflowVars where
  inputVars : Dict String String := []
  outputVars : Dict String String := []
  exportVars : List String := []
  deriving DecidableEq

/-- What a node is, over the type `G` of nested graphs. -/
inductive NodeKind (G : Type) where
  | action (rawAction : Option SignAction)
  | waitEvent (config : WaitEventConfig)
  | condition (cases : List ConditionCase) (defaultTargetId : Option String)
  | extractor (config : ExtractorConfig)
  | delay
  | subflow (subflowGraph : Option G) (vars : SubflowVars)
  | parallel (branches : List G) (mode : ParallelMode) (joinStrategy : String)
      (variableConflictPolicy : VariableConflictPolicy)
  | base

/-- `BaseFlowNode`, with the part that depends on the node type in `kind`. -/
structure FlowNode (G : Type) where
  id : String
  nextNodeId : Option String := none
  onFailureNodeId : Option String := none
  terminalPolicy : TerminalPolicy := .ignore
  terminalBranchTarget : Option String := none
  retryPolicy : RetryPolicy := {}
  loopPolicy : LoopPolicy := {}
  timeoutSeconds : ℚ := 25
  runIf : Option String := none
  skipIf : Option String := none
  kind : NodeKind G := .action none

structure ExecutionGraph where
  entryNodeId : String
  nodes : List (String × FlowNode ExecutionGraph)
  maxTotalSteps : ℤ := 30
  errorHandlerNodeId : Option String := none
  resumeFromNodeId : Option String := none
  consecutiveFailureLimit : Option ℤ := none

abbrev Node := FlowNode ExecutionGraph

def subgraphs (node : Node) : List ExecutionGraph :=
  match node.kind with
  | .subflow (some graph) _ => [graph]
  | .parallel branches _ _ _ => branches
  | _ => []

def isWaitEvent (node : Node) : Bool :=
  match node.kind with
  | .waitEvent _ => true
  | _ => false

def isAction (node : Node) : Bool :=
  match node.kind with
  | .action _ => true
  | _ => false

/-! ## Nesting depth -/

mutual

/-- The number of graph levels: one for a graph without nested graphs. -/
def ExecutionGraph.depth : ExecutionGraph → ℕ
  | ⟨_, nodes, _, _, _, _⟩ => nodesDepth nodes + 1

def nodesDepth : List (String × FlowNode ExecutionGraph) → ℕ
  | [] => 0
  | (_, ⟨_, _, _, _, _, _, _, _, _, _, kind⟩) :: rest =>
    max (kindDepth kind) (nodesDepth rest)

def kindDepth : NodeKind ExecutionGraph → ℕ
  | .subflow (some graph) _ => graph.depth
  | .parallel branches _ _ _ => graphsDepth branches
  | _ => 0

def graphsDepth : List ExecutionGraph → ℕ
  | [] => 0
  | graph :: rest => max graph.depth (graphsDepth rest)

end

theorem depth_eq (graph : ExecutionGraph) : graph.depth = nodesDepth graph.nodes + 1 := by
  cases graph
  rfl

variable {graph : ExecutionGraph} {node : Node}

theorem depth_le_graphsDepth {graphs : List ExecutionGraph} (hmem : graph ∈ graphs) :
    graph.depth ≤ graphsDepth graphs := by
  induction graphs with
  | nil => simp at hmem
  | cons head rest ih =>
    rw [graphsDepth]
    rcases List.mem_cons.mp hmem with rfl | hrest
    · exact le_max_left _ _
    · exact (ih hrest).trans (le_max_right _ _)

theorem depth_le_kindDepth (hmem : graph ∈ subgraphs node) : graph.depth ≤ kindDepth node.kind := by
  unfold subgraphs at hmem
  split at hmem
  · next inner _ hkind =>
    rw [hkind, kindDepth, List.mem_singleton.mp hmem]
  · next branches _ _ _ hkind =>
    rw [hkind, kindDepth]
    exact depth_le_graphsDepth hmem
  · simp at hmem

theorem kindDepth_le_nodesDepth {nodes : Dict String (FlowNode ExecutionGraph)}
    (hmem : node ∈ Dict.valueList nodes) :
    kindDepth node.kind ≤ nodesDepth nodes := by
  induction nodes with
  | nil => simp [Dict.valueList] at hmem
  | cons item rest ih =>
    obtain ⟨key, head⟩ := item
    rw [nodesDepth]
    rcases List.mem_cons.mp hmem with rfl | hrest
    · exact le_max_left _ _
    · exact (ih hrest).trans (le_max_right _ _)

theorem depth_lt_of_mem_subgraphs {inner : ExecutionGraph}
    (hnode : node ∈ Dict.valueList graph.nodes) (hinner : inner ∈ subgraphs node) :
    inner.depth < graph.depth := by
  have hkind := depth_le_kindDepth hinner
  have hnodes := kindDepth_le_nodesDepth hnode
  rw [depth_eq graph]
  omega

theorem graph_induction {Claim : ExecutionGraph → Prop}
    (hstep : ∀ graph : ExecutionGraph,
      (∀ node ∈ Dict.valueList graph.nodes, ∀ inner ∈ subgraphs node, Claim inner) → Claim graph) :
    ∀ graph : ExecutionGraph, Claim graph := by
  intro graph
  induction hdepth : graph.depth using Nat.strongRecOn generalizing graph with
  | ind depth ih =>
    apply hstep graph
    intro node hnode inner hinner
    have hlt := depth_lt_of_mem_subgraphs hnode hinner
    exact ih inner.depth (hdepth ▸ hlt) inner rfl

/-- What is defined by levels of nesting does not depend on the levels above the depth of a graph,
so it is defined by recursion on the nested graphs. -/
theorem levels_eq {β : Type*} {levels : ℕ → ExecutionGraph → β}
    {next : (ExecutionGraph → β) → ExecutionGraph → β}
    (hlevels : ∀ n, levels (n + 1) = next (levels n))
    (hcongr : ∀ {left right : ExecutionGraph → β} {graph : ExecutionGraph},
      (∀ node ∈ Dict.valueList graph.nodes, ∀ inner ∈ subgraphs node, left inner = right inner) →
        next left graph = next right graph) (graph : ExecutionGraph) :
    levels graph.depth graph = next (fun inner => levels inner.depth inner) graph := by
  have hagree : ∀ n graph, graph.depth ≤ n → levels n graph = levels graph.depth graph := by
    intro n graph
    induction graph using graph_induction generalizing n with
    | hstep graph ih =>
      intro hle
      have hpos := depth_eq graph
      obtain ⟨n, rfl⟩ : ∃ m, n = m + 1 := ⟨n - 1, by omega⟩
      obtain ⟨depth, hdepth⟩ : ∃ m, graph.depth = m + 1 := ⟨graph.depth - 1, by omega⟩
      rw [hdepth, hlevels, hlevels]
      refine hcongr fun node hnode inner hinner => ?_
      have hlt := depth_lt_of_mem_subgraphs hnode hinner
      rw [ih node hnode inner hinner n (by omega), ih node hnode inner hinner depth (by omega)]
  rw [← hagree (graph.depth + 1) graph (Nat.le_succ _), hlevels]
  refine hcongr fun node hnode inner hinner => ?_
  exact hagree _ inner (depth_lt_of_mem_subgraphs hnode hinner).le

end SignPulse.FlowModels
