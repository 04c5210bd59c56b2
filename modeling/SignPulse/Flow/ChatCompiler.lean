import Mathlib.Algebra.Order.Ring.Unbundled.Rat
import SignPulse.Flow.GraphNormalizer

/-!
# Compilation of chats

`GraphNormalizer._from_linear_actions` and `_from_workflow_steps`: the graphs
that stand for a list of actions and for a list of workflow steps.  Display
names and the parameters of an action are left out, and so are the intervals
between retries.
-/

namespace SignPulse.ChatCompiler

open Foundation
open FlowModels
open TargetAliases
open GraphNormalizer

/-- What the compiler reads from the environment: the timeouts of actions, and
the reply settings for actions that set none. -/
structure Settings where
  actionTimeout : ℚ := 25
  aiActionTimeout : ℚ := 60
  replyTimeout : ℚ := 90
  retryKeywords : List String := []
  retryMaxAttempts : ℤ := 3

/-- The action type of `_extract_action_type_and_params`. -/
def actionType : SupportAction → String
  | .sendText => "SEND_TEXT"
  | .sendDice => "SEND_DICE"
  | .clickKeyboardByText => "CLICK_KEYBOARD_BY_TEXT"
  | .chooseOptionByImage => "CHOOSE_OPTION_BY_IMAGE"
  | .clickButtonByCalculationProblem => "CLICK_BUTTON_BY_CALCULATION"
  | .replyByCalculationProblem => "REPLY_BY_CALCULATION"
  | .replyByImageRecognition => "REPLY_BY_IMAGE_RECOGNITION"
  | .keywordNotify => "KEYWORD_NOTIFY"
  | .customPlugin => "PLUGIN"

def AI_ACTION_TYPES : List String :=
  ["CHOOSE_OPTION_BY_IMAGE", "REPLY_BY_IMAGE_RECOGNITION", "CLICK_BUTTON_BY_CALCULATION",
    "CLICK_BUTTON_BY_CALCULATION_PROBLEM", "REPLY_BY_CALCULATION",
    "REPLY_BY_CALCULATION_PROBLEM"]

/-- `step_timeout`: that of the action type, unless another one was set. -/
def stepTimeout (settings : Settings) (action : SupportAction) (timeout : Option ℚ) : ℚ :=
  match timeout with
  | some seconds => max 5 seconds
  | none =>
    if actionType action ∈ AI_ACTION_TYPES then
      max settings.actionTimeout settings.aiActionTimeout
    else settings.actionTimeout

/-! ## Linear actions -/

/-- The fields of `SignChatV3` that a list of actions is compiled from. -/
structure LinearChat where
  chatId : ℤ
  messageThreadId : Option ℤ := none
  actions : List SignAction

def stepId (index : ℕ) : String :=
  s!"step_{index}"

def waitId (index : ℕ) : String :=
  s!"step_{index}_wait"

/-- `next_action_id`. -/
def nextActionId (total index : ℕ) : String :=
  if index + 1 < total then stepId (index + 1) else TERMINAL_COMPLETE_ID

/-- `effective_next_id`. -/
def effectiveNextId (total index : ℕ) (act : SignAction) : String :=
  if act.waitForReply then waitId index else nextActionId total index

def actionNode (settings : Settings) (total index : ℕ) (act : SignAction) : Node where
  id := stepId index
  nextNodeId := some (effectiveNextId total index act)
  onFailureNodeId :=
    some (if act.continueOnError then effectiveNextId total index act
      else TERMINAL_FAIL_ID)
  terminalPolicy := if act.stopFlowOnTerminal then .stopFlow else .ignore
  timeoutSeconds := stepTimeout settings act.action act.timeout
  runIf := act.runIf
  skipIf := act.skipIf
  kind := .action (some act)

def waitNode (settings : Settings) (chat : LinearChat) (index : ℕ) (act : SignAction) : Node where
  id := waitId index
  nextNodeId := some (nextActionId chat.actions.length index)
  onFailureNodeId := some TERMINAL_FAIL_ID
  timeoutSeconds :=
    max 30 (min 3600 (act.replyTimeoutSeconds.getD settings.replyTimeout))
  kind := .waitEvent
    { eventType := "ANY"
      successPatterns := act.replySuccessPatterns
      failurePatterns := act.replyFailurePatterns
      semanticMode := act.semanticMode
      retryKeywords := act.replyRetryKeywords.getD settings.retryKeywords
      maxRetries :=
        max 0 (min 10 (act.replyRetryMaxAttempts.getD settings.retryMaxAttempts))
      actionNodeId := some (stepId index)
      chatId := some (.number chat.chatId)
      messageThreadId := chat.messageThreadId
      retryEntryNodeId := some (stepId 0) }

def addAction (settings : Settings) (chat : LinearChat) (nodes : Dict String Node)
    (item : SignAction × ℕ) : Dict String Node :=
  let (act, index) := item
  let nodes := Dict.setItem nodes (stepId index) (actionNode settings chat.actions.length index act)
  if act.waitForReply then
    Dict.setItem nodes (waitId index) (waitNode settings chat index act)
  else nodes

def linearGraph (settings : Settings) (chat : LinearChat) : ExecutionGraph where
  entryNodeId := stepId 0
  nodes := chat.actions.zipIdx.foldl (addAction settings chat) []

/-- `_from_linear_actions`. -/
def fromLinearActions (settings : Settings) (chat : LinearChat) (ledger : Ledger) :
    Except String (ExecutionGraph × Ledger) :=
  if chat.actions.isEmpty then .error "任务配置不合法：没有配置任何可执行动作"
  else do
    let ledger ← validateGraph (linearGraph settings chat) 1 ledger
    return (linearGraph settings chat, ledger)

/-! ## Workflow steps -/

/-- The entries of a step's `config` that the compiler reads, besides those that
make its action. -/
structure StepConfig where
  stopFlowOnTerminal : Bool := false
  terminalPolicy : Option String := none
  terminalBranchTarget : Option String := none
  runIf : Option String := none
  condition : Option String := none
  skipIf : Option String := none
  timeout : Option ℚ := none

/-- `WorkflowStepConfig`, with what its validators make sure of. -/
structure WorkflowStepConfig where
  stepId : String
  actionType : SupportAction := .sendText
  config : StepConfig := {}
  nextStepId : Option String := none
  onFailureStepId : Option String := none
  allowLoop : Bool := false
  maxRetries : Option ℤ := none
  stripped : pyStrip stepId = stepId
  nonempty : stepId ≠ ""
  notReserved : stepId ≠ "COMPLETE" ∧ stepId ≠ "FAIL"
  retries : if allowLoop then ∃ retries, maxRetries = some retries ∧ 0 ≤ retries
    else maxRetries = none

/-- The fields of `SignChatV3` that workflow steps are compiled from. -/
structure StepChat where
  steps : List WorkflowStepConfig
  initialStepId : Option String := none

/-- `max_visits` of a step. -/
def maxVisits (allowLoop : Bool) (maxRetries : Option ℤ) : ℤ :=
  match maxRetries with
  | some retries => if allowLoop then retries + 1 else 1
  | none => 1

/-- `term_policy`. -/
def terminalPolicyOf (config : StepConfig) (rawAction : SignAction) : TerminalPolicy :=
  let stops := rawAction.stopFlowOnTerminal || config.stopFlowOnTerminal
  let raw := pyOrElse config.terminalPolicy (if stops then "stop_flow" else "ignore")
  if pyLower raw = "stop_flow" then .stopFlow
  else if pyLower raw = "branch_to" then .branchTo
  else .ignore

def stepNode (settings : Settings) (rawAction : SignAction) (step : WorkflowStepConfig) : Node where
  id := step.stepId
  nextNodeId := resolveSentinelId step.nextStepId
  onFailureNodeId := resolveSentinelId step.onFailureStepId
  loopPolicy :=
    { allowLoop := step.allowLoop
      maxVisits := maxVisits step.allowLoop step.maxRetries }
  terminalPolicy := terminalPolicyOf step.config rawAction
  terminalBranchTarget := resolveSentinelId step.config.terminalBranchTarget
  timeoutSeconds := stepTimeout settings rawAction.action step.config.timeout
  runIf := pyOr step.config.runIf step.config.condition
  skipIf := step.config.skipIf
  kind := .action (some rawAction)

/-- `_from_workflow_steps`, for steps that are no flow steps.  `actionFromStep`
is `action_from_step`, which may reject the configuration of an action. -/
def fromWorkflowSteps (settings : Settings)
    (actionFromStep : WorkflowStepConfig → Except String SignAction) (chat : StepChat)
    (ledger : Ledger) : Except String (ExecutionGraph × Ledger) := do
  let nodes ← chat.steps.foldlM
    (fun nodes step => do
      let rawAction ← actionFromStep step
      return Dict.setItem nodes step.stepId (stepNode settings rawAction step))
    []
  let firstId := (chat.steps.head?.map WorkflowStepConfig.stepId).getD TERMINAL_COMPLETE_ID
  let graph : ExecutionGraph :=
    { entryNodeId := pyOrElse chat.initialStepId firstId
      nodes
      maxTotalSteps := max 60 (nodes.length * 2) }
  let ledger ← validateGraph graph 1 ledger
  return (graph, ledger)

end SignPulse.ChatCompiler
