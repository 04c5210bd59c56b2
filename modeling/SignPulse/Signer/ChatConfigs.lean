import SignPulse.Signer.GraphData

/-!
# Chats of a configuration

The actions and steps of a `SignChatV3` with their fields and defaults.  `fieldsSet` are the names
of the fields that were given when the object was made.
-/

namespace SignPulse.ChatConfigs

open Foundation
open FlowModels (SupportAction)
open GraphData (NodeType)
open ChainedRuns (Config)

/-- The class of an action, with the fields that it adds. -/
inductive ActionKind where
  | sendText (text : String)
  | sendDice (dice : String)
  | clickKeyboardByText (text : String)
  | chooseOptionByImage (aiPrompt : Option String)
  | replyByCalculationProblem (aiPrompt : Option String)
  | replyByImageRecognition (aiPrompt : Option String)
  | clickButtonByCalculationProblem (aiPrompt : Option String)
  | keywordNotify (fields : Config)
  | plugin (fields : Config)

structure SignAction where
  kind : ActionKind
  delay : Option String := none
  continueOnError : Bool := false
  skipIfMatched : Option String := none
  stopFlowOnTerminal : Bool := false
  waitForReply : Bool := false
  replySuccessPatterns : List String := []
  replyFailurePatterns : List String := []
  replyTimeoutSeconds : ℚ := 90
  replyRetryKeywords : List String := []
  replyRetryInterval : ℚ := 10
  replyRetryMaxAttempts : ℤ := 3
  semanticResult : Option Config := none
  semanticTriage : Option Config := none
  semanticButton : Option Config := none
  fieldsSet : List String

structure WorkflowStepConfig where
  stepId : String
  actionType : SupportAction
  config : Config := []
  nextStepId : Option String := none
  onFailureStepId : Option String := none
  allowLoop : Bool := false
  maxRetries : Option ℤ := none

structure FlowStepConfig where
  stepId : String
  nodeType : NodeType := .action
  name : Option String := none
  nextStepId : Option String := none
  onFailureStepId : Option String := none
  terminalPolicy : String := "ignore"
  terminalBranchTarget : Option String := none
  runIf : Option String := none
  skipIf : Option String := none
  timeoutSeconds : ℚ := 25
  retryPolicy : Config := []
  loopPolicy : Config := []
  actionType : Option SupportAction := none
  params : Config := []
  config : Option Config := none
  cases : List (Dict String String) := []
  defaultTargetId : Option String := none
  eventType : String := "NEW_MESSAGE"
  filterPatterns : List String := []
  successPatterns : List String := []
  failurePatterns : List String := []
  semanticResult : Option Config := none
  retryKeywords : List String := []
  retryInterval : ℚ := 10
  maxRetries : ℤ := 3
  actionNodeId : Option String := none
  delaySeconds : ℚ := 1
  sourceField : String := "prev.output"
  regex : String := ""
  variableName : Option String := none
  exportVars : Dict String String := []
  subflowGraph : Option Config := none
  subflowId : Option String := none
  inputVars : Dict String String := []
  outputVars : Dict String String := []
  branches : List Config := []
  parallelMode : String := "all"
  maxConcurrency : Option ℤ := none
  joinStrategy : String := "merge"
  fieldsSet : List String

inductive StepConfig where
  | workflow (step : WorkflowStepConfig)
  | flow (step : FlowStepConfig)

def StepConfig.stepId : StepConfig → String
  | .workflow step => step.stepId
  | .flow step => step.stepId

/-- What decides whether two actions are equal: the fields, whichever of them were given. -/
def SignAction.values (act : SignAction) : SignAction :=
  { act with fieldsSet := [] }

def StepConfig.values : StepConfig → StepConfig
  | .workflow step => .workflow step
  | .flow step => .flow { step with fieldsSet := [] }

structure SignChatV3 where
  chatId : ℤ
  name : Option String := none
  deleteAfter : Option ℤ := none
  actions : Option (List SignAction) := none
  steps : Option (List StepConfig) := none
  flowGraph : Option Config := none
  initialStepId : Option String := none
  actionInterval : ℚ := 1
  messageThreadId : Option ℤ := none
  nextTaskOnSuccess : Option String := none
  nextTaskDelaySeconds : Option ℚ := none
  executionEngine : Option String := none

end SignPulse.ChatConfigs
