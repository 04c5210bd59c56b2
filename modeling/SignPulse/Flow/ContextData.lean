import SignPulse.Flow.FlowContext

/-!
# Contexts as dictionaries

`to_dict` and `from_dict` of step outcomes and of `ScopedFlowContext`, without redaction.  A field
of a dictionary is absent where its key is.
-/

namespace SignPulse.FlowModels

namespace NodeStatus

def value : NodeStatus → String
  | .pending => "pending"
  | .running => "running"
  | .success => "success"
  | .terminalEarly => "terminal_early"
  | .failed => "failed"
  | .skipped => "skipped"
  | .timeout => "timeout"

/-- `NodeStatus(value)`, a success where there is no such status. -/
def ofValue : String → NodeStatus
  | "pending" => .pending
  | "running" => .running
  | "terminal_early" => .terminalEarly
  | "failed" => .failed
  | "skipped" => .skipped
  | "timeout" => .timeout
  | _ => .success

@[simp]
theorem ofValue_value (status : NodeStatus) : ofValue status.value = status := by
  cases status <;> rfl

end NodeStatus

namespace FlowSignal

def value : FlowSignal → String
  | .proceed => "proceed"
  | .haltSuccess => "halt_success"
  | .haltFail => "halt_fail"
  | .branch => "branch"
  | .retryNode => "retry_node"

def ofValue : String → FlowSignal
  | "halt_success" => .haltSuccess
  | "halt_fail" => .haltFail
  | "branch" => .branch
  | "retry_node" => .retryNode
  | _ => .proceed

@[simp]
theorem ofValue_value (signal : FlowSignal) : ofValue signal.value = signal := by
  cases signal <;> rfl

end FlowSignal

/-- The dictionary of a step outcome. -/
structure OutcomeData where
  nodeId : String
  status : Option String := none
  outputText : Option String := none
  extractedVars : Option (SignPulse.Foundation.Dict String SignPulse.Foundation.PyValue) := none
  matchedTerminal : Option Bool := none
  signal : Option String := none
  targetNodeId : Option String := none
  error : Option String := none
  updatesLastOutput : Option Bool := none
  details : Option StepDetails := none

namespace StepOutcome

/-- `to_dict`. -/
def toDict (outcome : StepOutcome) : OutcomeData where
  nodeId := outcome.nodeId
  status := some outcome.status.value
  outputText := some outcome.outputText
  extractedVars := some outcome.extractedVars
  matchedTerminal := some outcome.matchedTerminal
  signal := some outcome.signal.value
  targetNodeId := outcome.targetNodeId
  error := outcome.error.map PyError.message
  updatesLastOutput := some outcome.updatesLastOutput
  details := some outcome.details

/-- `RuntimeError(text) if text else None`. -/
def errorOf (text : Option String) : Option PyError :=
  if truthy text then some { name := "RuntimeError", message := text.getD "" } else none

/-- `from_dict`. -/
def fromDict (data : OutcomeData) : StepOutcome where
  nodeId := data.nodeId
  status := NodeStatus.ofValue (data.status.getD NodeStatus.success.value)
  outputText := data.outputText.getD ""
  extractedVars := data.extractedVars.getD []
  matchedTerminal := data.matchedTerminal.getD false
  signal := FlowSignal.ofValue (data.signal.getD FlowSignal.proceed.value)
  targetNodeId := data.targetNodeId
  error := errorOf data.error
  updatesLastOutput := data.updatesLastOutput.getD true
  details := data.details.getD {}

/-- What comes back of an outcome: its error is a `RuntimeError` with the same message. -/
theorem fromDict_toDict (outcome : StepOutcome) : fromDict outcome.toDict =
      { outcome with error := errorOf (outcome.error.map PyError.message) } := by
  unfold fromDict toDict
  simp only [Option.getD_some, NodeStatus.ofValue_value, FlowSignal.ofValue_value]

end StepOutcome

end SignPulse.FlowModels

namespace SignPulse.FlowContext

open Foundation
open FlowModels

structure TopicOutput where
  chatId : ℤ
  threadId : ℤ
  output : String

/-- The dictionary of a context.  That of a target message has the fields of the message. -/
structure ContextData where
  system : Option SystemScope := none
  account : Option (Dict String PyValue) := none
  vars : Option (Dict String PyValue) := none
  lastOutput : Option String := none
  lastReceivedText : Option String := none
  targetMessages : Option (List TargetMessage) := none
  topicLastOutputs : Option (List TopicOutput) := none
  stepOutcomes : Option (Dict String OutcomeData) := none
  stepHistory : Option (List OutcomeData) := none

namespace ScopedFlowContext

/-- `set_last_output`. -/
def setLastOutput (ctx : ScopedFlowContext) (output : String) :
    Option ℤ → Option ℤ → ScopedFlowContext
  | some chatId, some threadId =>
    { ctx with
      topicLastOutputs := Dict.setItem ctx.topicLastOutputs (chatId, threadId) output }
  | _, _ => { ctx with lastOutput := output }

/-- `to_dict`. -/
def toDict (ctx : ScopedFlowContext) : ContextData where
  system := some ctx.system
  account := some ctx.account
  vars := some ctx.vars
  lastOutput := some ctx.lastOutput
  lastReceivedText := some ctx.lastReceivedText
  targetMessages := some ctx.targetMessages
  topicLastOutputs := some <| ctx.topicLastOutputs.map fun item =>
    { chatId := item.1.1, threadId := item.1.2, output := item.2 }
  stepOutcomes := some <| ctx.stepOutcomes.map fun item => (item.1, item.2.toDict)
  stepHistory := some <| ctx.stepHistory.map StepOutcome.toDict

/-- `from_dict`. -/
def fromDict (data : ContextData) : ScopedFlowContext :=
  let stepOutcomes := Dict.update [] <|
    (data.stepOutcomes.getD []).map fun item => (item.1, StepOutcome.fromDict item.2)
  { system := data.system.getD {}
    account := data.account.getD []
    vars := data.vars.getD []
    lastOutput := data.lastOutput.getD ""
    lastReceivedText := data.lastReceivedText.getD ""
    targetMessages := data.targetMessages.getD []
    topicLastOutputs := Dict.update [] <|
      (data.topicLastOutputs.getD []).map fun item => ((item.chatId, item.threadId), item.output)
    stepOutcomes
    stepHistory :=
      match data.stepHistory with
      | some history => history.map StepOutcome.fromDict
      | none => Dict.valueList stepOutcomes }

/-! ## Distinct keys -/

/-- The keys of a Python dictionary are distinct. -/
structure DistinctKeys (ctx : ScopedFlowContext) : Prop where
  outcomes : (Dict.keyList ctx.stepOutcomes).Nodup
  topics : (Dict.keyList ctx.topicLastOutputs).Nodup

variable {ctx : ScopedFlowContext}

/-! ## What comes back -/

/-- What an outcome is read back as. -/
def restoredOutcome (outcome : StepOutcome) : StepOutcome :=
  { outcome with error := StepOutcome.errorOf (outcome.error.map PyError.message) }

/-- A context without receipts and without the attributes of side effects. -/
def restored (ctx : ScopedFlowContext) : ScopedFlowContext :=
  { ctx with
    stepOutcomes := ctx.stepOutcomes.map fun item => (item.1, restoredOutcome item.2)
    stepHistory := ctx.stepHistory.map restoredOutcome
    operationReceipts := []
    pulseflowSideEffectStarted := false
    sideEffectStarted := false }

/-- The round trip loses the receipts, the attributes of side effects and what an error is besides
its message. -/
theorem fromDict_toDict (hkeys : ctx.DistinctKeys) : fromDict ctx.toDict = ctx.restored := by
  have houtcomes : Dict.update [] ((ctx.stepOutcomes.map fun item =>
      (item.1, item.2.toDict)).map fun item => (item.1, StepOutcome.fromDict item.2)) =
      ctx.stepOutcomes.map fun item => (item.1, restoredOutcome item.2) := by
    rw [List.map_map, ← Dict.update_map_of_nodup restoredOutcome hkeys.outcomes]
    congr 1
    apply List.map_congr_left
    intro item _
    exact congrArg (Prod.mk item.1) (StepOutcome.fromDict_toDict item.2)
  have htopics : Dict.update [] ((ctx.topicLastOutputs.map fun item =>
      ({ chatId := item.1.1, threadId := item.1.2, output := item.2 } : TopicOutput)).map
        fun item => ((item.chatId, item.threadId), item.output)) = ctx.topicLastOutputs := by
    rw [List.map_map]
    apply (congrArg (Dict.update []) (List.map_id ctx.topicLastOutputs)).trans
    exact Dict.update_of_nodup ctx.topicLastOutputs hkeys.topics
  have hhistory : (ctx.stepHistory.map StepOutcome.toDict).map StepOutcome.fromDict =
      ctx.stepHistory.map restoredOutcome := by
    rw [List.map_map]
    apply List.map_congr_left
    intro outcome _
    exact StepOutcome.fromDict_toDict outcome
  unfold fromDict toDict restored
  simp only [Option.getD_some, houtcomes, htopics, hhistory]

end ScopedFlowContext

end SignPulse.FlowContext
