import SignPulse.Flow.FlowModels

/-!
# Scoped flow contexts and operation receipts

`flow_context.py` and `operation_receipts.py`: the state that a run hands from
node to node.  The entries of the `system` scope that the engine or the
executor look up are fields of `SystemScope`; the retry counters, which the
source keeps under `reply_retry_count:<node id>`, are a dictionary of their
own.
-/

namespace SignPulse.FlowContext

open Foundation
open FlowModels

inductive OperationAttemptState where
  | notStarted | attempted | confirmed | unknown
  deriving DecidableEq, Repr

/-- `OperationReceipt`, without the remote id, which no caller sets. -/
structure OperationReceipt where
  operationId : String
  nodeId : String
  attempt : ℕ
  kind : String
  state : OperationAttemptState := .notStarted
  evidence : Dict String String := []
  deriving DecidableEq

inductive MessageKind where
  | text | caption | photo | other
  deriving DecidableEq, Repr

inductive MessageSource where
  | event | historyFetch | legacyLogFallback
  deriving DecidableEq, Repr

structure TargetMessage where
  chatId : ℤ
  messageId : ℤ
  threadId : Option ℤ
  kind : MessageKind
  text : String
  receivedAt : ℚ
  source : MessageSource
  deriving DecidableEq

structure SystemScope where
  chatId : Option ChatId := none
  messageThreadId : Option ℤ := none
  lastSentMessageId : Option ℤ := none
  lastMessageId : Option ℤ := none
  lastActionStartedAt : Option ℚ := none
  lastActionFinishedAt : Option ℚ := none
  replyRetryCount : Dict String ℤ := []
  lastActionNode : Option Node := none
  sideEffectStarted : Bool := false

/-- `ScopedFlowContext`.  The last two fields are the attributes of the same
name, absent (false) until some executor sets them. -/
structure ScopedFlowContext where
  system : SystemScope := {}
  account : Dict String PyValue := []
  vars : Dict String PyValue := []
  stepOutcomes : Dict String StepOutcome := []
  stepHistory : List StepOutcome := []
  lastOutput : String := ""
  /-- By chat and thread. -/
  topicLastOutputs : Dict (ℤ × ℤ) String := []
  operationReceipts : List OperationReceipt := []
  lastReceivedText : String := ""
  targetMessages : List TargetMessage := []
  pulseflowSideEffectStarted : Bool := false
  sideEffectStarted : Bool := false

/-- Apply `f` to the last element that satisfies `p`. -/
def updateLatest {α : Type} (p : α → Bool) (f : α → α) (items : List α) : List α :=
  match items with
  | [] => []
  | item :: rest =>
    if rest.any p then item :: updateLatest p f rest
    else if p item then f item :: rest
    else item :: rest

theorem updateLatest_append_singleton {α : Type} {p : α → Bool} (f : α → α)
    (items : List α) {item : α} (hitem : p item = true) :
    updateLatest p f (items ++ [item]) = items ++ [f item] := by
  induction items with
  | nil => simp [updateLatest, hitem]
  | cons head rest ih => simp [updateLatest, hitem, ih]

namespace ScopedFlowContext

def beginOperation (ctx : ScopedFlowContext) (operationId nodeId : String)
    (attempt : ℕ) (kind : String) : ScopedFlowContext :=
  { ctx with
    operationReceipts :=
      ctx.operationReceipts ++ [{ operationId, nodeId, attempt, kind }] }

def updateReceipt (ctx : ScopedFlowContext) (operationId : String)
    (assign : OperationReceipt → OperationReceipt) : ScopedFlowContext :=
  { ctx with
    operationReceipts :=
      updateLatest (fun receipt => receipt.operationId == operationId) assign
        ctx.operationReceipts }

def setReceiptState (ctx : ScopedFlowContext) (operationId : String)
    (state : OperationAttemptState) : ScopedFlowContext :=
  ctx.updateReceipt operationId fun receipt => { receipt with state }

def markOperationConfirmed (ctx : ScopedFlowContext) (operationId : String)
    (evidence : Dict String String) : ScopedFlowContext :=
  ctx.updateReceipt operationId fun receipt =>
    { receipt with state := .confirmed, evidence }

def setVar (ctx : ScopedFlowContext) (key : String) (value : PyValue) : ScopedFlowContext :=
  { ctx with vars := Dict.setItem ctx.vars key value }

def recordStepOutcome (ctx : ScopedFlowContext) (outcome : StepOutcome) : ScopedFlowContext :=
  { ctx with
    stepOutcomes := Dict.setItem ctx.stepOutcomes outcome.nodeId outcome
    stepHistory := ctx.stepHistory ++ [outcome]
    lastOutput :=
      if outcome.outputText != "" && outcome.updatesLastOutput then
        outcome.outputText
      else ctx.lastOutput
    vars := Dict.update ctx.vars outcome.extractedVars }

/-- The context of a nested run: copies of the scopes and of the last output,
nothing else. -/
def childContext (ctx : ScopedFlowContext) : ScopedFlowContext where
  system := ctx.system
  account := ctx.account
  vars := ctx.vars
  lastOutput := ctx.lastOutput

@[simp]
theorem stepOutcomes_recordStepOutcome (ctx : ScopedFlowContext) (outcome : StepOutcome) :
    (ctx.recordStepOutcome outcome).stepOutcomes =
      Dict.setItem ctx.stepOutcomes outcome.nodeId outcome := rfl

end ScopedFlowContext

end SignPulse.FlowContext
