import SignPulse.Flow.RunEnvironment

/-!
# Wait nodes

`PulseFlowEngine._run_wait_event_node`: the loop that takes messages from the
subscription queue until one of them decides the node.  A run of the loop is
given what its queue will bring, a finite list: the deadline ends the wait
where the list does.
-/

namespace SignPulse.WaitEvent

open Foundation
open FlowModels
open FlowContext
open RunEnvironment

variable {World Call : Type}

/-- `left or right` of two optional integers: zero counts as absent. -/
def orInt (left right : Option ℤ) : Option ℤ :=
  match left with
  | some n => if n = 0 then right else some n
  | none => right

/-- `left or right` of two optional times. -/
def orTime (left right : Option ℚ) : Option ℚ :=
  match left with
  | some t => if t = 0 then right else some t
  | none => right

def waitChatId (config : WaitEventConfig) (system : SystemScope) : Option ChatId :=
  match config.chatId with
  | some chatId => some chatId
  | none =>
    match system.chatId with
    | some chatId => if chatId.truthy then some chatId else none
    | none => none

def waitThreadId (config : WaitEventConfig) (system : SystemScope) : Option ℤ :=
  orInt config.messageThreadId system.messageThreadId

def sentMessageId (system : SystemScope) : Option ℤ :=
  orInt system.lastSentMessageId system.lastMessageId

/-- The two watermarks of the wait: a message id, and a time that counts only
where there is no message id. -/
structure Watermark where
  minMessageId : Option ℤ
  sinceTimestamp : Option ℚ
  deriving DecidableEq

def initialWatermark (config : WaitEventConfig) (system : SystemScope) : Watermark where
  minMessageId :=
    match config.minMessageId with
    | some messageId => some messageId
    | none => sentMessageId system
  sinceTimestamp :=
    orTime (orTime config.sinceTimestamp system.lastActionStartedAt) system.lastActionFinishedAt

def aboveWatermark (watermark : Watermark) (event : TelegramMessageEvent) : Bool :=
  match watermark.minMessageId with
  | some messageId => messageId < event.messageId
  | none =>
    match watermark.sinceTimestamp with
    | some since => since ≤ event.occurredAt
    | none => true

def anyEventType (eventType : String) : Bool :=
  eventType == "" || pyUpper eventType == "ANY" || pyUpper eventType == "ALL"

def matchesEventType (eventType : String) (event : TelegramMessageEvent) : Bool :=
  if anyEventType eventType then
    event.eventType == "NEW_MESSAGE" || event.eventType == "EDITED_MESSAGE"
  else pyUpper event.eventType == pyUpper eventType

/-- The checks 1 to 6 that an event passes before its text is looked at. -/
def concerns (config : WaitEventConfig) (chatId : ChatId) (threadId : Option ℤ)
    (watermark : Watermark) (event : TelegramMessageEvent) : Bool :=
  toString event.chatId == chatId.toStr && (threadId.isNone || event.messageThreadId == threadId) &&
    !event.isOutgoing &&
    matchesEventType config.eventType event &&
    (config.senderId.isNone || event.senderId == config.senderId) &&
    aboveWatermark watermark event

/-- The patterns that make a reply a success. -/
def successRules (config : WaitEventConfig) : List String :=
  if config.successPatterns.isEmpty then config.filterPatterns
  else config.successPatterns

/-- The variables of the waiting loop.  `calls` records the resends. -/
structure WaitState (World Call : Type) where
  ctx : ScopedFlowContext
  world : World
  calls : List Call
  retryCount : ℤ
  watermark : Watermark
  unmatchedReplies : List String

namespace WaitState

def finish (state : WaitState World Call) (outcome : StepOutcome) : NodeReply World Call where
  exit := .returned outcome
  ctx := state.ctx
  world := state.world
  calls := state.calls

def interrupt (state : WaitState World Call) (exit : Exit StepOutcome) : NodeReply World Call where
  exit := exit
  ctx := state.ctx
  world := state.world
  calls := state.calls

/-- `_record_success_event`, and the outcome that goes with it. -/
def accept (state : WaitState World Call) (nodeId : String)
    (event : TelegramMessageEvent) : NodeReply World Call where
  exit := .returned { nodeId, status := .success, outputText := event.text }
  ctx :=
    { state.ctx with
      lastReceivedText := event.text
      targetMessages := state.ctx.targetMessages ++
        [{ chatId := event.chatId, messageId := event.messageId,
           threadId := event.messageThreadId,
           kind := if event.text != "" then .text else .other, text := event.text,
           receivedAt := event.occurredAt, source := .event }] }
  world := state.world
  calls := state.calls
  accepted := true

/-- `ctx.system.pop(retry_count_key, None)`. -/
def clearRetryCount (state : WaitState World Call) (nodeId : String) : WaitState World Call :=
  { state with
    ctx :=
      { state.ctx with
        system :=
          { state.ctx.system with
            replyRetryCount :=
              Dict.popItem state.ctx.system.replyRetryCount nodeId } } }

/-- Count one more retry, in the loop and in the context. -/
def countRetry (state : WaitState World Call) (nodeId : String) : WaitState World Call :=
  { state with
    retryCount := state.retryCount + 1
    ctx :=
      { state.ctx with
        system :=
          { state.ctx.system with
            replyRetryCount :=
              Dict.setItem state.ctx.system.replyRetryCount nodeId (state.retryCount + 1) } } }

end WaitState

/-- `node.timeout_seconds or 90.0`. -/
def waitTimeout (node : Node) : ℚ :=
  if node.timeoutSeconds = 0 then 90 else node.timeoutSeconds

/-- The message of `_handle_timeout`. -/
def timeoutText (seconds : ℤ) (rules unmatchedReplies : List String) : String :=
  let waited := s!"等待机器人回复确认超时（{seconds} 秒）。"
  match unmatchedReplies.getLast? with
  | none => waited ++ "等待期间未收到机器人的任何回复消息。"
  | some reply =>
    let shownRules :=
      if rules.isEmpty then "" else s!"，当前设定规则: {pyReprList rules}"
    let sample := String.ofList ((pyStrip reply).toList.take 150)
    waited ++ s!"期间收到机器人回复（共 {unmatchedReplies.length} 条，但未匹配设定的成功规则{shownRules}）：\n「{sample}」"

/-- `_handle_timeout`. -/
def timeoutOutcome (node : Node) (config : WaitEventConfig)
    (unmatchedReplies : List String) : StepOutcome where
  nodeId := node.id
  status := .timeout
  outputText :=
    timeoutText (waitTimeout node).floor (successRules config) unmatchedReplies
  updatesLastOutput := !unmatchedReplies.isEmpty
  details :=
    { failureCategory :=
        some (if unmatchedReplies.isEmpty then "reply_timeout" else "other") }

def gapOutcome (nodeId : String) : StepOutcome where
  nodeId := nodeId
  status := .failed
  outputText := "消息事件传递存在缺口，无法确认机器人回复结果"
  updatesLastOutput := false
  details := { failureCategory := some "event_gap" }

def exhaustedOutcome (nodeId : String) (retryCount : ℤ) (reply : String) : StepOutcome where
  nodeId := nodeId
  status := .failed
  outputText := s!"关键词要求重试，已重试 {retryCount} 次，最后一次返回：{reply}"
  details := { failureCategory := some "retry_exhausted" }

/-- The whole flow is to start again at `entry`. -/
def restartOutcome (nodeId : String) (retryCount : ℤ) (entry : String) : StepOutcome where
  nodeId := nodeId
  status := .success
  outputText := s!"已安排第 {retryCount} 次流程重试"
  signal := .branch
  targetNodeId := some entry
  updatesLastOutput := false
  details := { retryFlowRestart := true }

def resendFailedOutcome (nodeId text : String) (error : Option PyError) : StepOutcome where
  nodeId := nodeId
  status := .failed
  outputText := text
  error := error
  details := { failureCategory := some "other" }

/-- The action a retry sends again: the node's own, or else the last one run. -/
def resendAction (graph : ExecutionGraph) (config : WaitEventConfig)
    (system : SystemScope) : Option Node :=
  let named :=
    match config.actionNodeId with
    | some nodeId =>
      if nodeId = "" then none else Dict.getItem graph.nodes nodeId
    | none => none
  match named with
  | some node => some node
  | none => system.lastActionNode

/-- One resend inside its own `wait_for`.  The wait goes on with the new state,
or the node ends. -/
def resend (env : Env World Call) (node action : Node) (state : WaitState World Call) :
    WaitState World Call ⊕ NodeReply World Call :=
  let since := env.now state.world
  let reply := env.executor action state.ctx state.world
  let after : WaitState World Call :=
    { state with
      ctx := reply.ctx
      world := reply.world
      calls := state.calls ++ reply.calls
      watermark := { state.watermark with sinceTimestamp := some since } }
  match reply.exit with
  | .returned outcome =>
    if outcome.status = .success then
      .inl
        { after with
          watermark :=
            { after.watermark with
              minMessageId := sentMessageId after.ctx.system }
          unmatchedReplies := [] }
    else
      .inr (after.finish (resendFailedOutcome node.id s!"重新发送指令失败: {outcome.outputText}" none))
  | .raised error =>
    .inr (after.finish (resendFailedOutcome node.id s!"重新发送指令异常: {error.message}" (some error)))
  | .cancelled 0 =>
    .inr (after.finish
      (resendFailedOutcome node.id "重新发送指令异常: "
        (some { name := "TimeoutError", isTimeout := true })))
  | .cancelled (level + 1) => .inr (after.interrupt (.cancelled level))

/-- A reply that asks to try again later. -/
def retryReply (env : Env World Call) (graph : ExecutionGraph) (node : Node)
    (config : WaitEventConfig) (text : String) (state : WaitState World Call) :
    WaitState World Call ⊕ NodeReply World Call :=
  if state.retryCount < config.maxRetries then
    match env.pause state.world with
    | (.cancelled level, world) =>
      .inr ({ state with world }.interrupt (.cancelled level))
    | (.raised error, world) =>
      .inr ({ state with world }.interrupt (.raised error))
    | (.returned (), world) =>
      let counted := { state with world }.countRetry node.id
      if truthy config.retryEntryNodeId then
        .inr (counted.finish
          (restartOutcome node.id counted.retryCount (config.retryEntryNodeId.getD "")))
      else
        match resendAction graph config counted.ctx.system with
        | none =>
          .inr (counted.finish (resendFailedOutcome node.id "命中重试关键词，但没有可重发的动作" none))
        | some action => resend env node action counted
  else .inr (state.finish (exhaustedOutcome node.id state.retryCount text))

/-- A reply that matched no success rule: kept for the timeout message, and
shown to the semantic service in assist mode. -/
def unmatchedReply (env : Env World Call) (node : Node) (config : WaitEventConfig)
    (event : TelegramMessageEvent) (state : WaitState World Call) :
    WaitState World Call ⊕ NodeReply World Call :=
  let noted :=
    { state with unmatchedReplies := state.unmatchedReplies ++ [event.text] }
  if config.semanticMode = some "assist" then
    match env.assess node event.text noted.world with
    | (.success false, world) => .inr ({ noted with world }.accept node.id event)
    | (.success true, world) =>
      .inr ({ noted with world }.finish (gapOutcome node.id))
    | (.failure, world) =>
      .inr ({ noted with world }.finish
        { nodeId := node.id, status := .failed, outputText := event.text })
    | (.undecided, world) => .inl { noted with world }
    | (.cancelled level, world) =>
      .inr ({ noted with world }.interrupt (.cancelled level))
  else .inl noted

/-- The body of the loop for an event that concerns the node. -/
def handleEvent (env : Env World Call) (graph : ExecutionGraph) (node : Node)
    (config : WaitEventConfig) (event : TelegramMessageEvent)
    (state : WaitState World Call) :
    WaitState World Call ⊕ NodeReply World Call :=
  match env.matchesRetryKeyword event.text config.retryKeywords with
  | some _ => retryReply env graph node config event.text state
  | none =>
    if config.failurePatterns.any (env.regexSearch · event.text) then
      .inr ((state.clearRetryCount node.id).finish
        { nodeId := node.id, status := .failed, outputText := event.text })
    else if (successRules config).isEmpty then
      .inr (state.accept node.id event)
    else if (successRules config).any (env.regexSearch · event.text) then
      .inr ((state.clearRetryCount node.id).accept node.id event)
    else unmatchedReply env node config event state

/-- The `while True` of the wait, over what the queue brings. -/
def waitLoop (env : Env World Call) (graph : ExecutionGraph) (node : Node)
    (config : WaitEventConfig) (chatId : ChatId) (threadId : Option ℤ) :
    List Delivery → WaitState World Call → NodeReply World Call
  | [], state => state.finish (timeoutOutcome node config state.unmatchedReplies)
  | .timedOut :: _, state =>
    state.finish (timeoutOutcome node config state.unmatchedReplies)
  | .gap :: _, state => state.finish (gapOutcome node.id)
  | .cancelled level :: _, state => state.interrupt (.cancelled level)
  | .event event :: rest, state =>
    if concerns config chatId threadId state.watermark event then
      match handleEvent env graph node config event state with
      | .inl next => waitLoop env graph node config chatId threadId rest next
      | .inr reply => reply
    else waitLoop env graph node config chatId threadId rest state

/-- `_run_wait_event_node`. -/
def runWaitEventNode (env : Env World Call) (graph : ExecutionGraph) (node : Node)
    (config : WaitEventConfig) (ctx : ScopedFlowContext) (world : World) :
    NodeReply World Call :=
  match waitChatId config ctx.system with
  | none =>
    { exit := .returned
        { nodeId := node.id, status := .failed,
          outputText := s!"WaitEventNode {node.id} 缺少 chat_id 配置，无法订阅消息事件",
          updatesLastOutput := false }
      ctx, world }
  | some chatId =>
    let (deliveries, afterSubscribe) := env.deliveries node ctx world
    waitLoop env graph node config chatId (waitThreadId config ctx.system) deliveries
      { ctx
        world := afterSubscribe
        calls := []
        retryCount :=
          (Dict.getItem ctx.system.replyRetryCount node.id).getD 0
        watermark := initialWatermark config ctx.system
        unmatchedReplies := [] }

end SignPulse.WaitEvent
