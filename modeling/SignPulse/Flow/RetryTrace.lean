import SignPulse.Foundation.Traces
import SignPulse.Flow.RunLogs
import SignPulse.Flow.TelegramExecutor

/-!
# The retries of a run

A wait node counts its retries in the context, under an entry of its own, so that the
count outlives the visit that it belongs to.  The trace of a run lists the replies that
its wait nodes handled, each with the variables of the loop that it met.
-/

namespace SignPulse.RetryTrace

open Foundation
open FlowModels
open FlowContext
open RunEnvironment
open WaitEvent
open NodeRuns
open FlowEngine
open EngineLaws
open NodeLaws

variable {World Call : Type}

/-- A reply that a wait node handles, and the variables of its loop. -/
structure Handling (World Call : Type) where
  key : String
  node : Node
  config : WaitEventConfig
  event : TelegramMessageEvent
  state : WaitState World Call

def returned {α : Type} : Exit α → Bool
  | .returned _ => true
  | _ => false

/-- `int(ctx.system.get(retry_count_key, 0) or 0)`. -/
def retryEntry (counts : Dict String ℤ) (nodeId : String) : ℤ :=
  (Dict.getItem counts nodeId).getD 0

namespace Handling

variable (env : Env World Call) (graph : ExecutionGraph) (handling : Handling World Call)

def counts : Dict String ℤ :=
  handling.state.ctx.system.replyRetryCount

def result : WaitState World Call ⊕ NodeReply World Call :=
  handleEvent env graph handling.node handling.config handling.event handling.state

/-- The reply matches a retry keyword. -/
def asks : Bool :=
  (env.matchesRetryKeyword handling.event.text handling.config.retryKeywords).isSome

/-- The node restarts the flow, or has the executor send its action again. -/
def retries : Bool :=
  handling.asks env && decide (handling.state.retryCount < handling.config.maxRetries) &&
    returned (env.pause handling.state.world).1 &&
    (truthy handling.config.retryEntryNodeId ||
      (resendAction graph handling.config handling.state.ctx.system).isSome)

/-- The node clears its entry. -/
def clears : Bool :=
  !handling.asks env &&
    (handling.config.failurePatterns.any (env.regexSearch · handling.event.text) ||
      (successRules handling.config).any (env.regexSearch · handling.event.text))

end Handling

/-! ## The trace -/

section Traces

variable (env : Env World Call) (runSub : SubRun World Call) (graph : ExecutionGraph)
  (key : String) (node : Node)

def waitTrace (config : WaitEventConfig) (chatId : ChatId) (threadId : Option ℤ) :
    List Delivery → WaitState World Call → List (Handling World Call)
  | .event event :: rest, state =>
    if concerns config chatId threadId state.watermark event then
      { key, node, config, event, state } ::
        match handleEvent env graph node config event state with
        | .inl next => waitTrace config chatId threadId rest next
        | .inr _ => []
    else waitTrace config chatId threadId rest state
  | _, _ => []

def nodeTrace (ctx : ScopedFlowContext) (world : World) : List (Handling World Call) :=
  match node.kind with
  | .waitEvent config =>
    match waitChatId config ctx.system with
    | none => []
    | some chatId =>
      waitTrace env graph key node config chatId (waitThreadId config ctx.system)
        (env.deliveries node ctx world).1
        { ctx
          world := (env.deliveries node ctx world).2
          calls := []
          retryCount := retryEntry ctx.system.replyRetryCount node.id
          watermark := initialWatermark config ctx.system
          unmatchedReplies := [] }
  | _ => []

def attemptTrace : ℕ → ScopedFlowContext → World → List (Handling World Call)
  | 0, _, _ => []
  | remaining + 1, ctx, world =>
    let reply := executeNode env runSub graph node ctx world
    nodeTrace env graph key node ctx world ++
      match afterAttempt env node (remaining == 0) reply with
      | (some _, _) => []
      | (none, world) => attemptTrace remaining reply.ctx world

/-- The replies that one turn of the loop of `run` handles. -/
def turnTrace (state : RunState World Call) : List (Handling World Call) :=
  if state.currentId = "" || atTerminal state.currentId ||
      decide (graph.maxTotalSteps ≤ state.totalSteps) then []
  else
    match Dict.getItem graph.nodes state.currentId with
    | none => []
    | some node =>
      if (loopLimitError (state.enter node) node).isSome then []
      else
        match skipReason env node state.ctx with
        | .ok none =>
          attemptTrace env runSub graph state.currentId node
            node.retryPolicy.maxAttempts.toNat state.ctx state.world
        | _ => []

/-- The replies that the wait nodes of a run handle, in order. -/
def runTrace (ctx : ScopedFlowContext) (world : World) : List (Handling World Call) :=
  whileTrace (turn env (run env) graph) (turnTrace env (run env) graph)
    graph.maxTotalSteps.toNat (entryState graph ctx world)

end Traces

/-! ## One reply -/

/-- A step that leaves the counts alone. -/
def SameCounts (before after : ScopedFlowContext) : Prop :=
  after.system.replyRetryCount = before.system.replyRetryCount

/-- The executor does not touch the counts. -/
abbrev KeepsRetryCounts (env : Env World Call) : Prop :=
  ExecutorGrows env SameCounts

/-- What handling a reply makes of the counts. -/
inductive CountsAfter (env : Env World Call) (graph : ExecutionGraph)
    (handling : Handling World Call) : Dict String ℤ → Prop where
  | cleared (hclears : handling.clears env = true) :
      CountsAfter env graph handling (Dict.popItem handling.counts handling.node.id)
  | kept (hclears : handling.clears env = false)
      (hretries : handling.retries env graph = false) :
      CountsAfter env graph handling handling.counts
  | counted (hclears : handling.clears env = false)
      (hbelow : handling.state.retryCount < handling.config.maxRetries) :
      CountsAfter env graph handling
        (Dict.setItem handling.counts handling.node.id (handling.state.retryCount + 1))

section Handling

variable {env : Env World Call} {graph : ExecutionGraph} {handling : Handling World Call}

theorem retries_of_not_asks (hasks : handling.asks env = false) :
    handling.retries env graph = false := by
  simp [Handling.retries, hasks]

theorem clears_of_asks (hasks : handling.asks env = true) : handling.clears env = false := by
  simp [Handling.clears, hasks]

/-- The counts that a wait leaves, whether it goes on or ends. -/
abbrev countsOf (step : WaitState World Call ⊕ NodeReply World Call) : Dict String ℤ :=
  (stepCtx step).system.replyRetryCount

theorem countsOf_resend (hkeeps : KeepsRetryCounts env) (node action : Node)
    (state : WaitState World Call) :
    countsOf (resend env node action state) = state.ctx.system.replyRetryCount :=
  resend_grows hkeeps action state

theorem countsOf_unmatchedReply (node : Node) (config : WaitEventConfig)
    (event : TelegramMessageEvent) (state : WaitState World Call) :
    countsOf (unmatchedReply env node config event state) = state.ctx.system.replyRetryCount := by
  simp only [unmatchedReply]
  split
  · split <;> rfl
  · rfl

theorem countsAfter_retryReply (hkeeps : KeepsRetryCounts env) (hasks : handling.asks env = true) :
    CountsAfter env graph handling
      (countsOf (retryReply env graph handling.node handling.config handling.event.text
        handling.state)) := by
  have hclears := clears_of_asks hasks
  unfold retryReply
  split
  · next hbelow =>
    cases hpause : env.pause handling.state.world with
    | mk exit world =>
      cases exit with
      | cancelled level =>
        exact .kept hclears (by simp [Handling.retries, hpause, returned])
      | raised error =>
        exact .kept hclears (by simp [Handling.retries, hpause, returned])
      | returned value =>
        dsimp only
        split
        · exact .counted hclears hbelow
        · split
          · exact .counted hclears hbelow
          · next action _ =>
            rw [countsOf_resend hkeeps]
            exact .counted hclears hbelow
  · next hspent => exact .kept hclears (by simp [Handling.retries, hspent])

theorem countsAfter_result (hkeeps : KeepsRetryCounts env) (handling : Handling World Call) :
    CountsAfter env graph handling (countsOf (handling.result env graph)) := by
  unfold Handling.result handleEvent
  cases hkeyword : env.matchesRetryKeyword handling.event.text handling.config.retryKeywords with
  | some keyword =>
    have hasks : handling.asks env = true := by simp [Handling.asks, hkeyword]
    exact countsAfter_retryReply hkeeps hasks
  | none =>
    have hasks : handling.asks env = false := by simp [Handling.asks, hkeyword]
    have hretries : handling.retries env graph = false := retries_of_not_asks hasks
    dsimp only
    split
    · next hfailure => exact .cleared (by simp [Handling.clears, hasks, hfailure])
    · next hfailure =>
      split
      · next hempty =>
        rw [List.isEmpty_iff] at hempty
        exact .kept (by simp [Handling.clears, hfailure, hempty]) hretries
      · split
        · next hsuccess => exact .cleared (by simp [Handling.clears, hasks, hsuccess])
        · next hsuccess =>
          rw [countsOf_unmatchedReply]
          exact .kept (by simp [Handling.clears, hfailure, hsuccess]) hretries

theorem retryCount_of_resend {node action : Node} {state next : WaitState World Call}
    (hnext : resend env node action state = .inl next) :
    next.retryCount = state.retryCount := by
  simp only [resend] at hnext
  split at hnext
  · split at hnext
    · cases hnext
      rfl
    · cases hnext
  · cases hnext
  · cases hnext
  · cases hnext

theorem retryCount_of_goesOn (hkeeps : KeepsRetryCounts env)
    (hcount : handling.state.retryCount = retryEntry handling.counts handling.node.id)
    {next : WaitState World Call} (hnext : handling.result env graph = .inl next) :
    next.retryCount = retryEntry next.ctx.system.replyRetryCount handling.node.id := by
  unfold Handling.result handleEvent at hnext
  split at hnext
  · unfold retryReply at hnext
    split at hnext
    · cases hpause : env.pause handling.state.world with
      | mk exit world =>
        rw [hpause] at hnext
        cases exit with
        | cancelled level => cases hnext
        | raised error => cases hnext
        | returned value =>
          dsimp only at hnext
          split at hnext
          · cases hnext
          · split at hnext
            · cases hnext
            · next action _ =>
              have hcounts := countsOf_resend hkeeps handling.node action
                ({ handling.state with world }.countRetry handling.node.id)
              rw [hnext] at hcounts
              have hentry : next.ctx.system.replyRetryCount =
                  Dict.setItem handling.counts handling.node.id
                    (handling.state.retryCount + 1) := hcounts
              rw [retryCount_of_resend hnext, hentry, retryEntry, Dict.getItem_setItem_self]
              rfl
    · cases hnext
  · split at hnext
    · cases hnext
    · split at hnext
      · cases hnext
      · split at hnext
        · cases hnext
        · unfold unmatchedReply at hnext
          dsimp only at hnext
          split at hnext
          · split at hnext
            · cases hnext
            · cases hnext
            · cases hnext
            · cases hnext
              exact hcount
            · cases hnext
          · cases hnext
            exact hcount

theorem result_of_spent (hasks : handling.asks env = true)
    (hspent : handling.config.maxRetries ≤ handling.state.retryCount) :
    handling.result env graph =
      .inr (handling.state.finish
        (exhaustedOutcome handling.node.id handling.state.retryCount handling.event.text)) := by
  have hlimit : ¬ handling.state.retryCount < handling.config.maxRetries := by omega
  obtain ⟨keyword, hkeyword⟩ := Option.isSome_iff_exists.mp hasks
  rw [Handling.result, handleEvent, hkeyword]
  rw [retryReply, if_neg hlimit]

end Handling

/-! ## Following the counts -/

/-- A reply handled by a wait node of the graph leads from some counts to others. -/
structure Handles (env : Env World Call) (graph : ExecutionGraph)
    (handling : Handling World Call) (before after : Dict String ℤ) : Prop where
  node : Dict.getItem graph.nodes handling.key = some handling.node
  kind : handling.node.kind = .waitEvent handling.config
  counts : handling.counts = before
  count : handling.state.retryCount = retryEntry before handling.node.id
  after : CountsAfter env graph handling after

section Following

variable {env : Env World Call} {runSub : SubRun World Call} {graph : ExecutionGraph}
  {key : String} {node : Node}

variable (hkeeps : KeepsRetryCounts env)

include hkeeps

theorem passes_waitTrace {config : WaitEventConfig}
    (hnode : Dict.getItem graph.nodes key = some node) (hkind : node.kind = .waitEvent config)
    (chatId : ChatId) (threadId : Option ℤ) :
    ∀ (deliveries : List Delivery) (state : WaitState World Call),
      state.retryCount = retryEntry state.ctx.system.replyRetryCount node.id →
      Passes (Handles env graph) state.ctx.system.replyRetryCount
        (waitTrace env graph key node config chatId threadId deliveries state)
        (waitLoop env graph node config chatId threadId deliveries
          state).ctx.system.replyRetryCount := by
  intro deliveries
  induction deliveries with
  | nil => exact fun state _ => .nil _
  | cons delivery rest ih =>
    intro state hcount
    cases delivery with
    | timedOut => exact .nil _
    | gap => exact .nil _
    | cancelled level => exact .nil _
    | event event =>
      unfold waitTrace waitLoop
      split
      · have hafter := @countsAfter_result _ _ env graph hkeeps { key, node, config, event, state }
        have hnext := @retryCount_of_goesOn _ _ env graph
          { key, node, config, event, state } hkeeps hcount
        simp only [Handling.result] at hafter hnext
        cases hresult : handleEvent env graph node config event state with
        | inl next =>
          rw [hresult] at hafter hnext
          exact .cons ⟨hnode, hkind, rfl, hcount, hafter⟩ (ih next (hnext rfl))
        | inr reply =>
          rw [hresult] at hafter
          exact .cons ⟨hnode, hkind, rfl, hcount, hafter⟩ (.nil _)
      · exact ih state hcount

theorem sameCounts_executeNode
    (hother : ∀ config, node.kind ≠ .waitEvent config) (ctx : ScopedFlowContext)
    (world : World) : SameCounts ctx (executeNode env runSub graph node ctx world).ctx := by
  unfold executeNode
  split
  · exact hkeeps node (rememberAction ctx node) world
  · rfl
  · unfold runExtractorNode
    split
    · rfl
    · dsimp only
      split <;> rfl
  · unfold runDelayNode
    split <;> rfl
  · unfold runSubflowNode
    split
    · rfl
    · dsimp only
      split <;> rfl
  · unfold runParallelNode
    split
    · rfl
    · dsimp only
      split <;> rfl
  · next config hkind => exact absurd hkind (hother config)
  · exact hkeeps node ctx world

theorem passes_nodeTrace
    (hnode : Dict.getItem graph.nodes key = some node) (ctx : ScopedFlowContext)
    (world : World) :
    Passes (Handles env graph) ctx.system.replyRetryCount (nodeTrace env graph key node ctx world)
      (executeNode env runSub graph node ctx world).ctx.system.replyRetryCount := by
  unfold nodeTrace
  cases hkind : node.kind with
  | waitEvent config =>
    have hexecute : executeNode env runSub graph node ctx world =
        runWaitEventNode env graph node config ctx world := by
      simp only [executeNode, hkind]
    rw [hexecute]
    simp only [runWaitEventNode]
    cases hchat : waitChatId config ctx.system with
    | none => exact .nil _
    | some chatId =>
      exact passes_waitTrace hkeeps hnode hkind chatId (waitThreadId config ctx.system)
        (env.deliveries node ctx world).1
        { ctx
          world := (env.deliveries node ctx world).2
          calls := []
          retryCount := retryEntry ctx.system.replyRetryCount node.id
          watermark := initialWatermark config ctx.system
          unmatchedReplies := [] } rfl
  | _ =>
    rw [show (executeNode env runSub graph node ctx world).ctx.system.replyRetryCount =
      ctx.system.replyRetryCount from
        sameCounts_executeNode hkeeps (by simp [hkind]) ctx world]
    exact .nil _

theorem passes_attemptTrace (hnode : Dict.getItem graph.nodes key = some node) (remaining : ℕ)
    (ctx : ScopedFlowContext) (world : World) :
    Passes (Handles env graph) ctx.system.replyRetryCount
      (attemptTrace env runSub graph key node remaining ctx world)
      (attemptLoop env node (executeNode env runSub graph node) remaining ctx
        world).ctx.system.replyRetryCount := by
  induction remaining generalizing ctx world with
  | zero => exact .nil _
  | succ remaining ih =>
    have hfirst := @passes_nodeTrace _ _ env runSub graph key node hkeeps hnode ctx world
    simp only [attemptTrace, attemptLoop]
    cases hafter : afterAttempt env node (remaining == 0)
        (executeNode env runSub graph node ctx world) with
    | mk exit next =>
      cases exit with
      | some exit => exact hfirst.append (.nil _)
      | none => exact hfirst.append (ih _ next)

theorem passes_turnTrace_again
    {state next : RunState World Call} (hagain : turn env runSub graph state = .again next) :
    Passes (Handles env graph) state.ctx.system.replyRetryCount
      (turnTrace env runSub graph state) next.ctx.system.replyRetryCount := by
  have hcases := turn_cases env runSub graph state
  rw [hagain] at hcases
  cases hcases with
  | ended terminal error heq => cases heq
  | refused node error heq => cases heq
  | visited node visit after hnode hsteps hallowed hrun heffect =>
    have hctx : next.ctx = after := heffect.ctx
    have hgoes : ¬ (state.currentId = "" || atTerminal state.currentId ||
        decide (graph.maxTotalSteps ≤ state.totalSteps)) = true := by
      intro hends
      unfold turn at hagain
      split at hagain
      · cases hagain
      · next hstart =>
        rw [if_pos (by simpa [hstart] using hends)] at hagain
        cases hagain
    rw [turnTrace, if_neg hgoes, hnode, hctx]
    dsimp only
    rw [if_neg (by simp [hallowed])]
    cases hrun with
    | guardRaised hguard =>
      rw [hguard]
      exact .nil _
    | skipped hguard =>
      rw [hguard]
      exact .nil _
    | interrupted hguard hexit =>
      rw [hguard]
      exact passes_attemptTrace hkeeps hnode _ _ _
    | settled hguard hexit =>
      rw [hguard]
      exact passes_attemptTrace hkeeps hnode _ _ _

theorem passes_turnTrace (state : RunState World Call) :
    ∃ last, Passes (Handles env graph) state.ctx.system.replyRetryCount
      (turnTrace env runSub graph state) last := by
  unfold turnTrace
  split
  · exact ⟨_, .nil _⟩
  · split
    · exact ⟨_, .nil _⟩
    · next node hnode =>
      split
      · exact ⟨_, .nil _⟩
      · split
        · exact ⟨_, passes_attemptTrace hkeeps hnode _ _ _⟩
        · exact ⟨_, .nil _⟩

theorem passes_runTrace (ctx : ScopedFlowContext) (world : World) :
    ∃ last, Passes (Handles env graph) ctx.system.replyRetryCount
      (runTrace env graph ctx world) last := by
  have hpasses := @passes_whileTrace _ _ _ _ (Handles env graph) (turn env (run env) graph)
    (turnTrace env (run env) graph) (fun state => state.ctx.system.replyRetryCount)
    (fun _ _ hagain => passes_turnTrace_again hkeeps hagain)
    (fun state => passes_turnTrace hkeeps state)
  exact hpasses _ (entryState graph ctx world)

omit hkeeps

end Following

end SignPulse.RetryTrace
