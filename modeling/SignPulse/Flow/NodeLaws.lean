import SignPulse.Flow.EngineLaws

/-!
# Laws of node executions

What one execution of a node can do: the nested runs it makes, what it keeps of
the context, whose outcome it returns, and when a wait node succeeds.
-/

namespace SignPulse.NodeLaws

open Foundation
open FlowModels
open FlowContext
open RunEnvironment
open TargetAliases
open WaitEvent
open NodeRuns
open FlowEngine
open EngineLaws

variable {World Call : Type}

/-! ## Wait nodes -/

section Waiting

variable {env : Env World Call} {graph : ExecutionGraph} {node : Node}
  {config : WaitEventConfig}

def finalStatus (status : NodeStatus) : Bool :=
  status != .pending && status != .running

/-- What a wait node says: in its own name, never to be tried again, a success
only by an accepted event or to route a restart, and a branch only to the entry of
a restart. -/
structure WaitOutcome (nodeId : String) (config : WaitEventConfig) (accepted : Bool)
    (outcome : StepOutcome) : Prop where
  nodeId : outcome.nodeId = nodeId
  signal : outcome.signal ≠ .retryNode
  final : finalStatus outcome.status = true
  success : outcome.status = .success → accepted = true ∨ restarts outcome = true
  branch : outcome.signal = .branch → outcome.targetNodeId = config.retryEntryNodeId

/-- How a wait node ends. -/
structure WaitReply (nodeId : String) (config : WaitEventConfig)
    (reply : NodeReply World Call) : Prop where
  nested : reply.nested = []
  outcome : ∀ outcome, reply.exit = .returned outcome →
    WaitOutcome nodeId config reply.accepted outcome

variable {nodeId : String} {state : WaitState World Call} {reply : NodeReply World Call}

theorem waitReply_failed (state : WaitState World Call) {outcome : StepOutcome}
    (hid : outcome.nodeId = nodeId) (hsignal : outcome.signal = .proceed)
    (hstatus : failedStatus outcome.status = true) :
    WaitReply nodeId config (state.finish outcome) := by
  refine ⟨rfl, fun other hother => ?_⟩
  obtain rfl : outcome = other := Exit.returned.inj hother
  have hstatuses : finalStatus outcome.status = true ∧ outcome.status ≠ .success := by
    cases hcase : outcome.status <;> simp_all [failedStatus, finalStatus]
  exact
    { nodeId := hid
      signal := by simp [hsignal]
      final := hstatuses.1
      success := fun hsuccess => absurd hsuccess hstatuses.2
      branch := by simp [hsignal] }

theorem waitReply_restart {entry : String} (state : WaitState World Call) (retryCount : ℤ)
    (hentry : truthy (some entry) = true) (hconfig : config.retryEntryNodeId = some entry) :
    WaitReply nodeId config (state.finish (restartOutcome nodeId retryCount entry)) := by
  refine ⟨rfl, fun other hother => ?_⟩
  obtain rfl := Exit.returned.inj hother
  exact
    { nodeId := rfl
      signal := by simp [restartOutcome]
      final := rfl
      success := fun _ => Or.inr (by simp [restarts, restartOutcome, hentry])
      branch := fun _ => hconfig.symm }

theorem waitReply_accept (nodeId : String) (state : WaitState World Call)
    (event : TelegramMessageEvent) :
    WaitReply nodeId config (state.accept nodeId event) := by
  refine ⟨rfl, fun outcome houtcome => ?_⟩
  obtain rfl := Exit.returned.inj houtcome
  exact
    { nodeId := rfl
      signal := by simp
      final := rfl
      success := fun _ => Or.inl rfl
      branch := by simp }

theorem waitReply_raised (state : WaitState World Call) (error : PyError) :
    WaitReply nodeId config (state.interrupt (.raised error)) :=
  ⟨rfl, fun _ houtcome => by cases houtcome⟩

theorem waitReply_cancelled (state : WaitState World Call) (level : ℕ) :
    WaitReply nodeId config (state.interrupt (.cancelled level)) :=
  ⟨rfl, fun _ houtcome => by cases houtcome⟩

theorem resend_reply {action : Node} (hresend : resend env node action state = .inr reply) :
    WaitReply node.id config reply := by
  simp only [resend] at hresend
  split at hresend
  · split at hresend
    · cases hresend
    · cases hresend
      exact waitReply_failed _ rfl rfl rfl
  · cases hresend
    exact waitReply_failed _ rfl rfl rfl
  · cases hresend
    exact waitReply_failed _ rfl rfl rfl
  · cases hresend
    exact waitReply_cancelled _ _

theorem retryReply_reply {text : String}
    (hretry : retryReply env graph node config text state = .inr reply) :
    WaitReply node.id config reply := by
  unfold retryReply at hretry
  split at hretry
  · split at hretry
    · cases hretry
      exact waitReply_cancelled _ _
    · cases hretry
      exact waitReply_raised _ _
    · dsimp only at hretry
      split at hretry
      · next hentry =>
        cases hretry
        cases hcase : config.retryEntryNodeId with
        | none => simp [hcase, truthy] at hentry
        | some entry => exact waitReply_restart _ _ (hcase ▸ hentry) hcase
      · split at hretry
        · cases hretry
          exact waitReply_failed _ rfl rfl rfl
        · exact resend_reply hretry
  · cases hretry
    exact waitReply_failed _ rfl rfl rfl

theorem unmatchedReply_reply {event : TelegramMessageEvent}
    (hunmatched : unmatchedReply env node config event state = .inr reply) :
    WaitReply node.id config reply := by
  simp only [unmatchedReply] at hunmatched
  split at hunmatched
  · split at hunmatched
    · cases hunmatched
      exact waitReply_accept _ _ _
    · cases hunmatched
      exact waitReply_failed _ rfl rfl rfl
    · cases hunmatched
      exact waitReply_failed _ rfl rfl rfl
    · cases hunmatched
    · cases hunmatched
      exact waitReply_cancelled _ _
  · cases hunmatched

theorem handleEvent_reply {event : TelegramMessageEvent}
    (hevent : handleEvent env graph node config event state = .inr reply) :
    WaitReply node.id config reply := by
  unfold handleEvent at hevent
  split at hevent
  · exact retryReply_reply hevent
  · split at hevent
    · cases hevent
      exact waitReply_failed _ rfl rfl rfl
    · split at hevent
      · cases hevent
        exact waitReply_accept _ _ _
      · split at hevent
        · cases hevent
          exact waitReply_accept _ _ _
        · exact unmatchedReply_reply hevent

theorem waitLoop_reply (chatId : ChatId) (threadId : Option ℤ) :
    ∀ (deliveries : List Delivery) (state : WaitState World Call),
      WaitReply node.id config (waitLoop env graph node config chatId threadId deliveries state) := by
  intro deliveries
  induction deliveries with
  | nil =>
    intro state
    exact waitReply_failed _ rfl rfl rfl
  | cons delivery rest ih =>
    intro state
    cases delivery with
    | timedOut => exact waitReply_failed _ rfl rfl rfl
    | gap => exact waitReply_failed _ rfl rfl rfl
    | cancelled level => exact waitReply_cancelled _ _
    | event event =>
      unfold waitLoop
      split
      · split
        · exact ih _
        · next reply hreply => exact handleEvent_reply hreply
      · exact ih _

theorem runWaitEventNode_reply (ctx : ScopedFlowContext) (world : World) :
    WaitReply node.id config (runWaitEventNode env graph node config ctx world) := by
  unfold runWaitEventNode
  split
  · refine ⟨rfl, fun outcome houtcome => ?_⟩
    obtain rfl := Exit.returned.inj houtcome
    exact
      { nodeId := rfl
        signal := by simp
        final := rfl
        success := by simp
        branch := by simp }
  · exact waitLoop_reply _ _ _ _

end Waiting

/-! ## What an execution keeps of the context -/

/-- A relation between the contexts before and after a step, that any step of
the engine satisfies which leaves the step records alone and only adds
receipts. -/
structure Frame (Grows : ScopedFlowContext → ScopedFlowContext → Prop) : Prop where
  trans : ∀ {first second third}, Grows first second → Grows second third → Grows first third
  engine : ∀ {before after : ScopedFlowContext}, after.stepOutcomes = before.stepOutcomes →
      after.stepHistory = before.stepHistory →
      before.operationReceipts <+: after.operationReceipts → Grows before after

namespace Frame

variable {Grows : ScopedFlowContext → ScopedFlowContext → Prop}

theorem refl (hframe : Frame Grows) (ctx : ScopedFlowContext) : Grows ctx ctx :=
  hframe.engine rfl rfl (List.prefix_refl _)

end Frame

/-- Every call of the executor moves the context along `Grows`. -/
def ExecutorGrows (env : Env World Call)
    (Grows : ScopedFlowContext → ScopedFlowContext → Prop) : Prop :=
  ∀ node ctx world, Grows ctx (env.executor node ctx world).ctx

section Growing

variable {env : Env World Call} {graph : ExecutionGraph} {node : Node}
  {config : WaitEventConfig}
  {Grows : ScopedFlowContext → ScopedFlowContext → Prop}

def stepCtx : WaitState World Call ⊕ NodeReply World Call → ScopedFlowContext
  | .inl state => state.ctx
  | .inr reply => reply.ctx

theorem resend_grows (hexecutor : ExecutorGrows env Grows) (action : Node)
    (state : WaitState World Call) :
    Grows state.ctx (stepCtx (resend env node action state)) := by
  simp only [resend]
  split
  · split
    · exact hexecutor action state.ctx state.world
    · exact hexecutor action state.ctx state.world
  · exact hexecutor action state.ctx state.world
  · exact hexecutor action state.ctx state.world
  · exact hexecutor action state.ctx state.world

variable (hframe : Frame Grows)

include hframe

variable (hexecutor : ExecutorGrows env Grows)

include hexecutor

theorem retryReply_grows (text : String) (state : WaitState World Call) :
    Grows state.ctx (stepCtx (retryReply env graph node config text state)) := by
  have hsame : Grows state.ctx state.ctx := hframe.refl _
  have hcounted : Grows state.ctx (state.countRetry node.id).ctx :=
    hframe.engine rfl rfl (List.prefix_refl state.ctx.operationReceipts)
  unfold retryReply
  split
  · split
    · exact hsame
    · exact hsame
    · next world _ =>
      dsimp only
      split
      · exact hcounted
      · split
        · exact hcounted
        · next action _ =>
          exact hframe.trans hcounted (resend_grows hexecutor action
            ({ state with world }.countRetry node.id))
  · exact hsame

theorem handleEvent_grows (event : TelegramMessageEvent) (state : WaitState World Call) :
    Grows state.ctx (stepCtx (handleEvent env graph node config event state)) := by
  unfold handleEvent
  split
  · exact retryReply_grows hframe hexecutor _ _
  · split
    · exact hframe.engine rfl rfl (List.prefix_refl _)
    · split
      · exact hframe.engine rfl rfl (List.prefix_refl _)
      · split
        · exact hframe.engine rfl rfl (List.prefix_refl _)
        · unfold unmatchedReply
          dsimp only
          split
          · split <;> exact hframe.engine rfl rfl (List.prefix_refl _)
          · exact hframe.refl _

theorem waitLoop_grows (chatId : ChatId) (threadId : Option ℤ) :
    ∀ (deliveries : List Delivery) (state : WaitState World Call), Grows state.ctx
        (waitLoop env graph node config chatId threadId deliveries state).ctx := by
  intro deliveries
  induction deliveries with
  | nil => exact fun state => hframe.refl _
  | cons delivery rest ih =>
    intro state
    cases delivery with
    | timedOut => exact hframe.refl _
    | gap => exact hframe.refl _
    | cancelled level => exact hframe.refl _
    | event event =>
      have hevent : Grows state.ctx (stepCtx (handleEvent env graph node config event state)) :=
        handleEvent_grows hframe hexecutor event state
      unfold waitLoop
      split
      · split
        · next next hnext =>
          rw [hnext] at hevent
          exact hframe.trans hevent (ih next)
        · next reply hreply =>
          rw [hreply] at hevent
          exact hevent
      · exact ih state

theorem runWaitEventNode_grows (ctx : ScopedFlowContext) (world : World) :
    Grows ctx (runWaitEventNode env graph node config ctx world).ctx := by
  unfold runWaitEventNode
  split
  · exact hframe.refl _
  · next chatId _ =>
    exact waitLoop_grows hframe hexecutor chatId _ _
      { ctx
        world := (env.deliveries node ctx world).2
        calls := []
        retryCount := (Dict.getItem ctx.system.replyRetryCount node.id).getD 0
        watermark := initialWatermark config ctx.system
        unmatchedReplies := [] }

section

variable (runSub : SubRun World Call) (ctx : ScopedFlowContext) (world : World)

theorem executeNode_grows : Grows ctx (executeNode env runSub graph node ctx world).ctx := by
  unfold executeNode
  split
  · have hremember : Grows ctx (rememberAction ctx node) :=
      hframe.engine rfl rfl (List.prefix_refl ctx.operationReceipts)
    exact hframe.trans hremember (hexecutor node (rememberAction ctx node) world)
  · exact hframe.refl _
  · unfold runExtractorNode
    split
    · exact hframe.refl _
    · dsimp only
      split <;> exact hframe.engine rfl rfl (List.prefix_refl _)
  · unfold runDelayNode
    split <;> exact hframe.refl _
  · unfold runSubflowNode
    split
    · exact hframe.refl _
    · dsimp only
      split
      · exact hframe.refl _
      · exact hframe.refl _
      · exact hframe.engine rfl rfl (List.prefix_refl _)
  · unfold runParallelNode
    split
    · exact hframe.refl _
    · dsimp only
      split
      · exact hframe.refl _
      · exact hframe.engine rfl rfl (List.prefix_append _ _)
  · exact runWaitEventNode_grows hframe hexecutor ctx world
  · exact hexecutor node ctx world

theorem attemptsOf_grows : Grows ctx (attemptsOf env runSub graph node ctx world).ctx ∧
      ∀ attempt ∈ (attemptsOf env runSub graph node ctx world).attempts,
        Grows attempt.ctx (attemptsOf env runSub graph node ctx world).ctx :=
  attemptLoop_grows Grows hframe.refl hframe.trans
    (fun before start => executeNode_grows hframe hexecutor runSub before start)
    _ ctx world

end

omit hexecutor

omit hframe

end Growing

/-! ## The calls of the executor -/

def FromExecutor (env : Env World Call) (call : Call) : Prop :=
  ∃ node ctx world, call ∈ (env.executor node ctx world).calls

section Calling

variable {env : Env World Call} {graph : ExecutionGraph} {node : Node}
  {config : WaitEventConfig}

/-- The calls of a wait so far, whether it goes on or ends. -/
def stepCalls : WaitState World Call ⊕ NodeReply World Call → List Call
  | .inl state => state.calls
  | .inr reply => reply.calls

theorem resend_calls (action : Node) (state : WaitState World Call) :
    ∀ call ∈ stepCalls (resend env node action state),
      call ∈ state.calls ∨ FromExecutor env call := by
  have happend : ∀ call ∈ state.calls ++ (env.executor action state.ctx state.world).calls,
      call ∈ state.calls ∨ FromExecutor env call := by
    intro call hcall
    exact (List.mem_append.mp hcall).imp_right fun hnew => ⟨_, _, _, hnew⟩
  simp only [resend]
  split
  · split
    · exact happend
    · exact happend
  · exact happend
  · exact happend
  · exact happend

/-- A record of a call made to send an action again, which wait nodes do unless
they restart the flow. -/
def Resent (env : Env World Call) (config : WaitEventConfig) (call : Call) : Prop :=
  truthy config.retryEntryNodeId = false ∧ FromExecutor env call

theorem handleEvent_calls (event : TelegramMessageEvent) (state : WaitState World Call) :
    ∀ call ∈ stepCalls (handleEvent env graph node config event state),
      call ∈ state.calls ∨ Resent env config call := by
  have hsame : ∀ call ∈ state.calls, call ∈ state.calls ∨ Resent env config call :=
    fun _ hcall => Or.inl hcall
  unfold handleEvent
  split
  · unfold retryReply
    split
    · split
      · exact hsame
      · exact hsame
      · dsimp only
        split
        · exact hsame
        · next hentry =>
          split
          · exact hsame
          · intro call hcall
            exact (resend_calls _ _ call hcall).imp_right fun hnew =>
              ⟨by simpa using hentry, hnew⟩
    · exact hsame
  · split
    · exact hsame
    · split
      · exact hsame
      · split
        · exact hsame
        · unfold unmatchedReply
          dsimp only
          split
          · split <;> exact hsame
          · exact hsame

theorem waitLoop_calls (chatId : ChatId) (threadId : Option ℤ) :
    ∀ (deliveries : List Delivery) (state : WaitState World Call),
      ∀ call ∈ (waitLoop env graph node config chatId threadId deliveries state).calls,
        call ∈ state.calls ∨ Resent env config call := by
  intro deliveries
  induction deliveries with
  | nil => exact fun state call hcall => Or.inl hcall
  | cons delivery rest ih =>
    intro state call hcall
    cases delivery with
    | timedOut => exact Or.inl hcall
    | gap => exact Or.inl hcall
    | cancelled level => exact Or.inl hcall
    | event event =>
      have hevent : ∀ call ∈ stepCalls (handleEvent env graph node config event state),
          call ∈ state.calls ∨ Resent env config call :=
        handleEvent_calls event state
      unfold waitLoop at hcall
      split at hcall
      · split at hcall
        · next next hnext =>
          rw [hnext] at hevent
          exact (ih next call hcall).elim (hevent call) Or.inr
        · next reply hreply =>
          rw [hreply] at hevent
          exact hevent call hcall
      · exact ih state call hcall

theorem runWaitEventNode_calls (ctx : ScopedFlowContext) (world : World) :
    ∀ call ∈ (runWaitEventNode env graph node config ctx world).calls, Resent env config call := by
  intro call hcall
  unfold runWaitEventNode at hcall
  split at hcall
  · cases hcall
  · exact (waitLoop_calls _ _ _ _ call hcall).resolve_left List.not_mem_nil

theorem executeNode_calls {runSub : SubRun World Call} {ctx : ScopedFlowContext} {world : World} :
    ∀ call ∈ (executeNode env runSub graph node ctx world).calls, FromExecutor env call := by
  intro call hcall
  unfold executeNode at hcall
  split at hcall
  · exact ⟨_, _, _, hcall⟩
  · cases hcall
  · unfold runExtractorNode at hcall
    split at hcall
    · cases hcall
    · dsimp only at hcall
      split at hcall <;> cases hcall
  · unfold runDelayNode at hcall
    split at hcall <;> cases hcall
  · unfold runSubflowNode at hcall
    split at hcall
    · cases hcall
    · dsimp only at hcall
      split at hcall <;> cases hcall
  · unfold runParallelNode at hcall
    split at hcall
    · cases hcall
    · dsimp only at hcall
      split at hcall <;> cases hcall
  · exact (runWaitEventNode_calls ctx world call hcall).2
  · exact ⟨_, _, _, hcall⟩

end Calling

/-! ## Nested runs -/

variable {env : Env World Call} {runSub : SubRun World Call} {ctx : ScopedFlowContext}
variable {world : World} {graph : ExecutionGraph} {node : Node} {outcome : StepOutcome}

theorem runBranches_log {branches : List ExecutionGraph} {reply : BranchReply Call}
    {log : RunLog Call} (hreply : reply ∈ (runBranches env runSub ctx branches world).1)
    (hlog : reply.log = some log) :
    ∃ graph ∈ branches, ∃ start, reply =
      { exit := (runSub graph ctx.childContext start).exit
        ctx := (runSub graph ctx.childContext start).ctx
        log := some log } ∧
      log = (runSub graph ctx.childContext start).log := by
  induction branches generalizing world with
  | nil => simp [runBranches] at hreply
  | cons graph rest ih =>
    simp only [runBranches] at hreply
    rcases List.mem_cons.mp hreply with hhead | hrest
    · split at hhead
      · next start _ =>
        subst hhead
        cases hlog
        exact ⟨graph, List.mem_cons_self, start, rfl, rfl⟩
      · subst hhead
        cases hlog
      · subst hhead
        cases hlog
    · obtain ⟨inner, hinner, start, heq⟩ := ih hrest
      exact ⟨inner, List.mem_cons_of_mem _ hinner, start, heq⟩

theorem executeNode_nested {log : RunLog Call}
    (hlog : log ∈ (executeNode env runSub graph node ctx world).nested) :
    ∃ inner ∈ subgraphs node, ∃ start world, log = (runSub inner start world).log := by
  unfold executeNode at hlog
  split at hlog
  · simp [ofExecutor] at hlog
  · simp at hlog
  · unfold runExtractorNode at hlog
    split at hlog
    · simp at hlog
    · dsimp only at hlog
      split at hlog <;> simp at hlog
  · unfold runDelayNode at hlog
    split at hlog <;> simp at hlog
  · next subflowGraph config hkind =>
    unfold runSubflowNode at hlog
    split at hlog
    · simp at hlog
    · next inner =>
      have hinner : inner ∈ subgraphs node := by simp [subgraphs, hkind]
      dsimp only at hlog
      split at hlog
      all_goals exact ⟨inner, hinner, _, _, List.mem_singleton.mp hlog⟩
  · next branches mode joinStrategy policy hkind =>
    unfold runParallelNode at hlog
    split at hlog
    · simp at hlog
    · have hnested : log ∈
          (runBranches env runSub ctx branches world).1.filterMap BranchReply.log := by
        dsimp only at hlog
        split at hlog <;> exact hlog
      obtain ⟨reply, hreply, hsome⟩ := List.mem_filterMap.mp hnested
      obtain ⟨inner, hinner, start, -, heq⟩ := runBranches_log hreply hsome
      exact ⟨inner, by simpa [subgraphs, hkind] using hinner, _, start, heq⟩
  · rw [(runWaitEventNode_reply ctx world).nested] at hlog
    simp at hlog
  · simp [ofExecutor] at hlog

/-! ## Whose outcome it is -/

/-- The executor answers for the node it was given. -/
def ExecutorNames (env : Env World Call) : Prop :=
  ∀ node ctx world outcome, (env.executor node ctx world).exit = .returned outcome →
    outcome.nodeId = node.id

/-- The executor never asks for another attempt. -/
def ExecutorSettles (env : Env World Call) : Prop :=
  ∀ node ctx world outcome, (env.executor node ctx world).exit = .returned outcome →
    outcome.signal ≠ .retryNode

def branchTargets (node : Node) : List (Option String) :=
  match node.kind with
  | .condition cases defaultTargetId =>
    cases.map (fun case => some (normalizeTarget case.targetId)) ++
      [some (normalizeTarget (pyOr defaultTargetId (some TERMINAL_FAIL_ID)))]
  | .waitEvent config => [config.retryEntryNodeId]
  | _ => []

/-- What the engine's own nodes say. -/
structure OwnOutcome (node : Node) (outcome : StepOutcome) : Prop where
  nodeId : outcome.nodeId = node.id
  signal : outcome.signal ≠ .retryNode
  final : finalStatus outcome.status = true
  branch : outcome.signal = .branch → outcome.targetNodeId ∈ branchTargets node

theorem OwnOutcome.ofProceed (hid : outcome.nodeId = node.id) (hsignal : outcome.signal = .proceed)
    (hfinal : finalStatus outcome.status = true) : OwnOutcome node outcome where
  nodeId := hid
  signal := by simp [hsignal]
  final := hfinal
  branch := by simp [hsignal]

theorem finalStatus_ite (condition : Prop) [Decidable condition] :
    finalStatus (if condition then .success else .failed) = true := by
  split <;> rfl

theorem runConditionNode_own {cases : List ConditionCase} {defaultTargetId : Option String}
    (hkind : node.kind = .condition cases defaultTargetId) (ctx : ScopedFlowContext) :
    OwnOutcome node (runConditionNode env node.id cases defaultTargetId ctx) := by
  unfold runConditionNode
  split
  · next case hcase =>
    have hmem : case ∈ cases := List.mem_of_find?_eq_some hcase
    refine ⟨rfl, by simp, rfl, fun _ => ?_⟩
    simp only [branchTargets, hkind]
    exact List.mem_append_left _ (List.mem_map_of_mem hmem)
  · refine ⟨rfl, by simp, rfl, fun _ => ?_⟩
    simp [branchTargets, hkind]

theorem executeNode_outcome
    (hexit : (executeNode env runSub graph node ctx world).exit = .returned outcome) :
    OwnOutcome node outcome ∨
      ∃ before start, (env.executor node before start).exit = .returned outcome := by
  unfold executeNode at hexit
  split at hexit
  · exact Or.inr ⟨_, _, hexit⟩
  · next cases defaultTargetId hkind =>
    rw [← Exit.returned.inj hexit]
    exact Or.inl (runConditionNode_own hkind ctx)
  · unfold runExtractorNode at hexit
    split at hexit
    · cases hexit
    · dsimp only at hexit
      split at hexit <;> rw [← Exit.returned.inj hexit] <;> exact Or.inl (.ofProceed rfl rfl rfl)
  · unfold runDelayNode at hexit
    split at hexit <;> cases hexit
    exact Or.inl (.ofProceed rfl rfl rfl)
  · unfold runSubflowNode at hexit
    split at hexit
    · rw [← Exit.returned.inj hexit]
      exact Or.inl (.ofProceed rfl rfl rfl)
    · dsimp only at hexit
      split at hexit <;> cases hexit
      exact Or.inl (.ofProceed rfl rfl (finalStatus_ite _))
  · unfold runParallelNode at hexit
    split at hexit
    · rw [← Exit.returned.inj hexit]
      exact Or.inl (.ofProceed rfl rfl rfl)
    · dsimp only at hexit
      split at hexit <;> cases hexit
      exact Or.inl (.ofProceed rfl rfl (finalStatus_ite _))
  · next config hkind =>
    have hwait := (runWaitEventNode_reply ctx world).outcome outcome hexit
    exact Or.inl
      { nodeId := hwait.nodeId
        signal := hwait.signal
        final := hwait.final
        branch := fun hbranch => by simp [branchTargets, hkind, hwait.branch hbranch] }
  · exact Or.inr ⟨_, _, hexit⟩

theorem executeNode_signal (hsettles : ExecutorSettles env)
    (hexit : (executeNode env runSub graph node ctx world).exit = .returned outcome) :
    outcome.signal ≠ .retryNode := by
  rcases executeNode_outcome hexit with hown | ⟨before, start, hexecutor⟩
  · exact hown.signal
  · exact hsettles _ _ _ _ hexecutor

theorem attemptsOf_outcome (Says : StepOutcome → Prop) (hexecute : ∀ ctx world outcome,
      (executeNode env runSub graph node ctx world).exit = .returned outcome → Says outcome)
    (hgaveUp : ∀ outcome : StepOutcome, outcome.nodeId = node.id →
      outcome.signal = .proceed → failedStatus outcome.status = true → Says outcome)
    (hexit : (attemptsOf env runSub graph node ctx world).exit = .returned outcome)
    (hexhausted : ∀ last, Says last → Says (exhausted last)) : Says outcome := by
  have hattempts : ∀ attempt ∈ (attemptsOf env runSub graph node ctx world).attempts,
      ∀ result, attempt.exit = .returned result → Says result := by
    intro attempt hattempt result hresult
    obtain ⟨before, start, rfl⟩ := attemptLoop_mem hattempt
    exact hexecute before start result hresult
  cases attemptLoop_outcome hexit with
  | attempt hattempt hreturned => exact hattempts _ hattempt _ hreturned
  | raised error =>
    refine hgaveUp _ rfl rfl ?_
    simp only [failedOutcome]
    split <;> rfl
  | exhausted hattempt hreturned =>
    exact hexhausted _ (hattempts _ hattempt _ hreturned)
  | none => exact hgaveUp _ rfl rfl rfl

theorem attemptsOf_nodeId (hnames : ExecutorNames env)
    (hexit : (attemptsOf env runSub graph node ctx world).exit = .returned outcome) :
    outcome.nodeId = node.id := by
  refine attemptsOf_outcome (fun outcome => outcome.nodeId = node.id) ?_
    (fun _ hid _ _ => hid) hexit (fun _ hid => hid)
  intro before start result hresult
  rcases executeNode_outcome hresult with hown | ⟨earlier, begun, hexecutor⟩
  · exact hown.nodeId
  · exact hnames _ _ _ _ hexecutor

theorem attemptsOf_wait_success (hwait : isWaitEvent node = true)
    (hexit : (attemptsOf env runSub graph node ctx world).exit = .returned outcome)
    (hsuccess : outcome.status = .success) :
    (∃ attempt ∈ (attemptsOf env runSub graph node ctx world).attempts,
      attempt.accepted = true) ∨ restarts outcome = true := by
  cases attemptLoop_outcome hexit with
  | attempt hattempt hreturned =>
    obtain ⟨before, start, rfl⟩ := attemptLoop_mem hattempt
    cases hkind : node.kind with
    | waitEvent config =>
      have hexecute : executeNode env runSub graph node before start =
          runWaitEventNode env graph node config before start := by
        simp only [executeNode, hkind]
      rw [hexecute] at hattempt hreturned
      have hreply := (runWaitEventNode_reply before start).outcome _ hreturned
      exact (hreply.success hsuccess).imp_left fun haccepted => ⟨_, hattempt, haccepted⟩
    | _ => simp [isWaitEvent, hkind] at hwait
  | raised error =>
    simp only [failedOutcome] at hsuccess
    split at hsuccess <;> cases hsuccess
  | exhausted hattempt hreturned => cases hsuccess
  | none => cases hsuccess

end SignPulse.NodeLaws
