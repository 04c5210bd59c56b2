import Mathlib.Data.Int.Order.Basic
import SignPulse.Flow.PlainVisits
import SignPulse.Flow.RetryTrace

/-!
# The limit on retries

Between two clears of its entry a wait node retries at most as often as it is allowed to,
however often a run leaves it and comes back.  When it has retried that often, the next
reply that asks for a retry ends it in a failure.
-/

namespace SignPulse.RetryBounds

open Foundation
open FlowModels
open FlowContext
open RunEnvironment
open WaitEvent
open NodeRuns
open FlowEngine
open EngineLaws
open PlainVisits
open RetryTrace
open TelegramExecutor

variable {World Call : Type} {env : Env World Call} {graph : ExecutionGraph}

/-- The reply made the node under `key` resend its action or restart the flow. -/
def retriesAt (env : Env World Call) (graph : ExecutionGraph) (key : String)
    (handling : Handling World Call) : Bool :=
  handling.key == key && handling.retries env graph

/-- The reply cleared the entry of `nodeId`. -/
def clearsEntry (env : Env World Call) (nodeId : String) (handling : Handling World Call) : Bool :=
  handling.node.id == nodeId && handling.clears env

/-! ## Counting -/

variable {handling : Handling World Call} {before after : Dict String ℤ} {nodeId key : String}
variable {node : Node} {config : WaitEventConfig} {reply : NodeReply World Call}

variable (hstep : Handles env graph handling before after)

include hstep

theorem entry_of_clearsEntry
    (hclears : clearsEntry env nodeId handling = true) : retryEntry after nodeId = 0 := by
  simp only [clearsEntry, Bool.and_eq_true, beq_iff_eq] at hclears
  obtain ⟨rfl, hclears⟩ := hclears
  cases hstep.after with
  | cleared _ =>
    rw [retryEntry, Dict.getItem_popItem_self]
    rfl
  | kept hkept _ => exact absurd (hkept.symm.trans hclears) Bool.false_ne_true
  | counted hkept _ => exact absurd (hkept.symm.trans hclears) Bool.false_ne_true

theorem entry_le_of_handles (hclears : clearsEntry env nodeId handling = false) :
    retryEntry before nodeId ≤ retryEntry after nodeId := by
  have hcounts := hstep.counts
  unfold retryEntry
  by_cases hid : nodeId = handling.node.id
  · subst hid
    cases hstep.after with
    | cleared hcleared => simp [clearsEntry, hcleared] at hclears
    | kept _ _ => rw [hcounts]
    | counted _ _ =>
      have hcount := hstep.count
      unfold retryEntry at hcount
      rw [Dict.getItem_setItem_self, Option.getD_some, hcount]
      omega
  · cases hstep.after with
    | cleared _ => rw [Dict.getItem_popItem_of_ne _ hid, hcounts]
    | kept _ _ => rw [hcounts]
    | counted _ _ => rw [Dict.getItem_setItem_of_ne _ _ hid, hcounts]

/-- A retry is allowed by the count that it meets, and counted. -/
theorem entry_of_retries (hretries : handling.retries env graph = true) :
    retryEntry before handling.node.id < handling.config.maxRetries ∧
      retryEntry after handling.node.id = retryEntry before handling.node.id + 1 := by
  have hasks : handling.asks env = true := by
    cases hcase : handling.asks env with
    | true => rfl
    | false => exact absurd hretries (by simp [retries_of_not_asks hcase])
  cases hstep.after with
  | cleared hclears =>
    exact absurd ((clears_of_asks hasks).symm.trans hclears) Bool.false_ne_true
  | kept _ hkept => exact absurd (hkept.symm.trans hretries) Bool.false_ne_true
  | counted _ hbelow =>
    rw [← hstep.count]
    refine ⟨hbelow, ?_⟩
    rw [retryEntry, Dict.getItem_setItem_self, Option.getD_some]

omit hstep

section

variable (hnode : Dict.getItem graph.nodes key = some node) (hkind : node.kind = .waitEvent config)

include hnode hkind

theorem retriesAt_eq (hstep : Handles env graph handling before after) (hkey : handling.key = key) :
    handling.node = node ∧ handling.config = config := by
  have hsame : handling.node = node := by
    have hfound := hstep.node
    rw [hkey, hnode] at hfound
    exact (Option.some.inj hfound).symm
  refine ⟨hsame, ?_⟩
  have hconfig := hstep.kind
  rw [hsame, hkind] at hconfig
  exact (NodeKind.waitEvent.inj hconfig).symm

theorem countP_retries {segment : List (Handling World Call)}
    {first last : Dict String ℤ} (hpasses : Passes (Handles env graph) first segment last)
    (huncleared : ∀ handling ∈ segment, clearsEntry env node.id handling = false) :
    retryEntry first node.id + segment.countP (retriesAt env graph key) ≤ retryEntry last node.id ∧
      (segment.countP (retriesAt env graph key) = 0 ∨
        retryEntry first node.id + segment.countP (retriesAt env graph key) ≤
          config.maxRetries) := by
  induction hpasses with
  | nil value => simp
  | @cons first next last handling rest hstep hrest ih =>
    obtain ⟨hlast, hlimit⟩ := ih fun later hlater =>
      huncleared later (List.mem_cons_of_mem _ hlater)
    have hkept := entry_le_of_handles hstep (huncleared handling List.mem_cons_self)
    rw [List.countP_cons]
    cases hretries : retriesAt env graph key handling with
    | false =>
      simp only [Bool.false_eq_true, if_false, Nat.add_zero]
      omega
    | true =>
      simp only [retriesAt, Bool.and_eq_true, beq_iff_eq] at hretries
      obtain ⟨hsame, hconfig⟩ := retriesAt_eq hnode hkind hstep hretries.1
      obtain ⟨hbelow, hcounted⟩ := entry_of_retries hstep hretries.2
      rw [hsame] at hbelow hcounted
      rw [hconfig] at hbelow
      simp only [if_true]
      omega

end

theorem entry_nonneg {items : List (Handling World Call)} {first last : Dict String ℤ}
    (hpasses : Passes (Handles env graph) first items last) (hstart : 0 ≤ retryEntry first nodeId ∨
      ∃ handling ∈ items, clearsEntry env nodeId handling = true) :
    0 ≤ retryEntry last nodeId := by
  induction hpasses with
  | nil value =>
    rcases hstart with hstart | ⟨handling, hmem, -⟩
    · exact hstart
    · exact absurd hmem List.not_mem_nil
  | @cons first next last handling rest hstep hrest ih =>
    refine ih ?_
    cases hclears : clearsEntry env nodeId handling with
    | true => exact Or.inl (entry_of_clearsEntry hstep hclears).ge
    | false =>
      rcases hstart with hstart | ⟨other, hother, hcleared⟩
      · exact Or.inl (hstart.trans (entry_le_of_handles hstep hclears))
      · rcases List.mem_cons.mp hother with rfl | hlater
        · exact absurd (hclears.symm.trans hcleared) Bool.false_ne_true
        · exact Or.inr ⟨other, hlater, hcleared⟩

/-! ## How a visit ends -/

theorem waitLoop_of_mem_waitTrace {chatId : ChatId} {threadId : Option ℤ}
    (hresult : handling.result env graph = .inr reply) :
    ∀ (deliveries : List Delivery) (state : WaitState World Call),
      handling ∈ waitTrace env graph key node config chatId threadId deliveries state →
      handling.key = key ∧
        waitLoop env graph node config chatId threadId deliveries state = reply := by
  intro deliveries
  induction deliveries with
  | nil => exact fun state hmem => absurd hmem List.not_mem_nil
  | cons delivery rest ih =>
    intro state hmem
    cases delivery with
    | timedOut => exact absurd hmem List.not_mem_nil
    | gap => exact absurd hmem List.not_mem_nil
    | cancelled level => exact absurd hmem List.not_mem_nil
    | event event =>
      unfold waitTrace at hmem
      unfold waitLoop
      split
      · next hconcerns =>
        rw [if_pos hconcerns] at hmem
        rcases List.mem_cons.mp hmem with rfl | hlater
        · unfold Handling.result at hresult
          rw [hresult]
          exact ⟨rfl, rfl⟩
        · cases hnext : handleEvent env graph node config event state with
          | inl next =>
            rw [hnext] at hlater
            exact ih next hlater
          | inr other =>
            rw [hnext] at hlater
            exact absurd hlater List.not_mem_nil
      · next hother =>
        rw [if_neg hother] at hmem
        exact ih state hmem

theorem executeNode_of_mem_nodeTrace {runSub : SubRun World Call} {key : String} {node : Node}
    {ctx : ScopedFlowContext} {world : World} {handling : Handling World Call}
    {reply : NodeReply World Call} (hresult : handling.result env graph = .inr reply)
    (hmem : handling ∈ nodeTrace env graph key node ctx world) :
    handling.key = key ∧ executeNode env runSub graph node ctx world = reply := by
  unfold nodeTrace at hmem
  cases hkind : node.kind with
  | waitEvent config =>
    rw [hkind] at hmem
    simp only [executeNode, hkind]
    unfold runWaitEventNode
    dsimp only at hmem
    cases hchat : waitChatId config ctx.system with
    | none =>
      rw [hchat] at hmem
      exact absurd hmem List.not_mem_nil
    | some chatId =>
      rw [hchat] at hmem
      exact waitLoop_of_mem_waitTrace hresult _ _ hmem
  | _ =>
    rw [hkind] at hmem
    exact absurd hmem List.not_mem_nil

theorem attemptLoop_of_mem_attemptTrace {runSub : SubRun World Call} {outcome : StepOutcome}
    (hresult : handling.result env graph = .inr reply) (hreturned : reply.exit = .returned outcome)
    (hsignal : outcome.signal ≠ .retryNode) (remaining : ℕ) (ctx : ScopedFlowContext)
    (world : World) (hmem : handling ∈ attemptTrace env runSub graph key node remaining ctx world) :
    handling.key = key ∧
      (attemptLoop env node (executeNode env runSub graph node) remaining ctx world).exit =
        .returned outcome := by
  induction remaining generalizing ctx world with
  | zero => exact absurd hmem List.not_mem_nil
  | succ remaining ih =>
    unfold attemptTrace at hmem
    unfold attemptLoop
    dsimp only at hmem ⊢
    rcases List.mem_append.mp hmem with hnow | hlater
    · obtain ⟨hkey, hexecute⟩ :=
        @executeNode_of_mem_nodeTrace _ _ _ _ runSub _ _ _ _ _ _ hresult hnow
      have hafter : afterAttempt env node (remaining == 0) reply =
          (some (.returned outcome), reply.world) := by
        rw [afterAttempt, hreturned]
        exact if_pos hsignal
      rw [hexecute, hafter]
      exact ⟨hkey, rfl⟩
    · cases hafter : afterAttempt env node (remaining == 0)
          (executeNode env runSub graph node ctx world) with
      | mk exit next =>
        rw [hafter] at hlater
        cases exit with
        | some exit => exact absurd hlater List.not_mem_nil
        | none => exact ih _ next hlater

def Records (key : String) (outcome : StepOutcome) (visits : List (Visit Call (RunLog Call))) :
    Prop :=
  ∃ visit ∈ visits, visit.key = key ∧ visit.outcome = some outcome

theorem records_turn {handling : Handling World Call} {reply : NodeReply World Call}
    {outcome : StepOutcome} (hresult : handling.result env graph = .inr reply)
    (hreturned : reply.exit = .returned outcome) (hsignal : outcome.signal ≠ .retryNode)
    {runSub : SubRun World Call} (state : RunState World Call)
    (hmem : handling ∈ turnTrace env runSub graph state) :
    Records handling.key outcome (endState (turn env runSub graph state)).visits := by
  unfold turnTrace at hmem
  split at hmem
  · exact absurd hmem List.not_mem_nil
  · next hgoes =>
    split at hmem
    · exact absurd hmem List.not_mem_nil
    · next node hnode =>
      split at hmem
      · exact absurd hmem List.not_mem_nil
      · next hallowed =>
        split at hmem
        · next hguard =>
          obtain ⟨hkey, hexit⟩ := attemptLoop_of_mem_attemptTrace hresult hreturned
            hsignal _ _ _ hmem
          rw [Option.not_isSome_iff_eq_none] at hallowed
          simp only [Bool.or_eq_true, decide_eq_true_eq, not_or] at hgoes
          rw [turn, if_neg (by simp [hgoes.1]), if_neg hgoes.2, hnode]
          dsimp only
          rw [hallowed]
          dsimp only
          have hsettled := @visitNode_settled _ _ env runSub graph node
            (state.enter node) outcome hguard hexit
          rw [hsettled, (settle_kept _ _ _ _).visits]
          exact ⟨_, List.mem_append_right _ List.mem_cons_self, hkey.symm, rfl⟩
        · exact absurd hmem List.not_mem_nil

theorem records_run {outcome : StepOutcome} (hresult : handling.result env graph = .inr reply)
    (hreturned : reply.exit = .returned outcome) (hsignal : outcome.signal ≠ .retryNode)
    {ctx : ScopedFlowContext} {world : World} (hmem : handling ∈ runTrace env graph ctx world) :
    Records handling.key outcome (run env graph ctx world).log.visits := by
  have hkeep : ∀ state : RunState World Call, Records handling.key outcome state.visits →
      Records handling.key outcome (endState (turn env (run env) graph state)).visits := by
    rintro state ⟨visit, hvisit, hrecords⟩
    cases turn_cases env (run env) graph state with
    | ended terminal error heq =>
      rw [heq]
      exact ⟨visit, hvisit, hrecords⟩
    | refused node error heq =>
      rw [heq]
      exact ⟨visit, hvisit, hrecords⟩
    | visited node last after hnode hsteps hallowed hrun heffect =>
      rw [heffect.visits]
      exact ⟨visit, List.mem_append_left _ hvisit, hrecords⟩
  have hemit := @records_turn _ _ env graph handling reply outcome hresult hreturned hsignal (run env)
  rw [run_eq_conclude]
  refine whileLoop_of_mem_whileTrace (fun state => Records handling.key outcome state.visits)
    (fun departure => Records handling.key outcome departure.state.visits)
    ?_ ?_ ?_ ?_ ?_ _ _ (Or.inr hmem)
  · intro state next hitem hagain
    simpa only [hagain, endState] using hemit state hitem
  · intro state departure hitem hleave
    simpa only [hleave, endState] using hemit state hitem
  · intro state next hseen hagain
    simpa only [hagain, endState] using hkeep state hseen
  · intro state departure hseen hleave
    simpa only [hleave, endState] using hkeep state hseen
  · intro state hseen
    exact hseen

/-! ## The limit -/

/-- A stretch of the trace of a run in which the entry of `nodeId` is not cleared: after a
clear, or from the start of a run that found no negative count. -/
structure Stretch (env : Env World Call) (graph : ExecutionGraph) (ctx : ScopedFlowContext)
    (world : World) (nodeId : String) (before segment after : List (Handling World Call)) :
    Prop where
  trace : runTrace env graph ctx world = before ++ segment ++ after
  start : 0 ≤ retryEntry ctx.system.replyRetryCount nodeId ∨
    ∃ handling ∈ before, clearsEntry env nodeId handling = true
  uncleared : ∀ handling ∈ segment, clearsEntry env nodeId handling = false

def RetryExhausted (outcome : StepOutcome) : Prop :=
  outcome.status = .failed ∧ outcome.details.failureCategory = some "retry_exhausted"

/-- While its entry is not cleared a wait node retries at most `max(0, max_retries)` times.
After that many retries the next reply that asks for one makes it fail. -/
theorem retries_bounded (hkeeps : KeepsRetryCounts env) {ctx : ScopedFlowContext}
    {world : World} {key : String} {node : Node} {config : WaitEventConfig}
    (hnode : Dict.getItem graph.nodes key = some node) (hkind : node.kind = .waitEvent config)
    {before segment after : List (Handling World Call)}
    (hstretch : Stretch env graph ctx world node.id before segment after) :
    (segment.countP (retriesAt env graph key) : ℤ) ≤ max 0 config.maxRetries ∧
      ∀ handling later, after = handling :: later → handling.key = key → handling.asks env = true →
        max 0 config.maxRetries ≤ segment.countP (retriesAt env graph key) →
        handling.retries env graph = false ∧ ∃ outcome, RetryExhausted outcome ∧
            Records key outcome (run env graph ctx world).log.visits := by
  obtain ⟨last, hpasses⟩ := @passes_runTrace _ _ env graph hkeeps ctx world
  rw [hstretch.trace] at hpasses
  obtain ⟨reached, hpasses, hafter⟩ := hpasses.split
  obtain ⟨first, hbefore, hsegment⟩ := hpasses.split
  have hstart := entry_nonneg hbefore hstretch.start
  obtain ⟨hcounted, hlimit⟩ := countP_retries hnode hkind hsegment hstretch.uncleared
  refine ⟨by omega, ?_⟩
  rintro handling later rfl hkey hasks hspent
  cases hafter with
  | cons hstep hlater =>
    obtain ⟨hsame, hconfig⟩ := retriesAt_eq hnode hkind hstep hkey
    have hcount := hstep.count
    rw [hsame] at hcount
    have hmost : handling.config.maxRetries ≤ handling.state.retryCount := by
      rw [hconfig, hcount]
      omega
    have hmem : handling ∈ runTrace env graph ctx world := by
      rw [hstretch.trace]
      exact List.mem_append_right _ List.mem_cons_self
    have hrecords := records_run (result_of_spent hasks hmost) rfl (by simp [exhaustedOutcome]) hmem
    rw [hkey] at hrecords
    have hrefused : ¬ handling.state.retryCount < handling.config.maxRetries := by omega
    exact ⟨by simp [Handling.retries, hrefused], _, ⟨rfl, rfl⟩, hrecords⟩

/-! ## The Telegram executor -/

/-! ## A bot that is always busy -/

/-- Commands that succeed, and a bot that always asks to try again. -/
def busyEnv : Env Unit Unit :=
  { Env.still fun node ctx world =>
      { exit := .returned { nodeId := node.id, status := .success }, ctx, world } with
    deliveries := fun _ _ world =>
      ([.event { chatId := 7, messageId := 11, text := "busy", occurredAt := 1 }], world)
    matchesRetryKeyword := fun text keywords => keywords.find? (· == text) }

def busyConfig : WaitEventConfig where
  chatId := some (.number 7)
  retryKeywords := ["busy"]
  maxRetries := 2
  retryEntryNodeId := some "send"

def busyWait : Node where
  id := "wait"
  kind := .waitEvent busyConfig

/-- A command, and a wait that starts again with the command. -/
def busyGraph : ExecutionGraph where
  entryNodeId := "send"
  nodes := [("send", { id := "send", nextNodeId := some "wait" }), ("wait", busyWait)]

/-- The replies that the wait of `busyGraph` handles. -/
def busyTrace : List (Handling Unit Unit) :=
  runTrace busyEnv busyGraph {} ()

theorem keepsRetryCounts_busyEnv : KeepsRetryCounts busyEnv := by
  intro node ctx world
  rfl

theorem stretch_busyGraph :
    Stretch busyEnv busyGraph {} () "wait" [] (busyTrace.take 2) (busyTrace.drop 2) where
  trace := (List.take_append_drop 2 busyTrace).symm
  start := Or.inl (by decide)
  uncleared := by decide

/-- The flow is started again twice, and then the wait fails. -/
theorem retries_bounded_busyGraph :
    ((busyTrace.take 2).countP (retriesAt busyEnv busyGraph "wait") : ℤ) ≤ max 0 2 ∧
      ∃ outcome, RetryExhausted outcome ∧
        Records "wait" outcome (run busyEnv busyGraph {} ()).log.visits := by
  have hbounded := retries_bounded keepsRetryCounts_busyEnv
    (show Dict.getItem busyGraph.nodes "wait" = some busyWait from rfl) rfl stretch_busyGraph
  refine ⟨hbounded.1, ?_⟩
  exact (hbounded.2 _ _ rfl rfl (by decide) (by decide)).2

end SignPulse.RetryBounds
