import SignPulse.Foundation.StepRun
import SignPulse.Flow.PublishedEvents
import SignPulse.Flow.TelegramExecutor
import SignPulse.Flow.WaitEvent

/-!
# A wait node beside its bus

One visit to a wait node, with everything that others do to the bus in between: before
the node subscribes, while it waits or sleeps, and while its action is sent again.  The
list of all publications, and the place in it at which the latest resend began, are kept
beside the state.
-/

namespace SignPulse.ResendRuns

open Foundation
open FlowModels
open FlowContext
open RunEnvironment
open WaitEvent
open EventBus
open LateSubscribers
open PublishedEvents
open TelegramExecutor

variable {World Call : Type}

/-- The variables of the wait. -/
structure Waiting (World Call : Type) where
  queue : ℕ
  chatId : ChatId
  threadId : Option ℤ
  loop : WaitState World Call

inductive Phase (World Call : Type) where
  /-- The node is about to be executed. -/
  | entered (ctx : ScopedFlowContext) (world : World)
  /-- `queue.get()`. -/
  | waiting (wait : Waiting World Call)
  /-- `asyncio.sleep(retry_interval)`. -/
  | sleeping (wait : Waiting World Call)
  /-- `executor(action_node, ctx)`. -/
  | resending (wait : Waiting World Call) (action : Node)
  /-- The node has ended, by taking the event as its confirmation if there is one. -/
  | ended (wait : Option (Waiting World Call)) (reply : NodeReply World Call)
      (confirmed : Option BusEvent)

structure Visit (World Call : Type) where
  bus : TelegramEventBus
  published : List BusEvent
  phase : Phase World Call
  /-- How many events were published when the latest resend of the visit began. -/
  resendBegan : Option ℕ := none

inductive Action where
  | others (step : BusStep)
  | subscribe (now : ℚ)
  | take
  | wake
  | finishResend
  | noticeGap
  | timeOut
  | cancel (level : ℕ)

section Steps

variable (env : Env World Call) (graph : ExecutionGraph) (settings : BusSettings)
  (node : Node) (config : WaitEventConfig)

/-- The end of the node, with its `finally`. -/
def finish (visit : Visit World Call) (wait : Waiting World Call)
    (reply : NodeReply World Call) (confirmed : Option BusEvent) : Visit World Call :=
  { visit with
    bus := unsubscribe settings wait.chatId wait.threadId wait.queue visit.bus
    phase := .ended (some wait) reply confirmed }

/-- The part before the loop. -/
def enterNode (now : ℚ) (ctx : ScopedFlowContext) (world : World)
    (visit : Visit World Call) : Visit World Call :=
  match waitChatId config ctx.system with
  | none =>
    { visit with
      phase :=
        .ended none
          { exit := .returned
              { nodeId := node.id, status := .failed,
                outputText :=
                  s!"WaitEventNode {node.id} 缺少 chat_id 配置，无法订阅消息事件",
                updatesLastOutput := false }
            ctx, world }
          none }
  | some chatId =>
    let threadId := waitThreadId config ctx.system
    let watermark := initialWatermark config ctx.system
    let (queue, bus) :=
      EventBus.subscribe settings now
        { chatId
          messageThreadId := threadId
          minMessageId := watermark.minMessageId
          eventType := some config.eventType
          sinceTimestamp := watermark.sinceTimestamp }
        visit.bus
    { visit with
      bus
      phase :=
        .waiting
          { queue, chatId, threadId
            loop :=
              { ctx, world
                calls := []
                retryCount := (Dict.getItem ctx.system.replyRetryCount node.id).getD 0
                watermark
                unmatchedReplies := [] } } }

def gapFound (visit : Visit World Call) (wait : Waiting World Call) : Bool :=
  deliveryGap (visit.bus.getDeliveryStats wait.queue)

/-- What the loop makes of the next event of its queue. -/
def handleNext (event : BusEvent) (wait : Waiting World Call)
    (visit : Visit World Call) : Visit World Call :=
  let loop := wait.loop
  if gapFound visit wait then
    finish settings visit wait (loop.finish (gapOutcome node.id)) none
  else if concerns config wait.chatId wait.threadId loop.watermark event.toTelegramMessageEvent then
    match env.matchesRetryKeyword event.text config.retryKeywords with
    | some _ =>
      if loop.retryCount < config.maxRetries then
        { visit with phase := .sleeping wait }
      else
        finish settings visit wait
          (loop.finish (exhaustedOutcome node.id loop.retryCount event.text)) none
    | none =>
      match handleEvent env graph node config event.toTelegramMessageEvent loop with
      | .inl next => { visit with phase := .waiting { wait with loop := next } }
      | .inr reply =>
        finish settings visit wait reply (if reply.accepted then some event else none)
  else visit

/-- After the sleep: the retry is counted, and the action goes out again. -/
def wakeUp (wait : Waiting World Call) (visit : Visit World Call) : Visit World Call :=
  match env.pause wait.loop.world with
  | (.cancelled level, world) =>
    finish settings visit wait ({ wait.loop with world }.interrupt (.cancelled level)) none
  | (.raised error, world) =>
    finish settings visit wait ({ wait.loop with world }.interrupt (.raised error)) none
  | (.returned (), world) =>
    let counted := { wait.loop with world }.countRetry node.id
    if truthy config.retryEntryNodeId then
      finish settings visit wait
        (counted.finish
          (restartOutcome node.id counted.retryCount (config.retryEntryNodeId.getD "")))
        none
    else
      match resendAction graph config counted.ctx.system with
      | none =>
        finish settings visit wait
          (counted.finish (resendFailedOutcome node.id "命中重试关键词，但没有可重发的动作" none))
          none
      | some action =>
        { visit with
          phase := .resending { wait with loop := counted } action
          resendBegan := some visit.published.length }

/-- The executor is done. -/
def finishResending (wait : Waiting World Call) (action : Node)
    (visit : Visit World Call) : Visit World Call :=
  match resend env node action wait.loop with
  | .inl next => { visit with phase := .waiting { wait with loop := next } }
  | .inr reply => finish settings visit wait reply none

/-- One step of the node, or of somebody else on the bus. -/
def step (visit : Visit World Call) (action : Action) : Option (Visit World Call) :=
  match action, visit.phase with
  | .others busStep, _ =>
    some
      { visit with
        bus := takeStep settings visit.bus busStep
        published := visit.published ++ publishedBy busStep }
  | .subscribe now, .entered ctx world =>
    some (enterNode settings node config now ctx world visit)
  | .take, .waiting wait =>
    match visit.bus.contents wait.queue with
    | [] => none
    | event :: _ =>
      some (handleNext env graph settings node config event wait
        { visit with bus := readQueue wait.queue visit.bus })
  | .wake, .sleeping wait => some (wakeUp env graph settings node config wait visit)
  | .finishResend, .resending wait action =>
    some (finishResending env settings node wait action visit)
  | .noticeGap, .waiting wait =>
    if gapFound visit wait then
      some (finish settings visit wait (wait.loop.finish (gapOutcome node.id)) none)
    else none
  | .timeOut, .waiting wait =>
    if gapFound visit wait then
      some (finish settings visit wait (wait.loop.finish (gapOutcome node.id)) none)
    else
      some (finish settings visit wait
        (wait.loop.finish (timeoutOutcome node config wait.loop.unmatchedReplies)) none)
  | .cancel level, .waiting wait =>
    some (finish settings visit wait (wait.loop.interrupt (.cancelled level)) none)
  | _, _ => none

end Steps

variable {env : Env World Call} {graph : ExecutionGraph} {settings : BusSettings}
  {node : Node} {config : WaitEventConfig}

/-! ## What a confirmation says -/

/-- The event that confirms the node: whose it is, and when it was published. -/
structure Confirms (config : WaitEventConfig) (system : SystemScope)
    (visit : Visit World Call) (wait : Waiting World Call) (event : BusEvent) : Prop where
  incoming : event.isOutgoing = false
  chat : ∃ chatId, waitChatId config system = some chatId ∧ toString event.chatId = chatId.toStr
  thread : waitThreadId config system = none ∨ event.messageThreadId = waitThreadId config system
  type : matchesEventType config.eventType event.toTelegramMessageEvent = true
  sender : config.senderId = none ∨ event.senderId = config.senderId
  above : aboveWatermark wait.loop.watermark event.toTelegramMessageEvent = true
  published : event ∈ visit.published
  later : ∀ began, visit.resendBegan = some began → event ∈ visit.published.drop began

/-- The watermark that a successful resend leaves. -/
def watermarkAfter (env : Env World Call) (action : Node) (loop : WaitState World Call) :
    Watermark where
  minMessageId := sentMessageId (env.executor action loop.ctx loop.world).ctx.system
  sinceTimestamp := some (env.now loop.world)

/-- The event stands in the list of publications from the place `began` on. -/
def publishedSince (visit : Visit World Call) (event : BusEvent) : Bool :=
  visit.resendBegan.all fun began => (visit.published.drop began).contains event

def sentAgain (env : Env World Call) (action : Node) (loop : WaitState World Call) : Bool :=
  match (env.executor action loop.ctx loop.world).exit with
  | .returned outcome => outcome.status == .success
  | _ => false

/-- When a resend has succeeded, the events that are still queued from before it began,
and would belong to the node, are not above the watermark that it leaves. -/
def freshResend (env : Env World Call) (config : WaitEventConfig) (visit : Visit World Call)
    (action : Action) : Bool :=
  match action, visit.phase with
  | .finishResend, .resending wait resent =>
    !sentAgain env resent wait.loop || (visit.bus.contents wait.queue).all fun event =>
      publishedSince visit event ||
        !concerns config wait.chatId wait.threadId (watermarkAfter env resent wait.loop)
          event.toTelegramMessageEvent
  | _, _ => true

theorem watermark_of_resend {action : Node} {loop next : WaitState World Call}
    (hnext : resend env node action loop = .inl next) :
    sentAgain env action loop = true ∧ next.watermark = watermarkAfter env action loop := by
  simp only [resend] at hnext
  split at hnext
  · next outcome hexit =>
    split at hnext
    · next hsuccess =>
      cases hnext
      refine ⟨?_, rfl⟩
      rw [sentAgain, hexit]
      exact beq_iff_eq.mpr hsuccess
    · cases hnext
  · cases hnext
  · cases hnext
  · cases hnext

/-! ## What holds along a visit -/

/-- The wait is that of the node, and its queue brings what was published, and after a
resend only what was published since, as far as the loop would look at it. -/
structure Listens (config : WaitEventConfig) (system : SystemScope) (visit : Visit World Call)
    (wait : Waiting World Call) : Prop where
  chat : waitChatId config system = some wait.chatId
  thread : wait.threadId = waitThreadId config system
  queue : wait.queue < visit.bus.nextQueue
  began : ∀ began, visit.resendBegan = some began → began ≤ visit.published.length
  queued : ∀ event ∈ visit.bus.contents wait.queue, event ∈ visit.published

def LooksAhead (config : WaitEventConfig) (visit : Visit World Call)
    (wait : Waiting World Call) : Prop :=
  ∀ event ∈ visit.bus.contents wait.queue,
    concerns config wait.chatId wait.threadId wait.loop.watermark
      event.toTelegramMessageEvent = true →
    ∀ began, visit.resendBegan = some began → event ∈ visit.published.drop began

def PhaseSound (config : WaitEventConfig) (system : SystemScope) (visit : Visit World Call) :
    Prop :=
  match visit.phase with
  | .entered ctx _ => ctx.system = system ∧ visit.resendBegan = none
  | .waiting wait => Listens config system visit wait ∧ LooksAhead config visit wait
  | .sleeping wait => Listens config system visit wait
  | .resending wait _ => Listens config system visit wait
  | .ended wait _ confirmed =>
    (∀ began, visit.resendBegan = some began → began ≤ visit.published.length) ∧
    ∀ event, confirmed = some event →
      ∃ last, wait = some last ∧ Confirms config system visit last event

structure Sound (config : WaitEventConfig) (system : SystemScope) (visit : Visit World Call) :
    Prop where
  history : ∀ key, visit.bus.historyOf key ⊆ visit.published
  phase : PhaseSound config system visit

variable {system : SystemScope}

variable {event : BusEvent} {more : List BusEvent} {visit later : Visit World Call}
variable {wait : Waiting World Call}

theorem mem_drop_append {published : List BusEvent} {began : ℕ}
    (hmem : event ∈ published.drop began) (more : List BusEvent) :
    event ∈ (published ++ more).drop began := by
  rw [List.drop_append]
  exact List.mem_append_left _ hmem

theorem mem_drop_of_new (hmem : event ∈ more) {published : List BusEvent} {began : ℕ}
    (hbegan : began ≤ published.length) :
    event ∈ (published ++ more).drop began := by
  rw [List.drop_append, Nat.sub_eq_zero_of_le hbegan, List.drop_zero]
  exact List.mem_append_right _ hmem

theorem Confirms.mono (hconfirms : Confirms config system visit wait event) (more : List BusEvent)
    (hpublished : later.published = visit.published ++ more)
    (hbegan : later.resendBegan = visit.resendBegan) :
    Confirms config system later wait event where
  incoming := hconfirms.incoming
  chat := hconfirms.chat
  thread := hconfirms.thread
  type := hconfirms.type
  sender := hconfirms.sender
  above := hconfirms.above
  published := hpublished ▸ List.mem_append_left _ hconfirms.published
  later := by
    intro began hsome
    rw [hbegan] at hsome
    rw [hpublished]
    exact mem_drop_append (hconfirms.later began hsome) more

theorem sound_finish (wait : Waiting World Call) (reply : NodeReply World Call)
    {confirmed : Option BusEvent} (hhistory : ∀ key, visit.bus.historyOf key ⊆ visit.published)
    (hbegan : ∀ began, visit.resendBegan = some began → began ≤ visit.published.length)
    (hconfirmed : ∀ event, confirmed = some event → Confirms config system visit wait event) :
    Sound config system (finish settings visit wait reply confirmed) where
  history := by
    intro key event hevent
    have hgains := @gains_step settings visit.bus
      (.unsubscribe wait.chatId wait.threadId wait.queue)
    rcases hgains.history key event hevent with hold | hnew
    · exact hhistory key hold
    · exact absurd hnew List.not_mem_nil
  phase := by
    refine ⟨hbegan, fun event hevent => ⟨wait, rfl, ?_⟩⟩
    exact (hconfirmed event hevent).mono [] (List.append_nil _).symm rfl

variable (hlistens : Listens config system visit wait)

include hlistens

theorem sound_giveUp
    (hhistory : ∀ key, visit.bus.historyOf key ⊆ visit.published) (reply : NodeReply World Call) :
    Sound config system (finish settings visit wait reply none) := by
  refine sound_finish wait reply hhistory hlistens.began fun event hevent => ?_
  cases hevent

theorem Listens.setPhase (phase : Phase World Call) :
    Listens config system { visit with phase } wait :=
  ⟨hlistens.chat, hlistens.thread, hlistens.queue, hlistens.began, hlistens.queued⟩

theorem Listens.ofBus (hgains : Gains more visit.bus later.bus)
    (hpublished : later.published = visit.published ++ more)
    (hbegan : later.resendBegan = visit.resendBegan) :
    Listens config system later wait where
  chat := hlistens.chat
  thread := hlistens.thread
  queue := hlistens.queue.trans_le hgains.next
  began := by
    intro began hsome
    rw [hbegan] at hsome
    rw [hpublished, List.length_append]
    exact (hlistens.began began hsome).trans (Nat.le_add_right _ _)
  queued := by
    intro event hevent
    rw [hpublished]
    rcases hgains.queues wait.queue hlistens.queue event hevent with hold | hnew
    · exact List.mem_append_left _ (hlistens.queued event hold)
    · exact List.mem_append_right _ hnew

theorem LooksAhead.ofBus
    (hahead : LooksAhead config visit wait) (hgains : Gains more visit.bus later.bus)
    (hpublished : later.published = visit.published ++ more)
    (hbegan : later.resendBegan = visit.resendBegan) : LooksAhead config later wait := by
  intro event hevent hconcerns began hsome
  rw [hbegan] at hsome
  rw [hpublished]
  rcases hgains.queues wait.queue hlistens.queue event hevent with hold | hnew
  · exact mem_drop_append (hahead event hold hconcerns began hsome) more
  · exact mem_drop_of_new hnew (hlistens.began began hsome)

omit hlistens

/-! ## The steps -/

theorem sound_others (hsound : Sound config system visit) (busStep : BusStep) : Sound config system
      { visit with
        bus := takeStep settings visit.bus busStep
        published := visit.published ++ publishedBy busStep } := by
  have hgains := @gains_step settings visit.bus busStep
  refine ⟨?_, ?_⟩
  · intro key event hevent
    rcases hgains.history key event hevent with hold | hnew
    · exact List.mem_append_left _ (hsound.history key hold)
    · exact List.mem_append_right _ hnew
  · have hphase := hsound.phase
    unfold PhaseSound at hphase ⊢
    cases hcase : visit.phase with
    | entered ctx world =>
      rw [hcase] at hphase
      exact hphase
    | waiting wait =>
      rw [hcase] at hphase
      exact ⟨hphase.1.ofBus hgains rfl rfl, hphase.2.ofBus hphase.1 hgains rfl rfl⟩
    | sleeping wait =>
      rw [hcase] at hphase
      exact hphase.ofBus hgains rfl rfl
    | resending wait action =>
      rw [hcase] at hphase
      exact hphase.ofBus hgains rfl rfl
    | ended wait reply confirmed =>
      rw [hcase] at hphase
      refine ⟨?_, ?_⟩
      · intro began hsome
        rw [List.length_append]
        exact (hphase.1 began hsome).trans (Nat.le_add_right _ _)
      · intro event hevent
        obtain ⟨last, hlast, hconfirms⟩ := hphase.2 event hevent
        exact ⟨last, hlast, hconfirms.mono _ rfl rfl⟩

theorem sound_enterNode (now : ℚ) {ctx : ScopedFlowContext} (world : World)
    (hctx : ctx.system = system) (hnone : visit.resendBegan = none)
    (hhistory : ∀ key, visit.bus.historyOf key ⊆ visit.published) :
    Sound config system (enterNode settings node config now ctx world visit) := by
  subst hctx
  unfold enterNode
  cases hchat : waitChatId config ctx.system with
  | none =>
    refine ⟨hhistory, ?_, ?_⟩
    · intro began hsome
      exact absurd (hnone.symm.trans hsome) (by simp)
    · intro event hevent
      cases hevent
  | some chatId =>
    have hopens := @opens_subscribe settings now
      { chatId
        messageThreadId := waitThreadId config ctx.system
        minMessageId := (initialWatermark config ctx.system).minMessageId
        eventType := some config.eventType
        sinceTimestamp := (initialWatermark config ctx.system).sinceTimestamp }
      visit.bus
    refine ⟨?_, ?_, ?_⟩
    · intro key event hevent
      rw [hopens.history] at hevent
      exact hhistory key hevent
    · refine ⟨hchat, rfl, ?_, ?_, ?_⟩
      · rw [hopens.next]
        exact Nat.lt_succ_self _
      · intro began hsome
        exact absurd (hnone.symm.trans hsome) (by simp)
      · intro event hevent
        exact hhistory _ (hopens.filled hevent)
    · intro event _ _ began hsome
      exact absurd (hnone.symm.trans hsome) (by simp)

theorem watermark_of_handleEvent {event : TelegramMessageEvent} {loop next : WaitState World Call}
    (hkeyword : env.matchesRetryKeyword event.text config.retryKeywords = none)
    (hnext : handleEvent env graph node config event loop = .inl next) :
    next.watermark = loop.watermark := by
  rw [handleEvent, hkeyword] at hnext
  dsimp only at hnext
  split at hnext
  · cases hnext
  · split at hnext
    · cases hnext
    · split at hnext
      · cases hnext
      · unfold unmatchedReply at hnext
        dsimp only at hnext
        split at hnext
        · split at hnext
          · cases hnext
          · cases hnext
          · cases hnext
          · cases hnext
            rfl
          · cases hnext
        · cases hnext
          rfl

theorem confirms_of_concerns (hlistens : Listens config system visit wait)
    (hahead : LooksAhead config visit wait) (hqueued : event ∈ visit.bus.contents wait.queue)
    (hconcerns : concerns config wait.chatId wait.threadId wait.loop.watermark
      event.toTelegramMessageEvent = true) : Confirms config system visit wait event := by
  have hlater := hahead event hqueued hconcerns
  simp only [concerns, Bool.and_eq_true, Bool.or_eq_true, beq_iff_eq, Bool.not_eq_true',
    Option.isNone_iff_eq_none] at hconcerns
  obtain ⟨⟨⟨⟨⟨hchat, hthread⟩, hincoming⟩, htype⟩, hsender⟩, habove⟩ := hconcerns
  exact
    { incoming := hincoming
      chat := ⟨wait.chatId, hlistens.chat, hchat⟩
      thread := hlistens.thread ▸ hthread
      type := htype
      sender := hsender
      above := habove
      published := hlistens.queued event hqueued
      later := hlater }

theorem sound_take {rest : List BusEvent}
    (hhistory : ∀ key, visit.bus.historyOf key ⊆ visit.published)
    (hlistens : Listens config system visit wait) (hahead : LooksAhead config visit wait)
    (hphase : visit.phase = .waiting wait) (hqueue : visit.bus.contents wait.queue = event :: rest)
    :
    Sound config system
      (handleNext env graph settings node config event wait
        { visit with bus := readQueue wait.queue visit.bus }) := by
  have hgains := @gains_readQueue [] wait.queue visit.bus
  have hread : Listens config system { visit with bus := readQueue wait.queue visit.bus }
      wait := hlistens.ofBus hgains (List.append_nil _).symm rfl
  have hnext : LooksAhead config { visit with bus := readQueue wait.queue visit.bus } wait :=
    hahead.ofBus hlistens hgains (List.append_nil _).symm rfl
  simp only [handleNext]
  split
  · exact sound_giveUp hread hhistory _
  · split
    · next hconcerns =>
      cases hkeyword : env.matchesRetryKeyword event.text config.retryKeywords with
      | some keyword =>
        dsimp only
        split
        · exact ⟨hhistory, hread.setPhase (.sleeping wait)⟩
        · exact sound_giveUp hread hhistory _
      | none =>
        dsimp only
        cases hresult : handleEvent env graph node config event.toTelegramMessageEvent
            wait.loop with
        | inl next =>
          have hmark := watermark_of_handleEvent hkeyword hresult
          refine ⟨hhistory, ⟨?_, ?_⟩⟩
          · exact ⟨hread.chat, hread.thread, hread.queue, hread.began, hread.queued⟩
          · intro other hother hlooks
            dsimp only at hlooks
            rw [hmark] at hlooks
            exact hnext other hother hlooks
        | inr reply =>
          refine sound_finish wait reply hhistory hread.began fun other hother => ?_
          split at hother
          · cases hother
            have hconfirms := confirms_of_concerns hlistens hahead
              (hqueue ▸ List.mem_cons_self) hconcerns
            exact hconfirms.mono [] (List.append_nil _).symm rfl
          · cases hother
    · refine ⟨hhistory, ?_⟩
      simp only [PhaseSound]
      rw [hphase]
      exact ⟨hread.setPhase (.waiting wait), hnext⟩

theorem sound_wakeUp (hhistory : ∀ key, visit.bus.historyOf key ⊆ visit.published)
    (hlistens : Listens config system visit wait) :
    Sound config system (wakeUp env graph settings node config wait visit) := by
  unfold wakeUp
  split
  · exact sound_giveUp hlistens hhistory _
  · exact sound_giveUp hlistens hhistory _
  · dsimp only
    split
    · exact sound_giveUp hlistens hhistory _
    · split
      · exact sound_giveUp hlistens hhistory _
      · refine ⟨hhistory, hlistens.chat, hlistens.thread, hlistens.queue, ?_, hlistens.queued⟩
        intro began hsome
        exact (Option.some.inj hsome).ge

theorem sound_finishResending {action : Node}
    (hhistory : ∀ key, visit.bus.historyOf key ⊆ visit.published)
    (hlistens : Listens config system visit wait) (hphase : visit.phase = .resending wait action)
    (hfresh : freshResend env config visit .finishResend = true) :
    Sound config system (finishResending env settings node wait action visit) := by
  unfold finishResending
  cases hresend : resend env node action wait.loop with
  | inl next =>
    obtain ⟨hsent, hmark⟩ := watermark_of_resend hresend
    unfold freshResend at hfresh
    rw [hphase] at hfresh
    dsimp only at hfresh
    rw [hsent, Bool.not_true, Bool.false_or] at hfresh
    refine ⟨hhistory, ⟨hlistens.chat, hlistens.thread, hlistens.queue, hlistens.began,
      hlistens.queued⟩, ?_⟩
    intro event hevent hconcerns began hsome
    have hchecked := List.all_eq_true.mp hfresh event hevent
    dsimp only at hconcerns hchecked
    rw [hmark] at hconcerns
    have hsince : publishedSince visit event = true := by
      simpa [hconcerns] using hchecked
    have hcontained : (visit.published.drop began).contains event = true := by
      have hbegan : visit.resendBegan = some began := hsome
      simpa [publishedSince, hbegan] using hsince
    exact List.contains_iff_mem.mp hcontained
  | inr reply => exact sound_giveUp hlistens hhistory reply

theorem sound_step {next : Visit World Call} {action : Action} (hsound : Sound config system visit)
    (hfresh : freshResend env config visit action = true)
    (hstep : step env graph settings node config visit action = some next) :
    Sound config system next := by
  have hhistory := hsound.history
  have hphase := hsound.phase
  unfold PhaseSound at hphase
  unfold step at hstep
  split at hstep
  · cases hstep
    exact sound_others hsound _
  · next now ctx world hcase =>
    cases hstep
    rw [hcase] at hphase
    exact sound_enterNode now world hphase.1 hphase.2 hhistory
  · next wait hcase =>
    rw [hcase] at hphase
    split at hstep
    · cases hstep
    · next event rest hqueue =>
      cases hstep
      exact sound_take hhistory hphase.1 hphase.2 hcase hqueue
  · next wait hcase =>
    cases hstep
    rw [hcase] at hphase
    exact sound_wakeUp hhistory hphase
  · next wait resent hcase =>
    cases hstep
    rw [hcase] at hphase
    exact sound_finishResending hhistory hphase hcase hfresh
  · next wait hcase =>
    rw [hcase] at hphase
    split at hstep
    · cases hstep
      exact sound_giveUp hphase.1 hhistory _
    · cases hstep
  · next wait hcase =>
    rw [hcase] at hphase
    split at hstep
    · cases hstep
      exact sound_giveUp hphase.1 hhistory _
    · cases hstep
      exact sound_giveUp hphase.1 hhistory _
  · next level wait hcase =>
    rw [hcase] at hphase
    cases hstep
    exact sound_giveUp hphase.1 hhistory _
  · cases hstep

/-! ## Runs -/

/-- How the visit ended, if an event confirmed it. -/
def Visit.confirmation (visit : Visit World Call) : Option (Waiting World Call × BusEvent) :=
  match visit.phase with
  | .ended (some wait) _ (some event) => some (wait, event)
  | _ => none

/-- A visit begins: the bus holds only what was published. -/
structure Begins (ctx : ScopedFlowContext) (visit : Visit World Call) : Prop where
  phase : ∃ world, visit.phase = .entered ctx world
  unsent : visit.resendBegan = none
  history : ∀ key, visit.bus.historyOf key ⊆ visit.published

/-- A visit all of whose resends leave a watermark that the older events do not pass ends
in a confirmation only by an event of the node that was published after the latest resend
began. -/
theorem confirms_of_freshResends {ctx : ScopedFlowContext} {first last : Visit World Call}
    {actions : List Action} (hbegins : Begins ctx first)
    (hrun : StepRun (step env graph settings node config)
      (fun visit action => freshResend env config visit action = true) first actions last)
    {wait : Waiting World Call} {event : BusEvent}
    (hended : last.confirmation = some (wait, event)) :
    Confirms config ctx.system last wait event := by
  have hfirst : Sound config ctx.system first := by
    obtain ⟨world, hphase⟩ := hbegins.phase
    refine ⟨hbegins.history, ?_⟩
    rw [PhaseSound, hphase]
    exact ⟨rfl, hbegins.unsent⟩
  have hlast := hrun.invariant (Sound config ctx.system)
    (fun _ _ _ hsound hfresh hstep => sound_step hsound hfresh hstep) hfirst
  have hphase := hlast.phase
  unfold PhaseSound at hphase
  unfold Visit.confirmation at hended
  split at hended
  · next ended reply confirmed hcase =>
    cases hended
    rw [hcase] at hphase
    obtain ⟨other, hother, hconfirms⟩ := hphase.2 event rfl
    cases hother
    exact hconfirms
  · cases hended

/-! ## A click that is made again -/

abbrev ScriptWorld := RunnerWorld (List (Bool × Exit RunnerResult))

/-- The Telegram executor, with keywords and patterns that are whole texts. -/
def clickEnv : Env ScriptWorld ActionRun :=
  telegramEnv
    { Env.still (call Runner.scripted) with
      now := fun _ => 50
      regexSearch := fun pattern text => pattern == text
      matchesRetryKeyword := fun text keywords => keywords.find? (· == text) }
    Runner.scripted

def clickConfig : WaitEventConfig where
  chatId := some (.number 7)
  retryKeywords := ["busy"]
  successPatterns := ["done"]

def clickWait : Node where
  id := "wait"
  kind := .waitEvent clickConfig

def clickSystem : SystemScope where
  lastSentMessageId := some 10
  lastActionNode := some { id := "click" }

def clickVisit (script : List (Bool × Exit RunnerResult)) : Visit ScriptWorld ActionRun where
  bus := {}
  published := []
  phase := .entered { system := clickSystem } { runner := script }

def replyOf (messageId : ℤ) (text : String) (occurredAt : ℚ) : BusEvent where
  chatId := 7
  messageId := messageId
  text := text
  occurredAt := occurredAt
  eventId := s!"msg_7_{messageId}"

theorem begins_clickVisit (script : List (Bool × Exit RunnerResult)) :
    Begins { system := clickSystem } (clickVisit script) where
  phase := ⟨_, rfl⟩
  unsent := rfl
  history := fun _ => List.nil_subset _

/-- Two replies arrive at once, before the action is sent again. -/
def earlyReplies : List Action :=
  [.subscribe 40, .others (.publish 41 (replyOf 12 "busy" 41) false),
    .others (.publish 42 (replyOf 13 "done" 42) false), .take, .wake, .finishResend, .take]

/-- The second reply arrives after the action was sent again. -/
def laterReply : List Action :=
  [.subscribe 40, .others (.publish 41 (replyOf 12 "busy" 41) false), .take, .wake,
    .finishResend, .others (.publish 52 (replyOf 21 "done" 52) false), .take]

def clickStep : Visit ScriptWorld ActionRun → Action → Option (Visit ScriptWorld ActionRun) :=
  step clickEnv { entryNodeId := "wait", nodes := [("wait", clickWait)] } {} clickWait clickConfig

/-- The action is sent again as message 20, and its reply is message 21. -/
theorem confirms_of_freshResends_laterReply : ∃ wait, Confirms clickConfig clickSystem
      (stateAfter clickStep (clickVisit [(true, .returned { messageId := some 20 })]) laterReply)
      wait (replyOf 21 "done" 52) := by
  have hrun : StepRun clickStep
      (fun visit action => freshResend clickEnv clickConfig visit action = true)
      (clickVisit [(true, .returned { messageId := some 20 })]) laterReply
      (stateAfter clickStep (clickVisit [(true, .returned { messageId := some 20 })])
        laterReply) := stepRun_stateAfter (by decide +kernel)
  have hevent : (stateAfter clickStep
      (clickVisit [(true, .returned { messageId := some 20 })]) laterReply).confirmation.map
        Prod.snd = some (replyOf 21 "done" 52) := by decide +kernel
  obtain ⟨⟨wait, event⟩, hended, rfl⟩ := Option.map_eq_some_iff.mp hevent
  exact ⟨wait, confirms_of_freshResends (begins_clickVisit _) hrun hended⟩

/-- The second click has no message of its own, so that the watermark stays at message 10;
the reply to the first click confirms the node. -/
theorem not_confirms_earlyReplies :
    ¬ ∀ (last : Visit ScriptWorld ActionRun) (wait : Waiting ScriptWorld ActionRun)
      (event : BusEvent),
      StepRun clickStep (fun _ _ => True) (clickVisit [(true, .returned {})]) earlyReplies last →
      last.confirmation = some (wait, event) →
      Confirms clickConfig clickSystem last wait event := by
  intro hclaim
  have hrun : StepRun clickStep (fun _ _ => True) (clickVisit [(true, .returned {})])
      earlyReplies (stateAfter clickStep (clickVisit [(true, .returned {})]) earlyReplies) :=
    stepRun_stateAfter (by decide +kernel)
  have hevent : (stateAfter clickStep (clickVisit [(true, .returned {})])
      earlyReplies).confirmation.map Prod.snd = some (replyOf 13 "done" 42) := by
    decide +kernel
  obtain ⟨⟨wait, event⟩, hended, rfl⟩ := Option.map_eq_some_iff.mp hevent
  have hlater := (hclaim _ wait _ hrun hended).later 2 (by decide +kernel)
  have hold : replyOf 13 "done" 42 ∉ (stateAfter clickStep (clickVisit [(true, .returned {})])
      earlyReplies).published.drop 2 := by decide +kernel
  exact hold hlater

end SignPulse.ResendRuns
