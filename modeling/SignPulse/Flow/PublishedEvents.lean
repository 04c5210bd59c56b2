import SignPulse.Flow.LateSubscribers

/-!
# Where the events of a bus come from

A step of the bus puts into its histories, and into the queues that are already handed
out, only what the step publishes.  A new queue is filled from a history.
-/

namespace SignPulse.PublishedEvents

open Foundation
open FlowModels
open EventBus
open HistoryBounds

variable {settings : BusSettings} {events : List BusEvent}

/-- What `after` holds and `before` does not is among the events. -/
structure Gains (events : List BusEvent) (before after : TelegramEventBus) : Prop where
  history : ∀ key, ∀ event ∈ after.historyOf key, event ∈ before.historyOf key ∨ event ∈ events
  queues : ∀ queue < before.nextQueue, ∀ event ∈ after.contents queue,
    event ∈ before.contents queue ∨ event ∈ events
  next : before.nextQueue ≤ after.nextQueue

theorem Gains.refl (events : List BusEvent) (bus : TelegramEventBus) : Gains events bus bus where
  history := fun _ _ => Or.inl
  queues := fun _ _ _ => Or.inl
  next := le_rfl

theorem Gains.trans {first second third : TelegramEventBus}
    (hfirst : Gains events first second) (hsecond : Gains events second third) :
    Gains events first third where
  history := by
    intro key event hevent
    rcases hsecond.history key event hevent with hmiddle | hnew
    · exact hfirst.history key event hmiddle
    · exact Or.inr hnew
  queues := by
    intro queue hqueue event hevent
    rcases hsecond.queues queue (hqueue.trans_le hfirst.next) event hevent with hmiddle | hnew
    · exact hfirst.queues queue hqueue event hmiddle
    · exact Or.inr hnew
  next := hfirst.next.trans hsecond.next

theorem Gains.foldl {α : Type} {step : TelegramEventBus → α → TelegramEventBus}
    (hstep : ∀ bus item, Gains events bus (step bus item)) :
    ∀ (items : List α) (bus : TelegramEventBus), Gains events bus (items.foldl step bus) := by
  intro items
  induction items with
  | nil => exact fun bus => .refl events bus
  | cons item rest ih => exact fun bus => (hstep bus item).trans (ih (step bus item))

theorem Gains.ofShrinks {before after : TelegramEventBus} (hqueues : after.queues = before.queues)
    (hnext : after.nextQueue = before.nextQueue)
    (hhistory : ∀ key, after.historyOf key ⊆ before.historyOf key) :
    Gains events before after where
  history := fun key event hevent => Or.inl (hhistory key hevent)
  queues := by
    intro queue _ event hevent
    unfold TelegramEventBus.contents at hevent ⊢
    rw [hqueues] at hevent
    exact Or.inl hevent
  next := hnext.ge

theorem gains_deliver {event : BusEvent} (hmem : event ∈ events) (bus : TelegramEventBus)
    (queue : ℕ) : Gains events bus (deliver settings event bus queue) := by
  unfold deliver
  split
  · refine ⟨fun _ _ => Or.inl, ?_, le_rfl⟩
    intro other _ held hheld
    unfold TelegramEventBus.contents at hheld ⊢
    by_cases hsame : other = queue
    · subst hsame
      rw [Dict.getItem_setItem_self, Option.getD_some] at hheld
      rcases List.mem_append.mp hheld with hold | hnew
      · exact Or.inl hold
      · exact Or.inr (List.mem_singleton.mp hnew ▸ hmem)
    · rw [Dict.getItem_setItem_of_ne _ _ hsame] at hheld
      exact Or.inl hheld
  · exact .ofShrinks rfl rfl fun _ => List.Subset.refl _

theorem gains_touchKey (now : ℚ) (bus : TelegramEventBus) (key : ScopeKey) :
    Gains events bus (touchKey now bus key) := by
  refine .ofShrinks rfl rfl fun other => ?_
  have hhistory : (touchKey now bus key).historyOf other =
      if other = key then bus.historyOf key else bus.historyOf other :=
    historyOf_setItem bus key other _
  rw [hhistory]
  split
  · next hsame =>
    subst hsame
    exact List.Subset.refl _
  · exact List.Subset.refl _

section

variable {event : BusEvent} (hmem : event ∈ events) (now : ℚ) (bus : TelegramEventBus)
  (key : ScopeKey)

include hmem

theorem gains_remember : Gains events bus (remember settings now event bus key) := by
  refine ⟨?_, fun _ _ _ => Or.inl, le_rfl⟩
  intro other held hheld
  have hhistory : (remember settings now event bus key).historyOf other = if other = key then
        (lastElements settings.bufferSize (bus.historyOf key ++ [event])).filter
          (unexpired settings now)
      else bus.historyOf other :=
    historyOf_setItem bus key other _
  rw [hhistory] at hheld
  split at hheld
  · next hsame =>
    subst hsame
    have hkept := List.mem_of_mem_drop (List.mem_of_mem_filter hheld)
    rcases List.mem_append.mp hkept with hold | hnew
    · exact Or.inl hold
    · exact Or.inr (List.mem_singleton.mp hnew ▸ hmem)
  · exact Or.inl hheld

theorem gains_publishKey : Gains events bus (publishKey settings now event bus key) := by
  have htouched := @gains_touchKey events now bus key
  simp only [publishKey]
  split
  · exact htouched
  · exact (htouched.trans (gains_remember hmem now _ key)).trans
      (Gains.foldl (fun bus queue => gains_deliver hmem bus queue) _ _)

end

theorem gains_forgetKey (bus : TelegramEventBus) (key : ScopeKey) :
    Gains events bus (forgetKey bus key) := by
  refine .ofShrinks rfl rfl fun other => ?_
  simp only [TelegramEventBus.historyOf, forgetKey]
  by_cases hsame : other = key
  · subst hsame
    rw [Dict.getItem_popItem_self]
    exact List.nil_subset _
  · rw [Dict.getItem_popItem_of_ne _ hsame]
    exact List.Subset.refl _

theorem gains_evict (now : ℚ) (bus : TelegramEventBus) :
    Gains events bus (evictInactiveHistories settings now bus).1 :=
  evict_rule (Gains events bus)
    (fun progress key _ _ hprogress => hprogress.trans (gains_forgetKey progress key))
    (.refl events bus)

theorem gains_publish {event : BusEvent} (hmem : event ∈ events) (now : ℚ)
    (includeLegacyScope : Bool) (bus : TelegramEventBus) :
    Gains events bus (publish settings now event includeLegacyScope bus) :=
  (Gains.foldl (fun bus key => gains_publishKey hmem now bus key) _ _).trans (gains_evict now _)

/-! ## Subscriptions -/

/-- A subscription hands out a new queue, and fills it from the history. -/
structure Opens (before after : TelegramEventBus) (key : ScopeKey) : Prop where
  history : ∀ other, after.historyOf other = before.historyOf other
  others : ∀ queue < before.nextQueue, after.contents queue = before.contents queue
  filled : after.contents before.nextQueue ⊆ before.historyOf key
  next : after.nextQueue = before.nextQueue + 1

section

variable (now : ℚ) (subscription : Subscription) (bus : TelegramEventBus)

theorem opens_subscribe :
    Opens bus (subscribe settings now subscription bus).2 (subscription.key settings) := by
  have hserved : ∀ (served : List BusEvent) (start : TelegramEventBus),
      (∀ other, (served.foldl (fun after event =>
          deliver settings event after bus.nextQueue) start).historyOf other =
        start.historyOf other) ∧
      (∀ queue < bus.nextQueue, (served.foldl (fun after event =>
          deliver settings event after bus.nextQueue) start).contents queue =
        start.contents queue) ∧
      (served.foldl (fun after event =>
          deliver settings event after bus.nextQueue) start).contents bus.nextQueue ⊆
        start.contents bus.nextQueue ++ served := by
    intro served
    induction served with
    | nil => exact fun start => ⟨fun _ => rfl, fun _ _ => rfl, by simp⟩
    | cons event rest ih =>
      intro start
      obtain ⟨hhistory, hothers, hfilled⟩ := ih (deliver settings event start bus.nextQueue)
      refine ⟨fun other => (hhistory other).trans ?_,
        fun queue hqueue => (hothers queue hqueue).trans ?_, fun held hheld => ?_⟩
      · unfold deliver
        split <;> rfl
      · unfold deliver
        split
        · unfold TelegramEventBus.contents
          rw [Dict.getItem_setItem_of_ne _ _ hqueue.ne]
        · rfl
      · have hmem := hfilled hheld
        unfold deliver at hmem
        split at hmem
        · unfold TelegramEventBus.contents at hmem ⊢
          rw [Dict.getItem_setItem_self, Option.getD_some] at hmem
          simpa using hmem
        · have hstart : held ∈ start.contents bus.nextQueue ++ rest := hmem
          rcases List.mem_append.mp hstart with hold | hnew
          · exact List.mem_append_left _ hold
          · exact List.mem_append_right _ (List.mem_cons_of_mem _ hnew)
  obtain ⟨hhistory, hothers, hfilled⟩ := hserved
    ((bus.historyOf (subscription.key settings)).filter (subscription.replays settings now))
    (openQueue bus (subscription.key settings))
  refine ⟨hhistory, fun queue hqueue => (hothers queue hqueue).trans ?_, fun held hheld => ?_,
    (subscribe_maps now subscription bus).nextQueue⟩
  · unfold openQueue TelegramEventBus.contents
    rw [Dict.getItem_setItem_of_ne _ _ hqueue.ne]
  · have hmem := hfilled hheld
    have hempty : (openQueue bus (subscription.key settings)).contents bus.nextQueue = [] := by
      simp only [openQueue, TelegramEventBus.contents]
      rw [Dict.getItem_setItem_self]
      rfl
    rw [hempty, List.nil_append] at hmem
    exact List.mem_of_mem_filter hmem

theorem gains_subscribe : Gains events bus (subscribe settings now subscription bus).2 := by
  have hopens := @opens_subscribe settings now subscription bus
  refine ⟨?_, ?_, ?_⟩
  · intro key event hevent
    rw [hopens.history] at hevent
    exact Or.inl hevent
  · intro queue hqueue event hevent
    rw [hopens.others queue hqueue] at hevent
    exact Or.inl hevent
  · rw [hopens.next]
    exact Nat.le_succ _

end

theorem gains_readQueue (queue : ℕ) (bus : TelegramEventBus) :
    Gains events bus (readQueue queue bus) := by
  refine ⟨fun _ _ => Or.inl, ?_, le_rfl⟩
  intro other _ event hevent
  simp only [readQueue, TelegramEventBus.contents] at hevent
  by_cases hsame : other = queue
  · subst hsame
    rw [Dict.getItem_setItem_self] at hevent
    exact Or.inl (List.mem_of_mem_tail hevent)
  · rw [Dict.getItem_setItem_of_ne _ _ hsame] at hevent
    exact Or.inl hevent

theorem gains_clear (chatId : Option ChatId) (bus : TelegramEventBus) :
    Gains events bus (clear settings chatId bus) := by
  unfold clear
  cases chatId with
  | none => exact .ofShrinks rfl rfl fun _ => List.nil_subset _
  | some chatId =>
    refine Gains.trans ?_ (Gains.foldl (fun bus key => gains_forgetKey bus key) _ _)
    exact .ofShrinks rfl rfl fun _ => List.Subset.refl _

/-! ## Steps -/

def publishedBy : BusStep → List BusEvent
  | .publish _ event _ => [event]
  | _ => []

theorem gains_step (bus : TelegramEventBus) (step : BusStep) :
    Gains (publishedBy step) bus (takeStep settings bus step) := by
  cases step with
  | publish now event includeLegacyScope =>
    exact gains_publish List.mem_cons_self now includeLegacyScope bus
  | subscribe now subscription => exact gains_subscribe now subscription bus
  | unsubscribe chatId messageThreadId queue =>
    refine .ofShrinks ?_ ?_ fun key => ?_
    · unfold takeStep unsubscribe
      dsimp only
      split <;> rfl
    · unfold takeStep unsubscribe
      dsimp only
      split <;> rfl
    · unfold takeStep unsubscribe
      dsimp only
      split <;> exact List.Subset.refl _
  | read queue => exact gains_readQueue queue bus
  | clear chatId => exact gains_clear chatId bus
  | evict now => exact gains_evict now bus

end SignPulse.PublishedEvents
