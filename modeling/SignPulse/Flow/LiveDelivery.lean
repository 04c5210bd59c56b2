import SignPulse.Foundation.Channel
import SignPulse.Flow.HistoryBounds

/-!
# Live delivery

The queue of a subscription is a bounded channel: every event that is published
on its key, and is no repetition, is offered to it once.  What the channel
conserves, the bus conserves.
-/

namespace SignPulse.LiveDelivery

open Foundation
open FlowModels
open EventBus
open HistoryBounds

variable {settings : BusSettings}

/-! ## The channel of a queue -/

def channelOf (bus : TelegramEventBus) (queue : ℕ) : Channel BusEvent where
  items := bus.contents queue
  dropped := (bus.getDeliveryStats queue).droppedEvents

theorem channelOf_deliver_self (event : BusEvent) (bus : TelegramEventBus) (queue : ℕ) :
    channelOf (deliver settings event bus queue) queue =
      (channelOf bus queue).act settings.queueSize (.offer event) := by
  unfold deliver Channel.act channelOf
  split
  · simp [TelegramEventBus.contents, TelegramEventBus.getDeliveryStats]
  · simp [recordDrop, TelegramEventBus.contents, TelegramEventBus.getDeliveryStats]

variable {queue : ℕ} {key : ScopeKey} {bus : TelegramEventBus}

theorem publishKey_subscribers (now : ℚ) (event : BusEvent) (bus : TelegramEventBus)
    (key : ScopeKey) :
    (publishKey settings now event bus key).subscribers = bus.subscribers := by
  rcases @publishKey_maps settings now event bus key with ⟨-, heq⟩ | ⟨-, hsame⟩
  · rw [heq]
    rfl
  · exact hsame.subscribers

theorem publishKey_nextQueue (now : ℚ) (event : BusEvent) (bus : TelegramEventBus)
    (key : ScopeKey) :
    (publishKey settings now event bus key).nextQueue = bus.nextQueue := by
  rcases @publishKey_maps settings now event bus key with ⟨-, heq⟩ | ⟨-, hsame⟩
  · rw [heq]
    rfl
  · exact hsame.nextQueue

theorem publishKeys_nodup (event : BusEvent) (includeLegacyScope : Bool) :
    (publishKeys event includeLegacyScope).Nodup := by
  simp only [publishKeys]
  split
  · next hlegacy =>
    simp only [Bool.and_eq_true, Option.isSome_iff_exists] at hlegacy
    obtain ⟨-, thread, hthread⟩ := hlegacy
    simp [hthread]
  · simp

/-! ## The queue as a channel -/

def acceptedOn (settings : BusSettings) (key : ScopeKey) (bus : TelegramEventBus) :
    BusStep → List BusEvent
  | .publish now event includeLegacyScope =>
    if key ∈ publishKeys event includeLegacyScope ∧
        repeats settings now (bus.historyOf key) event = false then [event]
    else []
  | _ => []

theorem evict_nextQueue (now : ℚ) (bus : TelegramEventBus) :
    (evictInactiveHistories settings now bus).1.nextQueue = bus.nextQueue :=
  evict_rule (fun after => after.nextQueue = bus.nextQueue) (fun _ _ _ _ hsame => hsame) rfl

theorem publishKeys_maps (now : ℚ) (event : BusEvent) (keys : List ScopeKey)
    (bus : TelegramEventBus) :
    (keys.foldl (publishKey settings now event) bus).subscribers = bus.subscribers ∧
      (keys.foldl (publishKey settings now event) bus).nextQueue = bus.nextQueue := by
  refine List.foldlRecOn keys (publishKey settings now event)
    (motive := fun after => after.subscribers = bus.subscribers ∧
      after.nextQueue = bus.nextQueue) ⟨rfl, rfl⟩ ?_
  intro after hafter key _
  exact ⟨(publishKey_subscribers now event after key).trans hafter.1,
    (publishKey_nextQueue now event after key).trans hafter.2⟩

theorem subscribersOf_subscribe (now : ℚ) (subscription : Subscription)
    (bus : TelegramEventBus) (key : ScopeKey) :
    (subscribe settings now subscription bus).2.subscribersOf key =
      if key = subscription.key settings then
        bus.subscribersOf key ++ [bus.nextQueue]
      else bus.subscribersOf key := by
  have hmaps := @subscribe_maps settings now subscription bus
  rw [TelegramEventBus.subscribersOf, hmaps.subscribers]
  simp only [openQueue, TelegramEventBus.subscribersOf]
  by_cases hkey : key = subscription.key settings
  · simp [hkey]
  · simp [hkey, Dict.getItem_setItem_of_ne]

theorem subscribersOf_unsubscribe (chatId : ChatId) (messageThreadId : Option ℤ) (queue : ℕ)
    (bus : TelegramEventBus) (key : ScopeKey) :
    (unsubscribe settings chatId messageThreadId queue bus).subscribersOf key =
      if key = (normalizeChatId settings chatId, messageThreadId) then
        (bus.subscribersOf key).erase queue
      else bus.subscribersOf key := by
  simp only [unsubscribe]
  by_cases hkey : key = (normalizeChatId settings chatId, messageThreadId)
  · subst hkey
    rw [if_pos rfl]
    split
    · unfold TelegramEventBus.subscribersOf
      split
      · next hempty =>
        rw [Dict.getItem_popItem_self]
        exact (List.isEmpty_iff.mp hempty).symm
      · rw [Dict.getItem_setItem_self]
        rfl
    · next habsent => exact (List.erase_of_not_mem habsent).symm
  · rw [if_neg hkey]
    split
    · unfold TelegramEventBus.subscribersOf
      split
      · rw [Dict.getItem_popItem_of_ne _ hkey]
      · rw [Dict.getItem_setItem_of_ne _ _ hkey]
    · rfl

theorem foldl_popItem_subscribers (keys : List ScopeKey) (key : ScopeKey) :
    ∀ subscribers : Dict ScopeKey (List ℕ),
      Dict.getItem (keys.foldl Dict.popItem subscribers) key = none ∨
        Dict.getItem (keys.foldl Dict.popItem subscribers) key = Dict.getItem subscribers key := by
  induction keys with
  | nil => exact fun subscribers => Or.inr rfl
  | cons other rest ih =>
    intro subscribers
    by_cases hsame : key = other
    · subst hsame
      left
      rcases ih (Dict.popItem subscribers key) with hnone | hkept
      · exact hnone
      · rw [List.foldl_cons, hkept, Dict.getItem_popItem_self]
    · refine (ih (Dict.popItem subscribers other)).imp_right fun hkept => ?_
      rw [List.foldl_cons, hkept, Dict.getItem_popItem_of_ne _ hsame]

theorem foldl_forgetKey_same (keys : List ScopeKey) :
    ∀ bus : TelegramEventBus, (keys.foldl forgetKey bus).subscribers = bus.subscribers ∧
      (keys.foldl forgetKey bus).nextQueue = bus.nextQueue := by
  induction keys with
  | nil => exact fun bus => ⟨rfl, rfl⟩
  | cons key rest ih => exact fun bus => ih (forgetKey bus key)

theorem subscribersOf_clear (chatId : Option ChatId) (bus : TelegramEventBus) (key : ScopeKey) :
    (clear settings chatId bus).subscribersOf key ⊆ bus.subscribersOf key := by
  unfold clear
  split
  · exact List.nil_subset _
  · next chatId =>
    rw [TelegramEventBus.subscribersOf, (foldl_forgetKey_same _ _).1]
    rcases foldl_popItem_subscribers ((Dict.keyList bus.subscribers).filter fun key =>
      key.1 == normalizeChatId settings chatId) key bus.subscribers with hnone | hkept
    · rw [hnone]
      exact List.nil_subset _
    · rw [hkept]
      exact List.Subset.refl _

theorem clear_nextQueue (chatId : Option ChatId) (bus : TelegramEventBus) :
    (clear settings chatId bus).nextQueue = bus.nextQueue := by
  unfold clear
  split
  · rfl
  · exact (foldl_forgetKey_same _ _).2

theorem subscribe_nextQueue (now : ℚ) (subscription : Subscription) (bus : TelegramEventBus) :
    (subscribe settings now subscription bus).2.nextQueue = bus.nextQueue + 1 :=
  (subscribe_maps now subscription bus).nextQueue

/-- The number of the next queue is new. -/
def Numbered (bus : TelegramEventBus) : Prop :=
  ∀ key, ∀ queue ∈ bus.subscribersOf key, queue < bus.nextQueue

theorem numbered_step (hnumbered : Numbered bus) (step : BusStep) :
    Numbered (takeStep settings bus step) := by
  have hsame : ∀ after : TelegramEventBus, after.subscribers = bus.subscribers →
      after.nextQueue = bus.nextQueue → Numbered after := by
    intro after hsubscribers hnext key queue hqueue
    rw [TelegramEventBus.subscribersOf, hsubscribers] at hqueue
    rw [hnext]
    exact hnumbered key queue hqueue
  cases step with
  | publish now event includeLegacyScope =>
    obtain ⟨hsubscribers, hnext⟩ := @publishKeys_maps settings now event
      (publishKeys event includeLegacyScope) bus
    exact hsame _ ((evict_subscribers now _).trans hsubscribers)
      ((evict_nextQueue now _).trans hnext)
  | subscribe now subscription =>
    intro key queue hqueue
    rw [show (takeStep settings bus (.subscribe now subscription)).nextQueue =
      bus.nextQueue + 1 from subscribe_nextQueue now subscription bus]
    rw [show (takeStep settings bus (.subscribe now subscription)).subscribersOf key = _ from
      subscribersOf_subscribe now subscription bus key] at hqueue
    split at hqueue
    · rcases List.mem_append.mp hqueue with hold | hnew
      · exact (hnumbered key queue hold).trans (Nat.lt_succ_self _)
      · rw [List.mem_singleton.mp hnew]
        exact Nat.lt_succ_self _
    · exact (hnumbered key queue hqueue).trans (Nat.lt_succ_self _)
  | unsubscribe chatId messageThreadId other =>
    intro key queue hqueue
    have hnext : (takeStep settings bus (.unsubscribe chatId messageThreadId other)).nextQueue =
        bus.nextQueue := by
      simp only [takeStep, unsubscribe]
      split
      · rfl
      · rfl
    rw [show (takeStep settings bus (.unsubscribe chatId messageThreadId other)).subscribersOf
      key = _ from subscribersOf_unsubscribe chatId messageThreadId other bus key] at hqueue
    rw [hnext]
    split at hqueue
    · exact hnumbered key queue (List.mem_of_mem_erase hqueue)
    · exact hnumbered key queue hqueue
  | read other => exact hsame _ rfl rfl
  | clear chatId =>
    intro key queue hqueue
    rw [show (takeStep settings bus (.clear chatId)).nextQueue = bus.nextQueue from
      clear_nextQueue chatId bus]
    exact hnumbered key queue (subscribersOf_clear chatId bus key hqueue)
  | evict now => exact hsame _ (evict_subscribers now bus) (evict_nextQueue now bus)

/-- The publishes on the key that are no repetitions, in their order. -/
def acceptedAlong (settings : BusSettings) (key : ScopeKey) :
    TelegramEventBus → List BusStep → List BusEvent
  | _, [] => []
  | bus, step :: rest =>
    acceptedOn settings key bus step ++ acceptedAlong settings key (takeStep settings bus step) rest

/-- A message of the first chat, under the id that it gets from its content. -/
def sampleMessage : ℤ → BusEvent
  | 1 =>
    { chatId := 1, messageId := 1, text := "ok", occurredAt := 1
      eventId := "msg_1_None_1_new_message_79e7538e5a2e66d9" }
  | 2 =>
    { chatId := 1, messageId := 2, text := "ok", occurredAt := 2
      eventId := "msg_1_None_2_new_message_a63a4b5949dab1ab" }
  | messageId =>
    { chatId := 1, messageId, text := "ok", occurredAt := 3
      eventId := "msg_1_None_3_new_message_8054b588751119ea" }

end SignPulse.LiveDelivery
