import Mathlib.Algebra.Order.Ring.Unbundled.Rat
import SignPulse.Flow.FlowModels

/-!
# The event bus

`flow_event_bus.py`: the messages of a chat go into the queues of its
subscribers and into a bounded history, from which later subscribers are served.
The bus is single-threaded and none of its operations awaits, so each of them is
one step.  A queue is known by the number of its subscription.
-/

namespace SignPulse.EventBus

open Foundation
open FlowModels

/-- An event with the `event_id` that `__post_init__` makes of all it shows. -/
structure BusEvent extends TelegramMessageEvent where
  eventId : String
  deriving DecidableEq

structure EventDeliveryStats where
  droppedEvents : ℕ := 0
  historyEvictedEvents : ℕ := 0
  oldestDroppedAt : Option ℚ := none
  newestDroppedAt : Option ℚ := none
  deriving DecidableEq

/-- The parameters of a bus, which the constructor checks, and `int(text)`. -/
structure BusSettings where
  bufferSize : ℕ := 50
  bufferTtl : ℚ := 300
  queueSize : ℕ := 100
  maxHistoryKeys : ℕ := 1000
  toInt : String → Option ℤ := String.toInt?
  positive : 1 ≤ bufferSize ∧ 1 ≤ queueSize ∧ 1 ≤ maxHistoryKeys := by decide

/-- A chat and a topic in it, or the chat as a whole. -/
abbrev ScopeKey := ChatId × Option ℤ

instance : LawfulBEq ScopeKey := inferInstance

structure TelegramEventBus where
  subscribers : Dict ScopeKey (List ℕ) := []
  historyBuffers : Dict ScopeKey (List BusEvent) := []
  historyLastPublished : Dict ScopeKey ℚ := []
  historyEvictions : Dict ScopeKey ℕ := []
  deliveryStats : Dict ℕ EventDeliveryStats := []
  /-- The contents of the queues that were handed out. -/
  queues : Dict ℕ (List BusEvent) := []
  nextQueue : ℕ := 0

/-- `_normalize_chat_id`. -/
def normalizeChatId (settings : BusSettings) : ChatId → ChatId
  | .number id => .number id
  | .username text =>
    match settings.toInt text with
    | some id => .number id
    | none => .username text

namespace TelegramEventBus

def subscribersOf (bus : TelegramEventBus) (key : ScopeKey) : List ℕ :=
  (Dict.getItem bus.subscribers key).getD []

def historyOf (bus : TelegramEventBus) (key : ScopeKey) : List BusEvent :=
  (Dict.getItem bus.historyBuffers key).getD []

def lastPublished (bus : TelegramEventBus) (key : ScopeKey) : ℚ :=
  (Dict.getItem bus.historyLastPublished key).getD 0

def evictionsOf (bus : TelegramEventBus) (key : ScopeKey) : ℕ :=
  (Dict.getItem bus.historyEvictions key).getD 0

def contents (bus : TelegramEventBus) (queue : ℕ) : List BusEvent :=
  (Dict.getItem bus.queues queue).getD []

/-- `get_delivery_stats`. -/
def getDeliveryStats (bus : TelegramEventBus) (queue : ℕ) : EventDeliveryStats :=
  (Dict.getItem bus.deliveryStats queue).getD {}

end TelegramEventBus

/-! ## Delivery -/

/-- `_record_drop`. -/
def recordDrop (bus : TelegramEventBus) (queue : ℕ) (event : BusEvent) : TelegramEventBus :=
  let stats := bus.getDeliveryStats queue
  { bus with
    deliveryStats :=
      Dict.setItem bus.deliveryStats queue
        { droppedEvents := stats.droppedEvents + 1
          historyEvictedEvents := stats.historyEvictedEvents
          oldestDroppedAt :=
            some
              (match stats.oldestDroppedAt with
              | some oldest => min oldest event.occurredAt
              | none => event.occurredAt)
          newestDroppedAt :=
            some
              (match stats.newestDroppedAt with
              | some newest => max newest event.occurredAt
              | none => event.occurredAt) } }

/-- `put_nowait`, with the drop recorded where the queue is full. -/
def deliver (settings : BusSettings) (event : BusEvent) (bus : TelegramEventBus)
    (queue : ℕ) : TelegramEventBus :=
  if (bus.contents queue).length < settings.queueSize then
    { bus with queues := Dict.setItem bus.queues queue (bus.contents queue ++ [event]) }
  else recordDrop bus queue event

/-! ## Eviction -/

/-- The time that an event may stay in a history. -/
def unexpired (settings : BusSettings) (now : ℚ) (event : BusEvent) : Bool :=
  now - event.occurredAt ≤ settings.bufferTtl

/-- The buffered keys without a subscriber, the longest silent first. -/
def inactiveKeys (bus : TelegramEventBus) : List ScopeKey :=
  ((Dict.keyList bus.historyBuffers).filter fun key =>
    (bus.subscribersOf key).isEmpty).mergeSort
      fun left right => decide (bus.lastPublished left ≤ bus.lastPublished right)

/-- Drop all that is known of the history of a key. -/
def forgetKey (bus : TelegramEventBus) (key : ScopeKey) : TelegramEventBus :=
  { bus with
    historyBuffers := Dict.popItem bus.historyBuffers key
    historyLastPublished := Dict.popItem bus.historyLastPublished key
    historyEvictions := Dict.popItem bus.historyEvictions key }

/-- The history of a key is given up because of its age, or to make room. -/
def evicts (settings : BusSettings) (now : ℚ) (bus : TelegramEventBus) (key : ScopeKey) : Bool :=
  decide (settings.bufferTtl < now - bus.lastPublished key) ||
    decide (settings.maxHistoryKeys < bus.historyBuffers.length)

/-- One turn of the loop of `evict_inactive_histories`, with the number of keys
removed so far. -/
def evictTurn (settings : BusSettings) (now : ℚ) (progress : TelegramEventBus × ℕ)
    (key : ScopeKey) : TelegramEventBus × ℕ :=
  if evicts settings now progress.1 key then
    (forgetKey progress.1 key, progress.2 + 1)
  else progress

/-- `evict_inactive_histories`. -/
def evictInactiveHistories (settings : BusSettings) (now : ℚ) (bus : TelegramEventBus) :
    TelegramEventBus × ℕ :=
  (inactiveKeys bus).foldl (evictTurn settings now) (bus, 0)

/-! ## Subscriptions -/

/-- `_matches_type`. -/
def matchesType (eventType : Option String) (evType : String) : Bool :=
  if !truthy eventType || ["ANY", "ALL"].contains (pyUpper (eventType.getD "")) then
    ["NEW_MESSAGE", "EDITED_MESSAGE"].contains (pyUpper evType)
  else pyUpper evType == pyUpper (eventType.getD "")

/-- What a subscription asks for. -/
structure Subscription where
  chatId : ChatId
  messageThreadId : Option ℤ := none
  minMessageId : Option ℤ := none
  eventType : Option String := some "NEW_MESSAGE"
  sinceTimestamp : Option ℚ := none

def Subscription.key (subscription : Subscription) (settings : BusSettings) : ScopeKey :=
  (normalizeChatId settings subscription.chatId, subscription.messageThreadId)

/-- `matches_watermark`. -/
def Subscription.aboveWatermark (subscription : Subscription) (now : ℚ) (event : BusEvent) : Bool :=
  match subscription.minMessageId with
  | some messageId => messageId < event.messageId
  | none =>
    match subscription.sinceTimestamp with
    | some since => since ≤ event.occurredAt
    | none => now - event.occurredAt ≤ 5

/-- An event of the history that a new subscriber is served. -/
def Subscription.replays (subscription : Subscription) (settings : BusSettings) (now : ℚ)
    (event : BusEvent) : Bool :=
  unexpired settings now event && !event.isOutgoing &&
    matchesType subscription.eventType event.eventType &&
    subscription.aboveWatermark now event

/-- The new queue, with the number of events that its history has lost. -/
def openQueue (bus : TelegramEventBus) (key : ScopeKey) : TelegramEventBus :=
  { bus with
    subscribers :=
      Dict.setItem bus.subscribers key (bus.subscribersOf key ++ [bus.nextQueue])
    queues := Dict.setItem bus.queues bus.nextQueue []
    deliveryStats :=
      if bus.evictionsOf key = 0 then bus.deliveryStats
      else
        Dict.setItem bus.deliveryStats bus.nextQueue { historyEvictedEvents := bus.evictionsOf key }
    nextQueue := bus.nextQueue + 1 }

/-- `subscribe`. -/
def subscribe (settings : BusSettings) (now : ℚ) (subscription : Subscription)
    (bus : TelegramEventBus) : ℕ × TelegramEventBus :=
  let key := subscription.key settings
  let replayed := (bus.historyOf key).filter (subscription.replays settings now)
  (bus.nextQueue, replayed.foldl (fun served event => deliver settings event served bus.nextQueue)
      (openQueue bus key))

/-- `unsubscribe`. -/
def unsubscribe (settings : BusSettings) (chatId : ChatId) (messageThreadId : Option ℤ)
    (queue : ℕ) (bus : TelegramEventBus) : TelegramEventBus :=
  let key := (normalizeChatId settings chatId, messageThreadId)
  if queue ∈ bus.subscribersOf key then
    let left := (bus.subscribersOf key).erase queue
    { bus with
      subscribers :=
        if left.isEmpty then Dict.popItem bus.subscribers key
        else Dict.setItem bus.subscribers key left }
  else bus

/-- `queue.get()` of a consumer whose queue is not empty. -/
def readQueue (queue : ℕ) (bus : TelegramEventBus) : TelegramEventBus :=
  { bus with queues := Dict.setItem bus.queues queue (bus.contents queue).tail }

/-! ## Publishing -/

/-- The latest unexpired revision of the message of `event` in a history. -/
def latestRevision (settings : BusSettings) (now : ℚ) (buffer : List BusEvent)
    (event : BusEvent) : Option BusEvent :=
  buffer.reverse.find? fun existing =>
    existing.messageId == event.messageId && existing.messageThreadId == event.messageThreadId &&
      existing.eventType == event.eventType && unexpired settings now existing

/-- The event repeats the latest revision of its message. -/
def repeats (settings : BusSettings) (now : ℚ) (buffer : List BusEvent) (event : BusEvent) : Bool :=
  (latestRevision settings now buffer event).any fun latest =>
    latest.eventId == event.eventId

/-- The last `size` elements. -/
def lastElements {α : Type} (size : ℕ) (items : List α) : List α :=
  items.drop (items.length - size)

/-- Append the event to the history of the key and cut the history down. -/
def remember (settings : BusSettings) (now : ℚ) (event : BusEvent)
    (bus : TelegramEventBus) (key : ScopeKey) : TelegramEventBus :=
  let buffer := bus.historyOf key ++ [event]
  let evicted := buffer.length - settings.bufferSize
  { bus with
    historyBuffers :=
      Dict.setItem bus.historyBuffers key
        ((lastElements settings.bufferSize buffer).filter (unexpired settings now))
    historyEvictions :=
      if evicted = 0 then bus.historyEvictions
      else Dict.setItem bus.historyEvictions key (bus.evictionsOf key + evicted) }

/-- Note that something was published on the key. -/
def touchKey (now : ℚ) (bus : TelegramEventBus) (key : ScopeKey) : TelegramEventBus :=
  { bus with
    historyLastPublished := Dict.setItem bus.historyLastPublished key now
    historyBuffers := Dict.setItem bus.historyBuffers key (bus.historyOf key) }

/-- The body of the loop of `publish`. -/
def publishKey (settings : BusSettings) (now : ℚ) (event : BusEvent)
    (bus : TelegramEventBus) (key : ScopeKey) : TelegramEventBus :=
  let touched := touchKey now bus key
  if repeats settings now (touched.historyOf key) event then touched
  else
    let remembered := remember settings now event touched key
    (remembered.subscribersOf key).foldl (deliver settings event) remembered

def publishKeys (event : BusEvent) (includeLegacyScope : Bool) : List ScopeKey :=
  let chatId := ChatId.number event.chatId
  if includeLegacyScope && event.messageThreadId.isSome then
    [(chatId, event.messageThreadId), (chatId, none)]
  else [(chatId, event.messageThreadId)]

/-- `publish`. -/
def publish (settings : BusSettings) (now : ℚ) (event : BusEvent)
    (includeLegacyScope : Bool) (bus : TelegramEventBus) : TelegramEventBus :=
  (evictInactiveHistories settings now
    ((publishKeys event includeLegacyScope).foldl (publishKey settings now event) bus)).1

/-! ## Clearing -/

/-- `clear`. -/
def clear (settings : BusSettings) (chatId : Option ChatId) (bus : TelegramEventBus) :
    TelegramEventBus :=
  match chatId with
  | none =>
    { bus with
      subscribers := []
      historyBuffers := []
      historyLastPublished := []
      historyEvictions := []
      deliveryStats := [] }
  | some chatId =>
    let ofChat (key : ScopeKey) : Bool := key.1 == normalizeChatId settings chatId
    let silenced := (Dict.keyList bus.subscribers).filter ofChat
    let forgotten := (Dict.keyList bus.historyBuffers).filter ofChat
    let unsubscribed :=
      { bus with
        subscribers := silenced.foldl Dict.popItem bus.subscribers
        deliveryStats :=
          (silenced.flatMap bus.subscribersOf).foldl Dict.popItem bus.deliveryStats }
    forgotten.foldl forgetKey unsubscribed

/-! ## Runs -/

inductive BusStep where
  | publish (now : ℚ) (event : BusEvent) (includeLegacyScope : Bool)
  | subscribe (now : ℚ) (subscription : Subscription)
  | unsubscribe (chatId : ChatId) (messageThreadId : Option ℤ) (queue : ℕ)
  | read (queue : ℕ)
  | clear (chatId : Option ChatId)
  | evict (now : ℚ)

def takeStep (settings : BusSettings) (bus : TelegramEventBus) : BusStep → TelegramEventBus
  | .publish now event includeLegacyScope =>
    SignPulse.EventBus.publish settings now event includeLegacyScope bus
  | .subscribe now subscription => (SignPulse.EventBus.subscribe settings now subscription bus).2
  | .unsubscribe chatId messageThreadId queue =>
    SignPulse.EventBus.unsubscribe settings chatId messageThreadId queue bus
  | .read queue => readQueue queue bus
  | .clear chatId => SignPulse.EventBus.clear settings chatId bus
  | .evict now => (evictInactiveHistories settings now bus).1

def runSteps (settings : BusSettings) (steps : List BusStep) (bus : TelegramEventBus) :
    TelegramEventBus :=
  steps.foldl (takeStep settings) bus

end SignPulse.EventBus
