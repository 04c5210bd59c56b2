import SignPulse.Flow.LiveDelivery

/-!
# Late subscribers

What was published before a subscription is served from the history of its key.
The history forgets in two ways: events beyond its size are counted, and the
count is shown to every later subscriber; a key that is evicted is forgotten
together with its count.
-/

namespace SignPulse.LateSubscribers

open Foundation
open EventBus
open HistoryBounds
open LiveDelivery

variable {settings : BusSettings}

/-! ## What a new subscriber is served -/

/-- The statistics belong to queues that were handed out. -/
def StatsNumbered (bus : TelegramEventBus) : Prop :=
  ∀ queue ∈ Dict.keyList bus.deliveryStats, queue < bus.nextQueue

theorem deliver_evicted (event : BusEvent) (bus : TelegramEventBus) (queue other : ℕ) :
    ((deliver settings event bus other).getDeliveryStats queue).historyEvictedEvents =
      (bus.getDeliveryStats queue).historyEvictedEvents := by
  unfold deliver
  split
  · rfl
  · unfold recordDrop TelegramEventBus.getDeliveryStats
    by_cases hsame : queue = other
    · rw [hsame, Dict.getItem_setItem_self]
      rfl
    · rw [Dict.getItem_setItem_of_ne _ _ hsame]

theorem replay_channel (queue : ℕ) : ∀ (events : List BusEvent) (bus : TelegramEventBus),
      channelOf (events.foldl (fun served event => deliver settings event served queue) bus) queue =
        (channelOf bus queue).actAll settings.queueSize (events.map .offer) ∧
      ((events.foldl (fun served event => deliver settings event served queue)
          bus).getDeliveryStats queue).historyEvictedEvents =
        (bus.getDeliveryStats queue).historyEvictedEvents := by
  intro events
  induction events with
  | nil => exact fun bus => ⟨rfl, rfl⟩
  | cons event rest ih =>
    intro bus
    obtain ⟨hchannel, hevicted⟩ := ih (deliver settings event bus queue)
    refine ⟨?_, hevicted.trans (deliver_evicted event bus queue queue)⟩
    rw [List.map_cons, Channel.actAll_cons, ← channelOf_deliver_self]
    exact hchannel

/-- `_delivery_gap`: the statistics of its queue make a wait node fail. -/
def deliveryGap (stats : EventDeliveryStats) : Bool :=
  stats.droppedEvents != 0 || stats.historyEvictedEvents != 0

def replayed (settings : BusSettings) (now : ℚ) (subscription : Subscription)
    (bus : TelegramEventBus) : List BusEvent :=
  (bus.historyOf (subscription.key settings)).filter (subscription.replays settings now)

/-- A new subscriber finds the first of the replayed events in its queue, and the
number of the others and of the events its history has lost in its statistics. -/
structure Served (settings : BusSettings) (now : ℚ) (subscription : Subscription)
    (bus : TelegramEventBus) : Prop where
  contents : (subscribe settings now subscription bus).2.contents bus.nextQueue =
    (replayed settings now subscription bus).take settings.queueSize
  dropped : ((subscribe settings now subscription bus).2.getDeliveryStats
      bus.nextQueue).droppedEvents =
    (replayed settings now subscription bus).length - settings.queueSize
  evicted : ((subscribe settings now subscription bus).2.getDeliveryStats
      bus.nextQueue).historyEvictedEvents = bus.evictionsOf (subscription.key settings)

variable {bus : TelegramEventBus} {now : ℚ} {key other : ScopeKey} {asks : BusEvent → Prop}
variable {published : List BusEvent} {event : BusEvent}

theorem subscribe_served (hstats : StatsNumbered bus) (now : ℚ) (subscription : Subscription) :
    Served settings now subscription bus := by
  have hnew : Dict.getItem bus.deliveryStats bus.nextQueue = none := by
    by_contra hsome
    obtain ⟨stats, hget⟩ := Option.ne_none_iff_exists'.mp hsome
    exact (hstats _ (Dict.mem_keyList_of_getItem hget)).false
  have hopened : channelOf (openQueue bus (subscription.key settings)) bus.nextQueue = {} ∧
      ((openQueue bus (subscription.key settings)).getDeliveryStats
        bus.nextQueue).historyEvictedEvents = bus.evictionsOf (subscription.key settings) := by
    simp only [channelOf, openQueue, TelegramEventBus.contents, TelegramEventBus.getDeliveryStats]
    rw [Dict.getItem_setItem_self]
    split
    · next hnone =>
      rw [hnew, hnone]
      exact ⟨rfl, rfl⟩
    · rw [Dict.getItem_setItem_self]
      exact ⟨rfl, rfl⟩
  obtain ⟨hchannel, hevicted⟩ := @replay_channel settings bus.nextQueue
    (replayed settings now subscription bus) (openQueue bus (subscription.key settings))
  rw [hopened.1, Channel.actAll_offers] at hchannel
  refine ⟨?_, ?_, hevicted.trans hopened.2⟩
  · have hitems := congrArg Channel.items hchannel
    simp only [channelOf, List.nil_append, List.length_nil, Nat.sub_zero] at hitems
    exact hitems
  · have hdropped := congrArg Channel.dropped hchannel
    simp only [channelOf, List.length_nil, Nat.sub_zero, Nat.zero_add] at hdropped
    exact hdropped

/-- A new subscriber is told of a loss where its history is known to have lost events,
or it is to be served more than its queue takes. -/
theorem Served.gap_iff {subscription : Subscription}
    (hserved : Served settings now subscription bus) :
    deliveryGap ((subscribe settings now subscription bus).2.getDeliveryStats
        bus.nextQueue) = true ↔
      settings.queueSize < (replayed settings now subscription bus).length ∨
        0 < bus.evictionsOf (subscription.key settings) := by
  rw [deliveryGap, Bool.or_eq_true, bne_iff_ne, bne_iff_ne, hserved.dropped, hserved.evicted]
  omega

theorem statsNumbered_deliveries (event : BusEvent) :
    ∀ (queues : List ℕ) (bus : TelegramEventBus), (∀ queue ∈ queues, queue < bus.nextQueue) →
      StatsNumbered bus → StatsNumbered (queues.foldl (deliver settings event) bus) := by
  intro queues
  induction queues with
  | nil => exact fun bus _ hstats => hstats
  | cons queue rest ih =>
    intro bus hold hstats
    have hnext := (@deliver_sameMaps settings event bus queue).nextQueue
    refine ih _ (fun other hother => ?_) ?_
    · rw [hnext]
      exact hold other (List.mem_cons_of_mem _ hother)
    · intro other hother
      rw [hnext]
      unfold deliver at hother
      split at hother
      · exact hstats other hother
      · rcases Dict.mem_keyList_setItem.mp hother with rfl | hother
        · exact hold other List.mem_cons_self
        · exact hstats other hother

theorem mem_keyList_foldl_popItem {κ ν : Type} [DecidableEq κ] {key : κ} :
    ∀ (gone : List κ) (items : Dict κ ν),
      key ∈ Dict.keyList (gone.foldl Dict.popItem items) → key ∈ Dict.keyList items := by
  intro gone
  induction gone with
  | nil => exact fun items hkey => hkey
  | cons other rest ih =>
    exact fun items hkey => (Dict.mem_keyList_popItem.mp (ih _ hkey)).1

theorem statsNumbered_publishKey (hnumbered : Numbered bus) (hstats : StatsNumbered bus) (now : ℚ)
    (event : BusEvent) (key : ScopeKey) :
    StatsNumbered (publishKey settings now event bus key) := by
  simp only [publishKey]
  split
  · exact hstats
  · exact statsNumbered_deliveries event _ _ (hnumbered key) hstats

theorem statsNumbered_step (hnumbered : Numbered bus) (hstats : StatsNumbered bus) (step : BusStep)
    :
    StatsNumbered (takeStep settings bus step) := by
  cases step with
  | publish now event includeLegacyScope =>
    have hpublished : Numbered ((publishKeys event includeLegacyScope).foldl
          (publishKey settings now event) bus) ∧
        StatsNumbered ((publishKeys event includeLegacyScope).foldl
          (publishKey settings now event) bus) := by
      refine List.foldlRecOn _ (publishKey settings now event)
        (motive := fun after => Numbered after ∧ StatsNumbered after) ⟨hnumbered, hstats⟩ ?_
      rintro after ⟨hafter, hafterStats⟩ key _
      refine ⟨?_, statsNumbered_publishKey hafter hafterStats now event key⟩
      intro other queue hqueue
      rw [TelegramEventBus.subscribersOf, publishKey_subscribers] at hqueue
      rw [publishKey_nextQueue]
      exact hafter other queue hqueue
    exact evict_rule StatsNumbered (fun _ _ _ _ hprogress => hprogress) hpublished.2
  | subscribe now subscription =>
    have hopened : StatsNumbered (openQueue bus (subscription.key settings)) := by
      intro queue hqueue
      simp only [openQueue] at hqueue ⊢
      split at hqueue
      · exact (hstats queue hqueue).trans (Nat.lt_succ_self _)
      · rcases Dict.mem_keyList_setItem.mp hqueue with rfl | hold
        · exact Nat.lt_succ_self _
        · exact (hstats queue hold).trans (Nat.lt_succ_self _)
    simp only [takeStep, subscribe]
    refine (List.foldlRecOn _ _
      (motive := fun after => StatsNumbered after ∧ bus.nextQueue < after.nextQueue)
      ⟨hopened, Nat.lt_succ_self _⟩ ?_).1
    rintro after ⟨hafter, holder⟩ event _
    refine ⟨statsNumbered_deliveries event [bus.nextQueue] after (by simpa using holder) hafter, ?_⟩
    rw [(deliver_sameMaps event after bus.nextQueue).nextQueue]
    exact holder
  | unsubscribe chatId messageThreadId queue =>
    simp only [takeStep, unsubscribe]
    split
    · exact hstats
    · exact hstats
  | read queue => exact hstats
  | clear chatId =>
    intro queue hqueue
    have hnext : (takeStep settings bus (.clear chatId)).nextQueue = bus.nextQueue :=
      clear_nextQueue chatId bus
    rw [hnext]
    unfold takeStep clear at hqueue
    cases chatId with
    | none => cases hqueue
    | some chatId =>
      have hforgotten : ∀ (keys : List ScopeKey) (start : TelegramEventBus),
          (keys.foldl forgetKey start).deliveryStats = start.deliveryStats := by
        intro keys
        induction keys with
        | nil => exact fun start => rfl
        | cons key rest ih => exact fun start => ih (forgetKey start key)
      rw [hforgotten] at hqueue
      exact hstats queue (mem_keyList_foldl_popItem _ _ hqueue)
  | evict now => exact evict_rule StatsNumbered (fun _ _ _ _ hprogress => hprogress) hstats

theorem statsNumbered_run (settings : BusSettings) (steps : List BusStep) :
    StatsNumbered (runSteps settings steps {}) := by
  have hboth : Numbered (runSteps settings steps {}) ∧
      StatsNumbered (runSteps settings steps {}) := by
    refine List.foldlRecOn steps (takeStep settings)
      (motive := fun bus => Numbered bus ∧ StatsNumbered bus)
      ⟨fun _ _ hqueue => absurd hqueue List.not_mem_nil, fun _ hqueue =>
        absurd hqueue List.not_mem_nil⟩ ?_
    rintro bus ⟨hnumbered, hstats⟩ step _
    exact ⟨numbered_step hnumbered step, statsNumbered_step hnumbered hstats step⟩
  exact hboth.2

/-! ## What the eviction spares -/

/-- The eviction leaves this history alone: it has a subscriber, or it is young and
there is room for it once the keys that were silent longer are gone. -/
def Spared (settings : BusSettings) (now : ℚ) (bus : TelegramEventBus) (key : ScopeKey) : Prop :=
  bus.subscribersOf key ≠ [] ∨
    (now - bus.lastPublished key ≤ settings.bufferTtl ∧
      bus.historyBuffers.length ≤ settings.maxHistoryKeys + (inactiveKeys bus).idxOf key)

instance (settings : BusSettings) (now : ℚ) (bus : TelegramEventBus) (key : ScopeKey) :
    Decidable (Spared settings now bus key) :=
  inferInstanceAs (Decidable (_ ∨ _ ∧ _))

/-- The history of the key, with what is known of it. -/
structure SameHistory (key : ScopeKey) (before after : TelegramEventBus) : Prop where
  history : after.historyOf key = before.historyOf key
  published : after.lastPublished key = before.lastPublished key
  evictions : after.evictionsOf key = before.evictionsOf key

theorem forgetKey_sameHistory (hne : key ≠ other) (bus : TelegramEventBus) :
    SameHistory key bus (forgetKey bus other) := by
  constructor
  · exact congrArg (Option.getD · []) (Dict.getItem_popItem_of_ne _ hne)
  · exact congrArg (Option.getD · 0) (Dict.getItem_popItem_of_ne _ hne)
  · exact congrArg (Option.getD · 0) (Dict.getItem_popItem_of_ne _ hne)

theorem SameHistory.trans {first second third : TelegramEventBus}
    (hfirst : SameHistory key first second) (hsecond : SameHistory key second third) :
    SameHistory key first third where
  history := hsecond.history.trans hfirst.history
  published := hsecond.published.trans hfirst.published
  evictions := hsecond.evictions.trans hfirst.evictions

theorem inactiveKeys_nodup (hkept : WellKept settings bus) : (inactiveKeys bus).Nodup := by
  rw [inactiveKeys]
  exact (List.mergeSort_perm _ _).nodup_iff.mpr (hkept.distinct.filter _)

/-- Where the loop stands: the history of the key is as it was, the keys to come
still have theirs, and either the keys are few enough or all before have gone. -/
structure EvictionAt (settings : BusSettings) (key : ScopeKey) (bus : TelegramEventBus)
    (gone : ℕ) (coming : List ScopeKey) (progress : TelegramEventBus) : Prop where
  same : SameHistory key bus progress
  buffered : coming ⊆ Dict.keyList progress.historyBuffers
  room : progress.historyBuffers.length ≤ settings.maxHistoryKeys ∨
    progress.historyBuffers.length + gone ≤ bus.historyBuffers.length

theorem evictTurn_spares {head : ScopeKey} {gone : ℕ} {rest : List ScopeKey}
    {progress : TelegramEventBus × ℕ}
    (hspared : head = key → now - bus.lastPublished key ≤ settings.bufferTtl ∧
      bus.historyBuffers.length ≤ settings.maxHistoryKeys + gone) (hfresh : head ∉ rest)
    (hat : EvictionAt settings key bus gone (head :: rest) progress.1) :
    EvictionAt settings key bus (gone + 1) rest (evictTurn settings now progress head).1 := by
  obtain ⟨hhead, hrest⟩ := List.cons_subset.mp hat.buffered
  unfold evictTurn
  split
  · next hevicts =>
    have hne : key ≠ head := by
      rintro rfl
      obtain ⟨hyoung, hroom⟩ := hspared rfl
      rw [evicts, hat.same.published] at hevicts
      simp only [Bool.or_eq_true, decide_eq_true_eq] at hevicts
      rcases hevicts with hold | hmany
      · exact absurd hyoung (Rat.not_le.mpr hold)
      · have := hat.room
        omega
    refine ⟨hat.same.trans (forgetKey_sameHistory hne _), ?_, ?_⟩
    · intro other hother
      refine Dict.mem_keyList_popItem.mpr ⟨hrest hother, ?_⟩
      rintro rfl
      exact hfresh hother
    · have hless : (forgetKey progress.1 head).historyBuffers.length <
          progress.1.historyBuffers.length := Dict.length_popItem_lt hhead
      have := hat.room
      dsimp only
      omega
  · next hkeeps =>
    simp only [evicts, Bool.or_eq_true, decide_eq_true_eq, not_or, not_lt] at hkeeps
    exact ⟨hat.same, hrest, Or.inl hkeeps.2⟩

theorem evictTurns_spare :
    ∀ (coming : List ScopeKey) (gone : ℕ) (progress : TelegramEventBus × ℕ), coming.Nodup →
      (key ∈ coming → now - bus.lastPublished key ≤ settings.bufferTtl ∧
        bus.historyBuffers.length ≤ settings.maxHistoryKeys + (gone + coming.idxOf key)) →
      EvictionAt settings key bus gone coming progress.1 →
        SameHistory key bus (coming.foldl (evictTurn settings now) progress).1 := by
  intro coming
  induction coming with
  | nil => exact fun gone progress _ _ hat => hat.same
  | cons head rest ih =>
    intro gone progress hnodup hspared hat
    obtain ⟨hfresh, hrest⟩ := List.nodup_cons.mp hnodup
    apply ih (gone + 1) (evictTurn settings now progress head) hrest
    · intro hkey
      obtain ⟨hyoung, hroom⟩ := hspared (List.mem_cons_of_mem _ hkey)
      have hne : head ≠ key := by
        rintro rfl
        exact hfresh hkey
      rw [List.idxOf_cons_ne _ hne] at hroom
      exact ⟨hyoung, by omega⟩
    · apply evictTurn_spares _ hfresh hat
      rintro rfl
      simpa using hspared List.mem_cons_self

theorem evict_spares (hkept : WellKept settings bus) (hspared : Spared settings now bus key) :
    SameHistory key bus (evictInactiveHistories settings now bus).1 := by
  apply evictTurns_spare (inactiveKeys bus) 0 (bus, 0) (inactiveKeys_nodup hkept)
  · intro hinactive
    rw [Nat.zero_add]
    exact hspared.resolve_left (fun hlive => hlive (mem_inactiveKeys.mp hinactive).2)
  · exact ⟨⟨rfl, rfl, rfl⟩, fun other hother => (mem_inactiveKeys.mp hother).1,
      Or.inr (Nat.le_refl _)⟩

/-! ## What a publish leaves of the history -/

theorem SameHistory.ofSameMaps {before after : TelegramEventBus} (hsame : SameMaps before after)
    (key : ScopeKey) : SameHistory key before after where
  history := congrArg (fun buffers => (Dict.getItem buffers key).getD []) hsame.buffers
  published := congrArg (fun times => (Dict.getItem times key).getD 0) hsame.published
  evictions := congrArg (fun counts => (Dict.getItem counts key).getD 0) hsame.evictions

theorem touchKey_sameHistory (hne : key ≠ other) (now : ℚ) (bus : TelegramEventBus) :
    SameHistory key bus (touchKey now bus other) where
  history := congrArg (Option.getD · []) (Dict.getItem_setItem_of_ne _ _ hne)
  published := congrArg (Option.getD · 0) (Dict.getItem_setItem_of_ne _ _ hne)
  evictions := rfl

theorem remember_evictions (now : ℚ) (event : BusEvent) (bus : TelegramEventBus) (key : ScopeKey) :
    (remember settings now event bus key).evictionsOf key =
      bus.evictionsOf key + ((bus.historyOf key ++ [event]).length - settings.bufferSize) := by
  simp only [remember, TelegramEventBus.evictionsOf]
  split
  · next hnone => rw [hnone, Nat.add_zero]
  · rw [Dict.getItem_setItem_self]
    rfl

section

variable (hne : key ≠ other) (now : ℚ) (event : BusEvent) (bus : TelegramEventBus)

include hne

theorem remember_sameHistory : SameHistory key bus (remember settings now event bus other) where
  history := congrArg (Option.getD · []) (Dict.getItem_setItem_of_ne _ _ hne)
  published := rfl
  evictions := by
    simp only [remember, TelegramEventBus.evictionsOf]
    split
    · rfl
    · rw [Dict.getItem_setItem_of_ne _ _ hne]

theorem publishKey_sameHistory : SameHistory key bus (publishKey settings now event bus other) := by
  have htouched := touchKey_sameHistory hne now bus
  rcases @publishKey_maps settings now event bus other with ⟨-, heq⟩ | ⟨-, hsame⟩
  · rw [heq]
    exact htouched
  · exact (htouched.trans (remember_sameHistory hne now event _)).trans (.ofSameMaps hsame key)

end

theorem publishKey_history (now : ℚ) (event : BusEvent) (bus : TelegramEventBus) (key : ScopeKey) :
    (repeats settings now (bus.historyOf key) event = true ∧
        (publishKey settings now event bus key).historyOf key = bus.historyOf key ∧
        (publishKey settings now event bus key).evictionsOf key = bus.evictionsOf key) ∨
      (repeats settings now (bus.historyOf key) event = false ∧
        (publishKey settings now event bus key).historyOf key =
          (lastElements settings.bufferSize (bus.historyOf key ++ [event])).filter
            (unexpired settings now) ∧
        (publishKey settings now event bus key).evictionsOf key = bus.evictionsOf key +
            ((bus.historyOf key ++ [event]).length - settings.bufferSize)) := by
  have htouched : (touchKey now bus key).historyOf key = bus.historyOf key := by
    simp [touchKey, TelegramEventBus.historyOf]
  refine (@publishKey_maps settings now event bus key).imp ?_ ?_
  · rintro ⟨hrepeats, heq⟩
    rw [heq]
    exact ⟨hrepeats, htouched, rfl⟩
  · rintro ⟨hnew, hsame⟩
    have hafter := SameHistory.ofSameMaps hsame key
    have hremembered : (remember settings now event (touchKey now bus key) key).historyOf key =
        (lastElements settings.bufferSize ((touchKey now bus key).historyOf key ++
          [event])).filter (unexpired settings now) :=
      (historyOf_setItem _ _ _ _).trans (if_pos rfl)
    refine ⟨hnew, ?_, ?_⟩
    · rw [hafter.history, hremembered, htouched]
    · rw [hafter.evictions, remember_evictions, htouched]
      rfl

/-! ## Nothing is lost silently -/

def publishedOn (key : ScopeKey) : BusStep → List BusEvent
  | .publish _ event includeLegacyScope =>
    if key ∈ publishKeys event includeLegacyScope then [event] else []
  | _ => []

def publishedAlong (key : ScopeKey) (steps : List BusStep) : List BusEvent :=
  steps.flatMap (publishedOn key)

/-- An event that the subscription asks for is in the history, maybe as an earlier
copy, or the history is known to have lost events. -/
def Remembered (asks : BusEvent → Prop) (key : ScopeKey) (published : List BusEvent)
    (bus : TelegramEventBus) : Prop :=
  ∀ event ∈ published, asks event → 0 < bus.evictionsOf key ∨
      ∃ copy ∈ bus.historyOf key, copy.eventId = event.eventId ∧ asks copy

/-- The event can go into this history: what is asked for there has not expired, and
the copy that the event repeats, if it repeats one, is asked for as well. -/
structure Admits (settings : BusSettings) (asks : BusEvent → Prop) (now : ℚ)
    (buffer : List BusEvent) (event : BusEvent) : Prop where
  young : ∀ old ∈ buffer ++ [event], asks old → unexpired settings now old = true
  copied : ∀ latest ∈ latestRevision settings now buffer event,
    latest.eventId = event.eventId → asks event → asks latest

instance {asks : BusEvent → Prop} [DecidablePred asks] (settings : BusSettings) (now : ℚ)
    (buffer : List BusEvent) (event : BusEvent) :
    Decidable (Admits settings asks now buffer event) :=
  decidable_of_iff
    ((∀ old ∈ buffer ++ [event], asks old → unexpired settings now old = true) ∧
      ∀ latest ∈ latestRevision settings now buffer event,
        latest.eventId = event.eventId → asks event → asks latest)
    ⟨fun hboth => ⟨hboth.1, hboth.2⟩, fun hadmits => ⟨hadmits.young, hadmits.copied⟩⟩

/-- The bus of a publish before its eviction. -/
def stored (settings : BusSettings) (now : ℚ) (event : BusEvent) (includeLegacyScope : Bool)
    (bus : TelegramEventBus) : TelegramEventBus :=
  (publishKeys event includeLegacyScope).foldl (publishKey settings now event) bus

def Careful (settings : BusSettings) (asks : BusEvent → Prop) (key : ScopeKey)
    (published : List BusEvent) (bus : TelegramEventBus) : BusStep → Prop
  | .publish now event includeLegacyScope =>
    (key ∈ publishKeys event includeLegacyScope →
      Admits settings asks now (bus.historyOf key) event) ∧
    (Spared settings now (stored settings now event includeLegacyScope bus) key ∨
      ∀ old ∈ published ++ publishedOn key (.publish now event includeLegacyScope), ¬asks old)
  | .evict now => Spared settings now bus key ∨ ∀ old ∈ published, ¬asks old
  | _ => True

instance {asks : BusEvent → Prop} [DecidablePred asks] (settings : BusSettings)
    (key : ScopeKey) (published : List BusEvent) (bus : TelegramEventBus) :
    (step : BusStep) → Decidable (Careful settings asks key published bus step)
  | .publish _ _ _ => inferInstanceAs (Decidable ((_ → _) ∧ (_ ∨ _)))
  | .subscribe _ _ => .isTrue trivial
  | .unsubscribe _ _ _ => .isTrue trivial
  | .read _ => .isTrue trivial
  | .clear _ => .isTrue trivial
  | .evict _ => inferInstanceAs (Decidable (_ ∨ _))

def CarefulRun (settings : BusSettings) (asks : BusEvent → Prop) (key : ScopeKey)
    (published : List BusEvent) (bus : TelegramEventBus) : List BusStep → Prop
  | [] => True
  | step :: rest =>
    Careful settings asks key published bus step ∧
      CarefulRun settings asks key (published ++ publishedOn key step)
        (takeStep settings bus step) rest

instance {asks : BusEvent → Prop} [DecidablePred asks] (settings : BusSettings)
    (key : ScopeKey) (published : List BusEvent) (bus : TelegramEventBus)
    (steps : List BusStep) : Decidable (CarefulRun settings asks key published bus steps) := by
  induction steps generalizing published bus with
  | nil => exact .isTrue trivial
  | cons step rest ih => exact @instDecidableAnd _ _ inferInstance (ih _ _)

def isClear : BusStep → Bool
  | .clear _ => true
  | _ => false

theorem Remembered.ofSameHistory {before after : TelegramEventBus}
    (hremembered : Remembered asks key published before) (hsame : SameHistory key before after) :
    Remembered asks key published after := by
  intro event hevent hasks
  rw [hsame.history, hsame.evictions]
  exact hremembered event hevent hasks

theorem latestRevision_mem {buffer : List BusEvent} {latest : BusEvent}
    (hlatest : latestRevision settings now buffer event = some latest) : latest ∈ buffer :=
  List.mem_reverse.mp (List.mem_of_find?_eq_some hlatest)

theorem mem_lastElements_or_short {α : Type} {item : α} {size : ℕ} {items : List α}
    (hitem : item ∈ items) :
    item ∈ lastElements size items ∨ 0 < items.length - size := by
  by_cases hshort : items.length - size = 0
  · left
    rw [lastElements, hshort]
    exact hitem
  · exact Or.inr (Nat.pos_of_ne_zero hshort)

theorem remembered_publishKey (hremembered : Remembered asks key published bus)
    (hadmits : Admits settings asks now (bus.historyOf key) event) :
    Remembered asks key (published ++ [event]) (publishKey settings now event bus key) := by
  intro other hother hasks
  rcases @publishKey_history settings now event bus key with
    ⟨hrepeats, hhistory, hevictions⟩ | ⟨-, hhistory, hevictions⟩
  · rw [hhistory, hevictions]
    rcases List.mem_append.mp hother with hold | hnew
    · exact hremembered other hold hasks
    · obtain rfl := List.mem_singleton.mp hnew
      right
      cases hlatest : latestRevision settings now (bus.historyOf key) other with
      | none => simp [repeats, hlatest] at hrepeats
      | some latest =>
        have hid : latest.eventId = other.eventId := by
          simpa [repeats, hlatest] using hrepeats
        exact ⟨latest, latestRevision_mem hlatest, hid, hadmits.copied latest hlatest hid hasks⟩
  · have hkept : ∀ copy ∈ bus.historyOf key ++ [event], asks copy →
        0 < (publishKey settings now event bus key).evictionsOf key ∨
          copy ∈ (publishKey settings now event bus key).historyOf key := by
      intro copy hcopy hcopied
      rw [hevictions, hhistory]
      rcases @mem_lastElements_or_short _ copy settings.bufferSize _ hcopy with hlast | hlost
      · exact Or.inr (List.mem_filter.mpr ⟨hlast, hadmits.young copy hcopy hcopied⟩)
      · exact Or.inl (by omega)
    rcases List.mem_append.mp hother with hold | hnew
    · rcases hremembered other hold hasks with hcounted | ⟨copy, hcopy, hid, hcopied⟩
      · left
        rw [hevictions]
        omega
      · refine (hkept copy (List.mem_append_left _ hcopy) hcopied).imp_right fun hmem => ?_
        exact ⟨copy, hmem, hid, hcopied⟩
    · obtain rfl := List.mem_singleton.mp hnew
      refine (hkept other (List.mem_append_right _ hnew) hasks).imp_right fun hmem => ?_
      exact ⟨other, hmem, rfl, hasks⟩

theorem publishKeys_sameHistory : ∀ (keys : List ScopeKey) (bus : TelegramEventBus), key ∉ keys →
      SameHistory key bus (keys.foldl (publishKey settings now event) bus) := by
  intro keys
  induction keys with
  | nil => exact fun bus _ => ⟨rfl, rfl, rfl⟩
  | cons head rest ih =>
    intro bus hother
    simp only [List.mem_cons, not_or] at hother
    obtain ⟨hhead, hrest⟩ := hother
    exact (publishKey_sameHistory hhead now event bus).trans (ih _ hrest)

/-- The rule for the loop of `publish`: what the turn of the key brings about is left
alone by the others. -/
theorem publishKeys_rule {After : TelegramEventBus → Prop} {key : ScopeKey} {now : ℚ}
    {event : BusEvent}
    (hframe : ∀ before after, SameHistory key before after → After before → After after) :
    ∀ (keys : List ScopeKey) (bus : TelegramEventBus), keys.Nodup → key ∈ keys →
      (∀ before, SameHistory key bus before → After (publishKey settings now event before key)) →
      After (keys.foldl (publishKey settings now event) bus) := by
  intro keys
  induction keys with
  | nil => exact fun bus _ hkey _ => absurd hkey List.not_mem_nil
  | cons head rest ih =>
    intro bus hnodup hkey hturn
    obtain ⟨hfresh, hrest⟩ := List.nodup_cons.mp hnodup
    rw [List.foldl_cons]
    rcases List.mem_cons.mp hkey with rfl | hlater
    · exact hframe _ _ (publishKeys_sameHistory rest _ hfresh) (hturn bus ⟨rfl, rfl, rfl⟩)
    · have hne : key ≠ head := by
        rintro rfl
        exact hfresh hlater
      apply ih _ hrest hlater
      intro before hsame
      exact hturn before ((publishKey_sameHistory hne now event bus).trans hsame)

theorem remembered_stored {includeLegacyScope : Bool}
    (hremembered : Remembered asks key published bus)
    (hadmits : key ∈ publishKeys event includeLegacyScope →
      Admits settings asks now (bus.historyOf key) event) :
    Remembered asks key (published ++ publishedOn key (.publish now event includeLegacyScope))
      (stored settings now event includeLegacyScope bus) := by
  simp only [stored, publishedOn]
  split
  · next hkey =>
    apply publishKeys_rule (fun before after hsame hbefore => hbefore.ofSameHistory hsame) _ _
      (publishKeys_nodup event includeLegacyScope) hkey
    intro before hsame
    apply remembered_publishKey (hremembered.ofSameHistory hsame)
    rw [hsame.history]
    exact hadmits hkey
  · next hother =>
    rw [List.append_nil]
    exact hremembered.ofSameHistory (publishKeys_sameHistory _ _ hother)

theorem remembered_evict (hkept : WellKept settings bus)
    (hremembered : Remembered asks key published bus)
    (hcareful : Spared settings now bus key ∨ ∀ old ∈ published, ¬asks old) :
    Remembered asks key published (evictInactiveHistories settings now bus).1 := by
  rcases hcareful with hspared | hidle
  · exact hremembered.ofSameHistory (evict_spares hkept hspared)
  · intro event hevent hasks
    exact absurd hasks (hidle event hevent)

theorem remembered_step (hkept : WellKept settings bus)
    (hremembered : Remembered asks key published bus) {step : BusStep}
    (hclear : isClear step = false) (hcareful : Careful settings asks key published bus step) :
    Remembered asks key (published ++ publishedOn key step) (takeStep settings bus step) := by
  cases step with
  | publish now event includeLegacyScope =>
    obtain ⟨hadmits, hspared⟩ := hcareful
    refine remembered_evict ?_ ?_ hspared
    · exact List.foldlRecOn _ _ hkept fun progress hprogress other _ =>
        wellKept_publishKey hprogress now event other
    · exact remembered_stored hremembered hadmits
  | subscribe now subscription =>
    have hopened : SameHistory key bus (openQueue bus (subscription.key settings)) :=
      ⟨rfl, rfl, rfl⟩
    simp only [publishedOn, List.append_nil]
    exact hremembered.ofSameHistory
      (hopened.trans (.ofSameMaps (subscribe_maps now subscription bus) key))
  | unsubscribe chatId messageThreadId queue =>
    simp only [publishedOn, List.append_nil]
    apply hremembered.ofSameHistory
    simp only [takeStep, unsubscribe]
    split
    · exact ⟨rfl, rfl, rfl⟩
    · exact ⟨rfl, rfl, rfl⟩
  | read queue =>
    simp only [publishedOn, List.append_nil]
    exact hremembered
  | clear chatId => cases hclear
  | evict now =>
    simp only [publishedOn, List.append_nil]
    exact remembered_evict hkept hremembered hcareful

theorem remembered_run :
    ∀ (steps : List BusStep) (published : List BusEvent) (bus : TelegramEventBus),
      WellKept settings bus → Remembered asks key published bus →
      (∀ step ∈ steps, isClear step = false) →
      CarefulRun settings asks key published bus steps →
        Remembered asks key (published ++ publishedAlong key steps)
          (runSteps settings steps bus) := by
  intro steps
  induction steps with
  | nil =>
    intro published bus _ hremembered _ _
    rw [publishedAlong, List.flatMap_nil, List.append_nil]
    exact hremembered
  | cons step rest ih =>
    intro published bus hkept hremembered hclear hcareful
    obtain ⟨hstep, hrest⟩ := hcareful
    have hafter := ih _ _ (wellKept_step hkept step)
      (remembered_step hkept hremembered (hclear step List.mem_cons_self) hstep)
      (fun other hother => hclear other (List.mem_cons_of_mem _ hother)) hrest
    rw [publishedAlong, List.flatMap_cons, ← List.append_assoc]
    exact hafter

/-- Of a replayable event either a copy is in the queue of the new subscriber, or the
subscriber is told of a loss. -/
def Answered (settings : BusSettings) (now : ℚ) (subscription : Subscription)
    (bus : TelegramEventBus) (event : BusEvent) : Prop :=
  let opened := (subscribe settings now subscription bus).2
  (∃ copy ∈ opened.contents bus.nextQueue, copy.eventId = event.eventId) ∨
    deliveryGap (opened.getDeliveryStats bus.nextQueue) = true

/-- In a run in which the history of the key is given up only where nothing that the
subscription asks for was published on it, every event that it asks for is served
or known to be lost. -/
theorem asked_events_answered (settings : BusSettings) (steps : List BusStep) (now : ℚ)
    (subscription : Subscription) (hclear : ∀ step ∈ steps, isClear step = false)
    (hcareful : CarefulRun settings (subscription.replays settings now ·)
      (subscription.key settings) [] {} steps) :
    ∀ event ∈ publishedAlong (subscription.key settings) steps,
      subscription.replays settings now event = true →
        Answered settings now subscription (runSteps settings steps {}) event := by
  intro event hevent hasks
  have hserved : Served settings now subscription (runSteps settings steps {}) :=
    subscribe_served (statsNumbered_run settings steps) now subscription
  simp only [Answered]
  rw [hserved.gap_iff]
  rcases remembered_run steps [] {} (wellKept_empty settings)
    (fun _ hnone => absurd hnone List.not_mem_nil) hclear hcareful event hevent hasks with
    hcounted | ⟨copy, hcopy, hid, hcopied⟩
  · exact Or.inr (Or.inr hcounted)
  · have hreplayed : copy ∈ replayed settings now subscription (runSteps settings steps {}) :=
      List.mem_filter.mpr ⟨hcopy, hcopied⟩
    rcases Nat.lt_or_ge settings.queueSize
      (replayed settings now subscription (runSteps settings steps {})).length with hmany | hfits
    · exact Or.inr (Or.inl hmany)
    · left
      refine ⟨copy, ?_, hid⟩
      rw [hserved.contents, List.take_of_length_le hfits]
      exact hreplayed

/-- The later of two messages is served to a subscriber that knows the first. -/
theorem second_message_answered : Answered {} 6 { chatId := .number 1, minMessageId := some 1 }
      (runSteps {} [.publish 4 (sampleMessage 1) false, .publish 5 (sampleMessage 2) false] {})
      (sampleMessage 2) :=
  asked_events_answered {} [.publish 4 (sampleMessage 1) false,
    .publish 5 (sampleMessage 2) false] 6 { chatId := .number 1, minMessageId := some 1 }
    (by decide) (by decide +kernel) (sampleMessage 2) (by decide +kernel) (by decide +kernel)

def oneHistory : BusSettings where
  maxHistoryKeys := 1

def otherChatMessage : BusEvent :=
  { chatId := 2, messageId := 1, text := "ok", occurredAt := 2
    eventId := "msg_2_None_1_new_message_dd7234943ff3b211" }

/-- With room for one history, a message of a watched chat makes the bus forget the
other one, and the later subscriber of that is told nothing. -/
theorem watched_chat_silences :
    ¬∀ (settings : BusSettings) (steps : List BusStep) (now : ℚ) (subscription : Subscription),
      (∀ step ∈ steps, isClear step = false) →
        ∀ event ∈ publishedAlong (subscription.key settings) steps,
          subscription.replays settings now event = true →
            Answered settings now subscription (runSteps settings steps {}) event := by
  intro hall
  have hanswered := hall oneHistory
    [.subscribe 3 { chatId := .number 2 }, .publish 4 (sampleMessage 1) false,
      .publish 5 otherChatMessage false]
    6 { chatId := .number 1, minMessageId := some 0 } (by decide) (sampleMessage 1)
    (by decide +kernel) (by decide +kernel)
  revert hanswered
  unfold Answered
  decide +kernel

end SignPulse.LateSubscribers
