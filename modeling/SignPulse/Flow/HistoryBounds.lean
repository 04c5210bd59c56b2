import Mathlib.Data.List.Dedup
import SignPulse.Flow.EventBus

/-!
# The size of the histories

The bus keeps at most `buffer_size` events for a key, and at most
`max_history_keys` keys beside those with a subscriber.  Its maps agree on the
keys they know.
-/

namespace SignPulse.HistoryBounds

open Foundation
open FlowModels
open EventBus

variable {settings : BusSettings}

/-! ## What the operations leave alone -/

/-- Deliveries change queues and their statistics only. -/
structure SameMaps (before after : TelegramEventBus) : Prop where
  subscribers : after.subscribers = before.subscribers
  buffers : after.historyBuffers = before.historyBuffers
  published : after.historyLastPublished = before.historyLastPublished
  evictions : after.historyEvictions = before.historyEvictions
  nextQueue : after.nextQueue = before.nextQueue

theorem SameMaps.refl (bus : TelegramEventBus) : SameMaps bus bus :=
  ⟨rfl, rfl, rfl, rfl, rfl⟩

theorem SameMaps.trans {first second third : TelegramEventBus}
    (hfirst : SameMaps first second) (hsecond : SameMaps second third) :
    SameMaps first third where
  subscribers := hsecond.subscribers.trans hfirst.subscribers
  buffers := hsecond.buffers.trans hfirst.buffers
  published := hsecond.published.trans hfirst.published
  evictions := hsecond.evictions.trans hfirst.evictions
  nextQueue := hsecond.nextQueue.trans hfirst.nextQueue

theorem deliver_sameMaps (event : BusEvent) (bus : TelegramEventBus) (queue : ℕ) :
    SameMaps bus (deliver settings event bus queue) := by
  unfold deliver
  split
  · exact ⟨rfl, rfl, rfl, rfl, rfl⟩
  · exact ⟨rfl, rfl, rfl, rfl, rfl⟩

theorem foldl_sameMaps {α : Type} {step : TelegramEventBus → α → TelegramEventBus}
    (hstep : ∀ bus item, SameMaps bus (step bus item)) :
    ∀ (items : List α) (bus : TelegramEventBus), SameMaps bus (items.foldl step bus) := by
  intro items
  induction items with
  | nil => exact fun bus => .refl bus
  | cons item rest ih => exact fun bus => (hstep bus item).trans (ih (step bus item))

theorem publishKey_maps (now : ℚ) (event : BusEvent) (bus : TelegramEventBus) (key : ScopeKey) :
    (repeats settings now (bus.historyOf key) event = true ∧
        publishKey settings now event bus key = touchKey now bus key) ∨
      repeats settings now (bus.historyOf key) event = false ∧
        SameMaps (remember settings now event (touchKey now bus key) key)
          (publishKey settings now event bus key) := by
  have hhistory : (touchKey now bus key).historyOf key = bus.historyOf key := by
    simp [touchKey, TelegramEventBus.historyOf]
  simp only [publishKey]
  rw [hhistory]
  split
  · next hrepeats => exact Or.inl ⟨hrepeats, rfl⟩
  · next hnew =>
    exact Or.inr ⟨Bool.eq_false_iff.mpr hnew,
      foldl_sameMaps (fun bus queue => deliver_sameMaps event bus queue) _ _⟩

theorem subscribe_maps (now : ℚ) (subscription : Subscription) (bus : TelegramEventBus) :
    SameMaps (openQueue bus (subscription.key settings))
      (subscribe settings now subscription bus).2 :=
  foldl_sameMaps (fun served event => deliver_sameMaps event served bus.nextQueue) _ _

variable {bus : TelegramEventBus} {key : ScopeKey} {ν : Type} {items : Dict ScopeKey ν}
variable {buffers : Dict ScopeKey (List BusEvent)}

theorem evict_rule (Inv : TelegramEventBus → Prop) {now : ℚ}
    (hforget : ∀ progress, ∀ key ∈ inactiveKeys bus,
      evicts settings now progress key = true → Inv progress → Inv (forgetKey progress key))
    (hinv : Inv bus) : Inv (evictInactiveHistories settings now bus).1 := by
  have hfold : ∀ (keys : List ScopeKey) (progress : TelegramEventBus × ℕ),
      keys ⊆ inactiveKeys bus → Inv progress.1 →
        Inv (keys.foldl (evictTurn settings now) progress).1 := by
    intro keys
    induction keys with
    | nil => exact fun progress _ hprogress => hprogress
    | cons key rest ih =>
      intro progress hsub hprogress
      obtain ⟨hkey, hrest⟩ := List.cons_subset.mp hsub
      refine ih _ hrest ?_
      unfold evictTurn
      split
      · next hevicts => exact hforget progress.1 key hkey hevicts hprogress
      · exact hprogress
  exact hfold _ _ (List.Subset.refl _) hinv

theorem mem_inactiveKeys : key ∈ inactiveKeys bus ↔
      key ∈ Dict.keyList bus.historyBuffers ∧ bus.subscribersOf key = [] := by
  rw [inactiveKeys, List.mem_mergeSort, List.mem_filter, List.isEmpty_iff]

theorem evict_subscribers (now : ℚ) (bus : TelegramEventBus) :
    (evictInactiveHistories settings now bus).1.subscribers = bus.subscribers :=
  evict_rule (fun after => after.subscribers = bus.subscribers) (fun _ _ _ _ hsame => hsame) rfl

theorem evict_keeps_subscribed (now : ℚ) (hlive : bus.subscribersOf key ≠ []) :
    Dict.getItem (evictInactiveHistories settings now bus).1.historyBuffers key =
      Dict.getItem bus.historyBuffers key := by
  refine evict_rule (fun after => Dict.getItem after.historyBuffers key =
    Dict.getItem bus.historyBuffers key) ?_ rfl
  intro progress other hother _ hsame
  have hne : key ≠ other := by
    rintro rfl
    exact hlive (mem_inactiveKeys.mp hother).2
  exact (Dict.getItem_popItem_of_ne _ hne).trans hsame

/-! ## The maps agree -/

/-- The buffers are within their size, and the other maps know no key without a
buffer. -/
structure WellKept (settings : BusSettings) (bus : TelegramEventBus) : Prop where
  distinct : (Dict.keyList bus.historyBuffers).Nodup
  size : ∀ key, (bus.historyOf key).length ≤ settings.bufferSize
  published : Dict.keyList bus.historyLastPublished ⊆ Dict.keyList bus.historyBuffers
  evictions : Dict.keyList bus.historyEvictions ⊆ Dict.keyList bus.historyBuffers

theorem wellKept_empty (settings : BusSettings) : WellKept settings {} where
  distinct := List.nodup_nil
  size := fun _ => Nat.zero_le _
  published := List.Subset.refl _
  evictions := List.Subset.refl _

theorem WellKept.ofSameMaps {before after : TelegramEventBus}
    (hkept : WellKept settings before) (hsame : SameMaps before after) :
    WellKept settings after where
  distinct := hsame.buffers ▸ hkept.distinct
  size := by
    intro key
    rw [TelegramEventBus.historyOf, hsame.buffers]
    exact hkept.size key
  published := hsame.published ▸ hsame.buffers ▸ hkept.published
  evictions := hsame.evictions ▸ hsame.buffers ▸ hkept.evictions

/-- Storing a buffer under a key that the other maps may know from then on. -/
theorem keyList_subset_setItem (key : ScopeKey) (buffer : List BusEvent)
    (hsub : Dict.keyList items ⊆ Dict.keyList buffers) :
    Dict.keyList items ⊆ Dict.keyList (Dict.setItem buffers key buffer) := by
  intro other hother
  exact Dict.mem_keyList_setItem.mpr (Or.inr (hsub hother))

theorem keyList_setItem_subset (key : ScopeKey) (value : ν) (buffer : List BusEvent)
    (hsub : Dict.keyList items ⊆ Dict.keyList buffers) :
    Dict.keyList (Dict.setItem items key value) ⊆
      Dict.keyList (Dict.setItem buffers key buffer) := by
  intro other hother
  rcases Dict.mem_keyList_setItem.mp hother with rfl | hold
  · exact Dict.mem_keyList_setItem.mpr (Or.inl rfl)
  · exact Dict.mem_keyList_setItem.mpr (Or.inr (hsub hold))

theorem historyOf_setItem (bus : TelegramEventBus) (key other : ScopeKey) (buffer : List BusEvent) :
    ({ bus with historyBuffers := Dict.setItem bus.historyBuffers key buffer } :
      TelegramEventBus).historyOf other = if other = key then buffer else bus.historyOf other := by
  unfold TelegramEventBus.historyOf
  by_cases hkey : other = key
  · simp [hkey]
  · simp [hkey, Dict.getItem_setItem_of_ne]

theorem wellKept_touchKey (hkept : WellKept settings bus) (now : ℚ) (key : ScopeKey) :
    WellKept settings (touchKey now bus key) where
  distinct := Dict.nodup_setItem _ _ hkept.distinct
  size := by
    intro other
    have hhistory := historyOf_setItem bus key other (bus.historyOf key)
    have hsize := hkept.size other
    change ((touchKey now bus key).historyOf other).length ≤ settings.bufferSize
    rw [show (touchKey now bus key).historyOf other = _ from hhistory]
    split
    · exact hkept.size key
    · exact hsize
  published := keyList_setItem_subset key now _ hkept.published
  evictions := keyList_subset_setItem key _ hkept.evictions

theorem length_lastElements_le {α : Type} (size : ℕ) (items : List α) :
    (lastElements size items).length ≤ size := by
  rw [lastElements, List.length_drop]
  omega

section

variable (hkept : WellKept settings bus) (now : ℚ) (event : BusEvent) (key : ScopeKey)

include hkept

theorem wellKept_remember : WellKept settings (remember settings now event bus key) where
  distinct := Dict.nodup_setItem _ _ hkept.distinct
  size := by
    intro other
    have hhistory := historyOf_setItem bus key other
      ((lastElements settings.bufferSize (bus.historyOf key ++ [event])).filter
        (unexpired settings now))
    rw [show (remember settings now event bus key).historyOf other = _ from hhistory]
    split
    · exact (List.length_filter_le _ _).trans (length_lastElements_le _ _)
    · exact hkept.size other
  published := keyList_subset_setItem key _ hkept.published
  evictions := by
    simp only [remember]
    split
    · exact keyList_subset_setItem key _ hkept.evictions
    · exact keyList_setItem_subset key _ _ hkept.evictions

theorem wellKept_publishKey : WellKept settings (publishKey settings now event bus key) := by
  have htouched := wellKept_touchKey hkept now key
  rcases publishKey_maps now event bus key with ⟨-, heq⟩ | ⟨-, hsame⟩
  · rw [heq]
    exact htouched
  · exact (wellKept_remember htouched now event key).ofSameMaps hsame

end

theorem keyList_popItem_subset (key : ScopeKey) (hsub : Dict.keyList items ⊆ Dict.keyList buffers) :
    Dict.keyList (Dict.popItem items key) ⊆ Dict.keyList (Dict.popItem buffers key) := by
  intro other hother
  obtain ⟨hmem, hne⟩ := Dict.mem_keyList_popItem.mp hother
  exact Dict.mem_keyList_popItem.mpr ⟨hsub hmem, hne⟩

variable (hkept : WellKept settings bus)

include hkept

theorem wellKept_forgetKey (key : ScopeKey) : WellKept settings (forgetKey bus key) where
  distinct := Dict.nodup_popItem key hkept.distinct
  size := by
    intro other
    simp only [TelegramEventBus.historyOf, forgetKey]
    by_cases hkey : other = key
    · simp [hkey]
    · rw [Dict.getItem_popItem_of_ne _ hkey]
      exact hkept.size other
  published := keyList_popItem_subset key hkept.published
  evictions := keyList_popItem_subset key hkept.evictions

theorem wellKept_evict (now : ℚ) : WellKept settings (evictInactiveHistories settings now bus).1 :=
  evict_rule (WellKept settings) (fun _ key _ _ hprogress => wellKept_forgetKey hprogress key) hkept

theorem wellKept_publish (now : ℚ) (event : BusEvent) (includeLegacyScope : Bool) :
    WellKept settings (publish settings now event includeLegacyScope bus) := by
  refine wellKept_evict ?_ now
  exact List.foldlRecOn _ _ hkept fun progress hprogress key _ =>
    wellKept_publishKey hprogress now event key

theorem wellKept_clear (chatId : Option ChatId) :
    WellKept settings (clear settings chatId bus) := by
  unfold clear
  split
  · exact ⟨List.nodup_nil, fun _ => Nat.zero_le _, List.Subset.refl _, List.Subset.refl _⟩
  · refine List.foldlRecOn _ _ ?_ fun progress hprogress key _ =>
      wellKept_forgetKey hprogress key
    exact ⟨hkept.distinct, hkept.size, hkept.published, hkept.evictions⟩

theorem wellKept_step (step : BusStep) : WellKept settings (takeStep settings bus step) := by
  cases step with
  | publish now event includeLegacyScope =>
    exact wellKept_publish hkept now event includeLegacyScope
  | subscribe now subscription =>
    have hopened : WellKept settings (openQueue bus (subscription.key settings)) :=
      ⟨hkept.distinct, hkept.size, hkept.published, hkept.evictions⟩
    exact hopened.ofSameMaps (subscribe_maps now subscription bus)
  | unsubscribe chatId messageThreadId queue =>
    simp only [takeStep, unsubscribe]
    split
    · exact ⟨hkept.distinct, hkept.size, hkept.published, hkept.evictions⟩
    · exact hkept
  | read queue => exact ⟨hkept.distinct, hkept.size, hkept.published, hkept.evictions⟩
  | clear chatId => exact wellKept_clear hkept chatId
  | evict now => exact wellKept_evict hkept now

omit hkept

theorem wellKept_run (settings : BusSettings) (steps : List BusStep) :
    WellKept settings (runSteps settings steps {}) :=
  List.foldlRecOn _ _ (wellKept_empty settings) fun _ hbus step _ => wellKept_step hbus step

/-! ## The number of keys -/

def liveKeys (bus : TelegramEventBus) : List ScopeKey :=
  ((Dict.keyList bus.subscribers).filter fun key =>
    !(bus.subscribersOf key).isEmpty).dedup

theorem mem_liveKeys : key ∈ liveKeys bus ↔ bus.subscribersOf key ≠ [] := by
  rw [liveKeys, List.mem_dedup, List.mem_filter]
  simp only [Bool.not_eq_true', List.isEmpty_eq_false_iff, and_iff_right_iff_imp]
  intro hlive
  unfold TelegramEventBus.subscribersOf at hlive
  cases hget : Dict.getItem bus.subscribers key with
  | none => simp [hget] at hlive
  | some queues => exact Dict.mem_keyList_of_getItem hget

theorem evictTurns_shrink (now : ℚ) : ∀ (keys : List ScopeKey) (progress : TelegramEventBus × ℕ),
      Dict.keyList (keys.foldl (evictTurn settings now) progress).1.historyBuffers ⊆
          Dict.keyList progress.1.historyBuffers ∧
        (keys.foldl (evictTurn settings now) progress).1.historyBuffers.length ≤
          progress.1.historyBuffers.length := by
  intro keys
  induction keys with
  | nil => exact fun progress => ⟨List.Subset.refl _, le_rfl⟩
  | cons key rest ih =>
    intro progress
    obtain ⟨hsub, hlength⟩ := ih (evictTurn settings now progress key)
    have hturn : Dict.keyList (evictTurn settings now progress key).1.historyBuffers ⊆
          Dict.keyList progress.1.historyBuffers ∧
        (evictTurn settings now progress key).1.historyBuffers.length ≤
          progress.1.historyBuffers.length := by
      unfold evictTurn
      split
      · exact ⟨fun other hother => (Dict.mem_keyList_popItem.mp hother).1,
          Dict.length_popItem_le _ _⟩
      · exact ⟨List.Subset.refl _, le_rfl⟩
    exact ⟨List.Subset.trans hsub hturn.1, hlength.trans hturn.2⟩

theorem evictTurns_bound (now : ℚ) : ∀ (keys : List ScopeKey) (progress : TelegramEventBus × ℕ),
      (keys.foldl (evictTurn settings now) progress).1.historyBuffers.length ≤
          settings.maxHistoryKeys ∨
        ∀ key ∈ keys, key ∉
          Dict.keyList (keys.foldl (evictTurn settings now) progress).1.historyBuffers := by
  intro keys
  induction keys with
  | nil => exact fun progress => Or.inr (by simp)
  | cons key rest ih =>
    intro progress
    obtain ⟨hsub, hlength⟩ := evictTurns_shrink now rest (evictTurn settings now progress key)
    by_cases hevicts : evicts settings now progress.1 key = true
    · have hturn : evictTurn settings now progress key =
          (forgetKey progress.1 key, progress.2 + 1) := if_pos hevicts
      refine (ih (evictTurn settings now progress key)).imp_right fun hrest other hother => ?_
      rcases List.mem_cons.mp hother with rfl | hother
      · intro hmem
        have hgone := hsub hmem
        rw [hturn] at hgone
        exact (Dict.mem_keyList_popItem.mp hgone).2 rfl
      · exact hrest other hother
    · have hturn : evictTurn settings now progress key = progress := if_neg hevicts
      have hfew : progress.1.historyBuffers.length ≤ settings.maxHistoryKeys := by
        simp only [evicts, Bool.or_eq_true, decide_eq_true_eq, not_or, not_lt] at hevicts
        exact hevicts.2
      left
      rw [hturn] at hlength
      rw [List.foldl_cons, hturn]
      exact hlength.trans hfew

theorem length_evict_le (hkept : WellKept settings bus) (now : ℚ) :
    (evictInactiveHistories settings now bus).1.historyBuffers.length ≤ max settings.maxHistoryKeys
        (liveKeys (evictInactiveHistories settings now bus).1).length := by
  have hafter := wellKept_evict hkept now
  have hsubscribers := @evict_subscribers settings now bus
  rcases @evictTurns_bound settings now (inactiveKeys bus) (bus, 0) with hfew | hgone
  · exact le_max_of_le_left hfew
  · apply le_max_of_le_right
    have hsub : Dict.keyList (evictInactiveHistories settings now bus).1.historyBuffers ⊆
        liveKeys (evictInactiveHistories settings now bus).1 := by
      intro key hkey
      rw [mem_liveKeys, TelegramEventBus.subscribersOf, hsubscribers]
      intro hsilent
      have hbefore := (evictTurns_shrink now (inactiveKeys bus) (bus, 0)).1 hkey
      exact hgone key (mem_inactiveKeys.mpr ⟨hbefore, hsilent⟩) hkey
    have hlength := hafter.distinct.length_le_of_subset hsub
    simpa [Dict.keyList] using hlength

/-- In every run, whatever the clock says: a publish leaves every buffer within its
size, and no more buffered keys than `max_history_keys` or, if those are more, the
keys with a subscriber; an eviction takes no buffer from such a key; and every key
with a time or a counter has a buffer. -/
theorem histories_bounded (settings : BusSettings) (steps : List BusStep) :
    (∀ now event includeLegacyScope,
      let after := publish settings now event includeLegacyScope
        (runSteps settings steps {})
      (∀ key, (after.historyOf key).length ≤ settings.bufferSize) ∧
        (Dict.keyList after.historyBuffers).Nodup ∧
        after.historyBuffers.length ≤
          max settings.maxHistoryKeys (liveKeys after).length) ∧
      (∀ now (bus : TelegramEventBus) key, bus.subscribersOf key ≠ [] →
        Dict.getItem (evictInactiveHistories settings now bus).1.historyBuffers key =
          Dict.getItem bus.historyBuffers key) ∧
      Dict.keyList (runSteps settings steps {}).historyLastPublished ⊆
        Dict.keyList (runSteps settings steps {}).historyBuffers ∧
      Dict.keyList (runSteps settings steps {}).historyEvictions ⊆
        Dict.keyList (runSteps settings steps {}).historyBuffers := by
  have hkept := wellKept_run settings steps
  refine ⟨?_, ?_, hkept.published, hkept.evictions⟩
  · intro now event includeLegacyScope
    have hafter := wellKept_publish hkept now event includeLegacyScope
    refine ⟨hafter.size, hafter.distinct, ?_⟩
    refine length_evict_le ?_ now
    exact List.foldlRecOn _ _ hkept fun progress hprogress key _ =>
      wellKept_publishKey hprogress now event key
  · intro now bus key hlive
    exact evict_keeps_subscribed now hlive

end SignPulse.HistoryBounds
