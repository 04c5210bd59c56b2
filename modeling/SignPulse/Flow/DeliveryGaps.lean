import SignPulse.Flow.LateSubscribers

/-!
# Delivery gaps

A new subscriber is told how many events the history of its key has lost since
the history was created.  It is not told which: the count goes back further than
its watermark.
-/

namespace SignPulse.DeliveryGaps

open Foundation
open FlowModels
open EventBus
open HistoryBounds
open LiveDelivery
open LateSubscribers

variable {settings : BusSettings}

/-! ## What the counter counts -/

def pushedOut (settings : BusSettings) (key : ScopeKey) (bus : TelegramEventBus) :
    BusStep → List BusEvent
  | .publish now event includeLegacyScope =>
    if key ∈ publishKeys event includeLegacyScope ∧
        repeats settings now (bus.historyOf key) event = false then
      (bus.historyOf key ++ [event]).take
        ((bus.historyOf key ++ [event]).length - settings.bufferSize)
    else []
  | _ => []

/-- The events that were pushed out of the history since it was created. -/
def lostAlong (settings : BusSettings) (key : ScopeKey) :
    List BusEvent → TelegramEventBus → List BusStep → List BusEvent
  | lost, _, [] => lost
  | lost, bus, step :: rest =>
    let after := takeStep settings bus step
    lostAlong settings key
      (if Dict.hasKey after.historyBuffers key then
        lost ++ pushedOut settings key bus step
      else [])
      after rest

def SameOrGone (key : ScopeKey) (before after : TelegramEventBus) : Prop :=
  SameHistory key before after ∨ key ∉ Dict.keyList after.historyBuffers

theorem forgetKey_sameOrGone {key : ScopeKey} {before after : TelegramEventBus}
    (hsame : SameOrGone key before after) (other : ScopeKey) :
    SameOrGone key before (forgetKey after other) := by
  by_cases hkey : key = other
  · right
    exact fun hmem => (Dict.mem_keyList_popItem.mp hmem).2 hkey
  · refine hsame.imp (fun hhistory => hhistory.trans (forgetKey_sameHistory hkey after)) ?_
    exact fun hgone hmem => hgone (Dict.mem_keyList_popItem.mp hmem).1

theorem evict_sameOrGone (now : ℚ) (bus : TelegramEventBus) (key : ScopeKey) :
    SameOrGone key bus (evictInactiveHistories settings now bus).1 :=
  evict_rule (SameOrGone key bus)
    (fun _ other _ _ hprogress => forgetKey_sameOrGone hprogress other) (Or.inl ⟨rfl, rfl, rfl⟩)

theorem clear_sameOrGone (chatId : Option ChatId) (bus : TelegramEventBus) (key : ScopeKey) :
    SameOrGone key bus (clear settings chatId bus) := by
  unfold clear
  split
  · exact Or.inr List.not_mem_nil
  · dsimp only
    refine List.foldlRecOn _ _ (Or.inl ⟨rfl, rfl, rfl⟩) ?_
    exact fun progress hprogress other _ => forgetKey_sameOrGone hprogress other

theorem evictionsOf_gone {bus : TelegramEventBus} (hkept : WellKept settings bus)
    {key : ScopeKey} (hgone : key ∉ Dict.keyList bus.historyBuffers) :
    bus.evictionsOf key = 0 := by
  unfold TelegramEventBus.evictionsOf
  cases hget : Dict.getItem bus.historyEvictions key with
  | none => rfl
  | some count => exact absurd (hkept.evictions (Dict.mem_keyList_of_getItem hget)) hgone

theorem stored_evictions (now : ℚ) (event : BusEvent) (includeLegacyScope : Bool)
    (bus : TelegramEventBus) (key : ScopeKey) :
    (stored settings now event includeLegacyScope bus).evictionsOf key = bus.evictionsOf key +
        (pushedOut settings key bus (.publish now event includeLegacyScope)).length := by
  simp only [stored, pushedOut]
  by_cases hkey : key ∈ publishKeys event includeLegacyScope
  · refine @publishKeys_rule settings (fun after => after.evictionsOf key = _) key now event
      (fun before after hsame hbefore => hsame.evictions.trans hbefore) _ bus
      (publishKeys_nodup event includeLegacyScope) hkey ?_
    intro before hsame
    rcases @publishKey_history settings now event before key with
      ⟨hrepeats, -, hevictions⟩ | ⟨hnew, -, hevictions⟩
    · rw [hsame.history] at hrepeats
      rw [hevictions, hsame.evictions, if_neg (by simp [hrepeats])]
      rfl
    · rw [hsame.history] at hnew hevictions
      rw [hevictions, hsame.evictions, if_pos ⟨hkey, hnew⟩, List.length_take]
      omega
  · rw [(publishKeys_sameHistory _ _ hkey).evictions, if_neg (fun hboth => hkey hboth.1)]
    rfl

theorem takeStep_evictions {bus : TelegramEventBus} (hkept : WellKept settings bus)
    (key : ScopeKey) (step : BusStep) :
    (takeStep settings bus step).evictionsOf key =
      if Dict.hasKey (takeStep settings bus step).historyBuffers key then
        bus.evictionsOf key + (pushedOut settings key bus step).length
      else 0 := by
  have hafter := wellKept_step hkept step
  have hcounts : key ∉ Dict.keyList (takeStep settings bus step).historyBuffers ∨
      (takeStep settings bus step).evictionsOf key =
        bus.evictionsOf key + (pushedOut settings key bus step).length := by
    cases step with
    | publish now event includeLegacyScope =>
      rw [← stored_evictions]
      exact (evict_sameOrGone now _ key).symm.imp_right SameHistory.evictions
    | subscribe now subscription =>
      exact Or.inr (SameHistory.ofSameMaps (subscribe_maps now subscription bus) key).evictions
    | unsubscribe chatId messageThreadId queue =>
      right
      simp only [takeStep, unsubscribe]
      split
      · rfl
      · rfl
    | read queue => exact Or.inr rfl
    | clear chatId =>
      exact (clear_sameOrGone chatId bus key).symm.imp_right SameHistory.evictions
    | evict now => exact (evict_sameOrGone now bus key).symm.imp_right SameHistory.evictions
  split
  · next hkey =>
    exact hcounts.resolve_left (not_not_intro ((Dict.hasKey_iff_mem_keyList _ _).mp hkey))
  · next hgone =>
    exact evictionsOf_gone hafter fun hmem =>
      hgone ((Dict.hasKey_iff_mem_keyList _ _).mpr hmem)

theorem lostAlong_counted {key : ScopeKey} :
    ∀ (steps : List BusStep) (lost : List BusEvent) (bus : TelegramEventBus),
      WellKept settings bus → bus.evictionsOf key = lost.length →
        (runSteps settings steps bus).evictionsOf key =
          (lostAlong settings key lost bus steps).length := by
  intro steps
  induction steps with
  | nil => exact fun lost bus _ hcount => hcount
  | cons step rest ih =>
    intro lost bus hkept hcount
    apply ih _ _ (wellKept_step hkept step)
    rw [takeStep_evictions hkept, hcount]
    split
    · rw [List.length_append]
    · rfl

/-! ## Which gaps are justified -/

/-- The event has not expired and lies above the watermark. -/
def withinReach (settings : BusSettings) (now : ℚ) (subscription : Subscription)
    (event : BusEvent) : Bool :=
  unexpired settings now event && subscription.aboveWatermark now event

theorem withinReach_of_replays {now : ℚ} {subscription : Subscription} {event : BusEvent}
    (hreplays : subscription.replays settings now event = true) :
    withinReach settings now subscription event = true := by
  simp only [Subscription.replays, Bool.and_eq_true] at hreplays
  rw [withinReach, hreplays.1.1.1, hreplays.2]
  rfl

/-- A gap that is reported to a new subscriber has cost it an event within its reach:
one that found no room in its queue, or one that was accepted on the key and is no
longer in the history. -/
def GapJustified (settings : BusSettings) (steps : List BusStep) (now : ℚ)
    (subscription : Subscription) : Prop :=
  let bus := runSteps settings steps {}
  deliveryGap ((subscribe settings now subscription bus).2.getDeliveryStats bus.nextQueue) = true →
    ∃ event, withinReach settings now subscription event = true ∧
      (event ∈ (replayed settings now subscription bus).drop settings.queueSize ∨
        event ∈ acceptedAlong settings (subscription.key settings) {} steps ∧
          event ∉ bus.historyOf (subscription.key settings))

/-- A reported gap is justified, but for the runs that pushed events out of the history
and cost the subscriber none within its reach. -/
theorem gap_justified_iff (settings : BusSettings) (steps : List BusStep) (now : ℚ)
    (subscription : Subscription) :
    GapJustified settings steps now subscription ↔
      lostAlong settings (subscription.key settings) [] {} steps = [] ∨ settings.queueSize <
          (replayed settings now subscription (runSteps settings steps {})).length ∨
        ∃ event ∈ acceptedAlong settings (subscription.key settings) {} steps,
          event ∉ (runSteps settings steps {}).historyOf (subscription.key settings) ∧
            withinReach settings now subscription event = true := by
  have hserved : Served settings now subscription (runSteps settings steps {}) :=
    subscribe_served (statsNumbered_run settings steps) now subscription
  have hcount : (runSteps settings steps {}).evictionsOf (subscription.key settings) =
      (lostAlong settings (subscription.key settings) [] {} steps).length :=
    lostAlong_counted steps [] {} (wellKept_empty settings) rfl
  simp only [GapJustified]
  rw [hserved.gap_iff, hcount, List.length_pos_iff]
  constructor
  · intro hjustified
    by_cases hlost : lostAlong settings (subscription.key settings) [] {} steps = []
    · exact Or.inl hlost
    · obtain ⟨event, hreach, hdropped | ⟨haccepted, hgone⟩⟩ := hjustified (Or.inr hlost)
      · have hpos := List.length_pos_of_mem hdropped
        rw [List.length_drop] at hpos
        exact Or.inr (Or.inl (by omega))
      · exact Or.inr (Or.inr ⟨event, haccepted, hgone, hreach⟩)
  · intro hcondition hgap
    have hcases : settings.queueSize <
          (replayed settings now subscription (runSteps settings steps {})).length ∨
        ∃ event ∈ acceptedAlong settings (subscription.key settings) {} steps,
          event ∉ (runSteps settings steps {}).historyOf (subscription.key settings) ∧
            withinReach settings now subscription event = true := by
      rcases hcondition with hnone | hcases
      · exact Or.inl (hgap.resolve_right (not_not_intro hnone))
      · exact hcases
    rcases hcases with hmany | ⟨event, haccepted, hgone, hreach⟩
    · obtain ⟨event, hevent⟩ := List.exists_mem_of_length_pos
        (show 0 < ((replayed settings now subscription (runSteps settings steps {})).drop
          settings.queueSize).length by rw [List.length_drop]; omega)
      have hreplayed := List.mem_of_mem_drop hevent
      exact ⟨event, withinReach_of_replays (List.mem_filter.mp hreplayed).2, Or.inl hevent⟩
    · exact ⟨event, hreach, Or.inr ⟨haccepted, hgone⟩⟩

def oneEvent : BusSettings where
  bufferSize := 1

def twoPublishes : List BusStep :=
  [.publish 4 (sampleMessage 1) false, .publish 5 (sampleMessage 2) false]

/-- Two messages that a subscriber knows make it report a gap, where the history takes
only one of them. -/
theorem known_messages_reported :
    ¬GapJustified oneEvent twoPublishes 6 { chatId := .number 1, minMessageId := some 2 } := by
  intro hjustified
  obtain ⟨event, hreach, hdropped | ⟨haccepted, -⟩⟩ := hjustified (by decide +kernel)
  · have hnone : (replayed oneEvent 6 { chatId := .number 1, minMessageId := some 2 }
        (runSteps oneEvent twoPublishes {})).drop oneEvent.queueSize = [] := by
      decide +kernel
    rw [hnone] at hdropped
    cases hdropped
  · have hknown : ∀ event ∈ acceptedAlong oneEvent (.number 1, none) {} twoPublishes,
        withinReach oneEvent 6 { chatId := .number 1, minMessageId := some 2 } event = false := by
      decide +kernel
    rw [hknown event haccepted] at hreach
    cases hreach

end SignPulse.DeliveryGaps
