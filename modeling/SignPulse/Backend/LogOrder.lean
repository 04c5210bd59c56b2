import SignPulse.Backend.LogDeliveries

/-!
# The order of the lines that subscribers receive

Runs in which the deliveries to every queue of an exact key are made in the order of the numbers,
and what such a queue has received at their end.
-/

namespace SignPulse.LogBroadcaster

open Foundation

namespace TaskLogBroadcaster

variable {broadcaster next : TaskLogBroadcaster}

theorem Numbered.frame (hnumbered : broadcaster.Numbered)
    (hhistory : next.history = broadcaster.history)
    (hcounters : next.seqCounters = broadcaster.seqCounters) : next.Numbered := by
  intro key
  rw [historyOf, hhistory, counterOf, hcounters]
  exact hnumbered key

theorem Numbered.clearStreamLocked (hnumbered : broadcaster.Numbered) (key : StreamKey) :
    (broadcaster.clearStreamLocked key).Numbered := by
  intro other
  rw [historyOf_clearStreamLocked]
  split
  · exact ⟨List.Pairwise.nil, nofun⟩
  · next hne =>
    rw [counterOf_clearStreamLocked (Ne.symm hne)]
    exact hnumbered other

end TaskLogBroadcaster

namespace System

/-- Every subscriber of an exact key is tracked. -/
structure Ordered (system : System) : Prop where
  registry : system.Registry
  numbered : system.broadcaster.Numbered
  tracked : ∀ queue record, system.records.getItem queue = some record → record.key.IsExact →
    queue ∈ system.broadcaster.subscribersOf record.key → system.Tracked queue record

theorem ordered_opened (maxQueueSize historySize maxStreams : ℕ) :
    (opened maxQueueSize historySize maxStreams).Ordered where
  registry := registry_opened maxQueueSize historySize maxStreams
  numbered _ := ⟨List.Pairwise.nil, nofun⟩
  tracked := nofun

section Steps

variable {system next last : System} {action : Action} {actions : List Action}

theorem numbered_step (hnumbered : system.broadcaster.Numbered) (hinOrder : InOrder system action)
    (hmoves : Moves system action next) : next.broadcaster.Numbered := by
  cases hmoves with
  | @publish loop key fields seq targets event hevent htargets =>
    obtain rfl := hinOrder.1
    rw [hevent]
    exact hnumbered.publish fields
  | subscribe => exact hnumbered.frame rfl rfl
  | snapshot =>
    rw [broadcaster_updateRecord]
    exact hnumbered
  | skip => exact hnumbered
  | start =>
    change (TaskLogBroadcaster.makeRoom _ _ _ _).Numbered
    unfold TaskLogBroadcaster.makeRoom
    split
    · exact hnumbered.frame rfl rfl
    · exact hnumbered
  | schedule => exact hnumbered
  | refuse => exact hnumbered
  | put =>
    rw [broadcaster_updateRecord]
    change (TaskLogBroadcaster.put _ _ _).Numbered
    unfold TaskLogBroadcaster.put
    split
    · exact hnumbered
    · exact hnumbered.frame rfl rfl
  | lose => exact hnumbered
  | callback => exact hnumbered
  | unsubscribe => exact hnumbered.frame rfl rfl
  | read =>
    rw [broadcaster_updateRecord]
    exact hnumbered.frame rfl rfl
  | clearStream => exact hnumbered.clearStreamLocked _

section

variable {index : ℕ} {call : Call} {delivery : Delivery} {queue : ℕ} {record : Record}

theorem Registry.key_of_label
    (hregistry : system.Registry) (hcall : system.calls[index]? = some call)
    (hlabel : delivery.label ∈ call.stage.labels) (hqueue : delivery.target.queue = queue)
    (hrecord : system.records.getItem queue = some record) : delivery.target.key = record.key := by
  have hmem : delivery.label ∈ system.inFlight :=
    List.mem_append_left _ (List.mem_flatMap.2 ⟨call, List.mem_of_getElem? hcall, hlabel⟩)
  obtain ⟨found, hfound, hkey⟩ := hregistry.labelled delivery.label hmem
  have hsame : system.records.getItem queue = some found := hqueue ▸ hfound
  rw [hrecord] at hsame
  rw [Option.some.inj hsame]
  exact hkey.symm

theorem Tracked.ne_of_gone (htracked : system.Tracked queue record) (hregistry : system.Registry)
    (hcall : system.calls[index]? = some call) (hlabel : delivery.label ∈ call.stage.labels)
    (hrecord : system.records.getItem queue = some record) (hexact : record.key.IsExact)
    (hgone : delivery.target.key.IsExact →
      system.broadcaster.countOf delivery.target.key delivery.target.queue = none) :
    delivery.target.queue ≠ queue := by
  intro hqueue
  have hkey := hregistry.key_of_label hcall hlabel hqueue hrecord
  obtain ⟨count, hcount, -⟩ := htracked.counted
  rw [← hkey, ← hqueue, hgone (hkey ▸ hexact)] at hcount
  contradiction

end

theorem tracked_step {queue : ℕ} {record : Record} (hordered : system.Ordered)
    (hinOrder : InOrder system action) (hmoves : Moves system action next)
    (hrecord : next.records.getItem queue = some record) (hexact : record.key.IsExact)
    (hqueue : queue ∈ next.broadcaster.subscribersOf record.key) : next.Tracked queue record := by
  obtain ⟨hregistry, hnumbered, htracked⟩ := hordered
  cases hmoves with
  | @publish loop key fields seq targets event hevent htargets =>
    obtain ⟨rfl, hclosed⟩ := hinOrder
    have hsame := TaskLogBroadcaster.sameSubscribers_publish system.broadcaster key event none
    have hsubscribers (other : StreamKey) :
        (system.broadcaster.publish key event none).subscribersOf other =
          system.broadcaster.subscribersOf other := by
      rw [TaskLogBroadcaster.subscribersOf, hsame.subscribers, TaskLogBroadcaster.subscribersOf]
    rw [hsubscribers] at hqueue
    rw [hsame.matchedTargets] at htargets
    have hbefore := htracked queue record hrecord hexact hqueue
    by_cases hkey : record.key = key
    · subst hkey
      exact hbefore.publish_self hregistry hrecord hexact hqueue hevent (hclosed hexact) htargets
    · exact hbefore.publish_of_ne hregistry hrecord hexact hqueue hkey htargets
  | @subscribe loop afterSeq key other hnew =>
    by_cases heq : queue = other
    · subst heq
      rw [Dict.getItem_setItem_self] at hrecord
      cases hrecord
      exact tracked_subscribe hregistry hnew
    · rw [Dict.getItem_setItem_of_ne _ _ heq] at hrecord
      refine (htracked queue record hrecord hexact ?_).subscribe heq
      rw [TaskLogBroadcaster.subscribersOf_register] at hqueue
      split at hqueue
      · next hkey =>
        rcases List.mem_append.1 hqueue with hold | hown
        · exact hkey ▸ hold
        · exact absurd (List.mem_singleton.1 hown) heq
      · exact hqueue
  | @snapshot index call key other afterSeq hcall hstage =>
    rw [broadcaster_updateRecord] at hqueue
    rw [getItem_updateRecord] at hrecord
    split at hrecord
    · next heq =>
      subst heq
      obtain ⟨before, hbefore, rfl⟩ := Option.map_eq_some_iff.1 hrecord
      obtain ⟨found, hfound, rfl⟩ := hregistry.opening (key, queue)
        (List.mem_filterMap.2 ⟨call, List.mem_of_getElem? hcall, by rw [hstage]; rfl⟩)
      obtain rfl := Option.some.inj (hbefore.symm.trans hfound)
      exact ((htracked queue before hbefore hexact hqueue).snapshot_self hregistry hnumbered
        hcall hstage).updateRecord
    · next hne =>
      exact ((htracked queue record hrecord hexact hqueue).snapshot_of_ne hcall hstage
        (Ne.symm hne)).updateRecord
  | @skip index call delivery rest hcall hstage hgone =>
    have hbefore := htracked queue record hrecord hexact hqueue
    have hlabel : delivery.label ∈ call.stage.labels := by
      rw [hstage]
      exact List.mem_cons_self
    exact hbefore.advance hcall (.inl hstage)
      (hbefore.ne_of_gone hregistry hcall hlabel hrecord hexact fun _ => hgone)
  | @start index call delivery rest count hcall hstage hdirect hcount =>
    change queue ∈ (TaskLogBroadcaster.makeRoom _ _ _ _).subscribersOf _ at hqueue
    rw [TaskLogBroadcaster.subscribersOf_makeRoom] at hqueue
    have hlabel : delivery.label ∈ call.stage.labels := by
      rw [hstage]
      exact List.mem_cons_self
    have hkey (hsame : delivery.target.queue = queue) : delivery.target.key = record.key :=
      hregistry.key_of_label hcall hlabel hsame hrecord
    refine (htracked queue record hrecord hexact hqueue).start hregistry hcall hstage hcount hkey ?_
    intro hsame
    have hmin := hinOrder call delivery rest hcall hstage hdirect (hkey hsame ▸ hexact)
      (by rw [hcount]; exact Option.some_ne_none count)
    exact hsame ▸ hmin
  | schedule hcall hstage =>
    exact (htracked queue record hrecord hexact hqueue).schedule hcall hstage
  | @refuse index call delivery rest hcall hstage =>
    have hbefore := htracked queue record hrecord hexact hqueue
    have hlabel : delivery.label ∈ call.stage.labels := by
      rw [hstage]
      exact List.mem_cons_self
    exact hbefore.advance hcall (.inl hstage) (hbefore.ne_of_gone hregistry hcall hlabel hrecord
      hexact (hinOrder call delivery rest hcall hstage))
  | @put index call delivery rest hcall hstage hroom =>
    rw [broadcaster_updateRecord] at hqueue
    have hkept : (system.broadcaster.put delivery.target.queue delivery.event).subscribers =
        system.broadcaster.subscribers := by
      unfold TaskLogBroadcaster.put
      split <;> rfl
    change queue ∈ (TaskLogBroadcaster.put _ _ _).subscribersOf _ at hqueue
    rw [TaskLogBroadcaster.subscribersOf, hkept, ← TaskLogBroadcaster.subscribersOf] at hqueue
    rw [getItem_updateRecord] at hrecord
    split at hrecord
    · next heq =>
      subst heq
      obtain ⟨before, hbefore, rfl⟩ := Option.map_eq_some_iff.1 hrecord
      exact ((htracked _ before hbefore hexact hqueue).put_self hcall hstage hroom).updateRecord
    · next hne =>
      exact ((htracked queue record hrecord hexact hqueue).put_of_ne hcall hstage hroom
        (Ne.symm hne)).updateRecord
  | @lose index call delivery rest hcall hstage hfull =>
    have hbefore := htracked queue record hrecord hexact hqueue
    refine hbefore.advance hcall (.inr hstage) fun hsame => ?_
    obtain ⟨-, hroom⟩ := hbefore.between call (List.mem_of_getElem? hcall) delivery rest hstage
      hsame
    rw [hsame, hroom] at hfull
    contradiction
  | callback hready => exact (htracked queue record hrecord hexact hqueue).callback hready
  | @unsubscribe key other =>
    refine (htracked queue record hrecord hexact ?_).unsubscribe hqueue
    rw [TaskLogBroadcaster.subscribersOf_unsubscribe] at hqueue
    split at hqueue
    · next hkey => exact hkey ▸ (List.mem_filter.1 hqueue).1
    · exact hqueue
  | @read other event rest hwaiting =>
    rw [broadcaster_updateRecord] at hqueue
    rw [getItem_updateRecord] at hrecord
    split at hrecord
    · next heq =>
      subst heq
      obtain ⟨before, hbefore, rfl⟩ := Option.map_eq_some_iff.1 hrecord
      have hread := (htracked queue before hbefore hexact hqueue).read hwaiting
      rw [if_pos rfl] at hread
      exact hread.updateRecord
    · next hne =>
      have hread := (htracked queue record hrecord hexact hqueue).read hwaiting
      rw [if_neg hne] at hread
      exact hread.updateRecord
  | @clearStream key =>
    have hne : record.key ≠ key := by
      rintro rfl
      have hnone : system.broadcaster.subscribersOf record.key = [] := hinOrder
      change queue ∈ system.broadcaster.subscribersOf record.key at hqueue
      rw [hnone] at hqueue
      exact absurd hqueue List.not_mem_nil
    refine (htracked queue record hrecord hexact hqueue).frame rfl ?_ (.refl _) ?_ rfl rfl rfl id
    · exact TaskLogBroadcaster.counterOf_clearStreamLocked (Ne.symm hne)
    · exact fun call hcall delivery rest hstage _ => ⟨call, hcall, hstage⟩

theorem Ordered.step (hordered : system.Ordered) (hinOrder : InOrder system action)
    (hmoves : Moves system action next) : next.Ordered where
  registry := hordered.registry.step hmoves
  numbered := numbered_step hordered.numbered hinOrder hmoves
  tracked _ _ hrecord hexact hqueue := tracked_step hordered hinOrder hmoves hrecord hexact hqueue

theorem Ordered.run (hordered : system.Ordered)
    (hrun : StepRun System.step InOrder system actions last) : last.Ordered :=
  hrun.invariant Ordered
    (fun _ _ _ hstate hinOrder hstep => hstate.step hinOrder (moves_of_step hstep)) hordered

end Steps

/-- In a run in order, a subscriber of an exact key has received lines of its snapshot and later
ones in the order of their numbers, and what it has missed is on its way or has been counted. -/
theorem received_of_run {sizes : ℕ × ℕ × ℕ} {actions : List Action} {last : System}
    (hrun : StepRun System.step InOrder (opened sizes.1 sizes.2.1 sizes.2.2) actions last)
    {queue : ℕ} {record : Record} (hrecord : last.records.getItem queue = some record)
    (hexact : record.key.IsExact)
    (hqueue : queue ∈ last.broadcaster.subscribersOf record.key) :
    (last.received queue record).Pairwise (· < ·) ∧
      (last.received queue record).Sublist (last.expected record) ∧
      ∃ way, way.Perm (last.onTheWay queue) ∧
        (last.expected record).length = (last.received queue record).length +
          last.broadcaster.getDroppedCount record.key queue + way.length ∧
        (last.broadcaster.getDroppedCount record.key queue = 0 →
          last.expected record = last.received queue record ++ way) := by
  have htracked := ((ordered_opened sizes.1 sizes.2.1 sizes.2.2).run hrun).tracked queue record
    hrecord hexact hqueue
  obtain ⟨way, hsplit, hperm⟩ := htracked.split
  obtain ⟨count, hcount, hlength⟩ := htracked.counted
  have hdropped : last.broadcaster.getDroppedCount record.key queue = count := by
    rw [TaskLogBroadcaster.getDroppedCount, hcount, Option.getD_some]
  have hsublist : (last.received queue record).Sublist (last.expected record) := by
    rw [hsplit]
    exact htracked.kept.trans (List.sublist_append_left _ _)
  refine ⟨htracked.increasing.sublist hsublist, hsublist, way, hperm, ?_, fun hnone => ?_⟩
  · rw [hsplit, List.length_append, hlength, hdropped]
  · rw [hdropped] at hnone
    rw [hnone] at hlength
    rw [hsplit, htracked.kept.eq_of_length hlength.symm]

/-- A line for one subscriber of its key. -/
def lineTo (loop : Option ℕ) : Action :=
  .publish none runKey [] none [⟨runKey, 0, loop⟩]

def directLine : List Action :=
  [.subscribe none runKey 0 none, lineTo none, .deliver 0, .put 0]

theorem received_of_directLine :
    ((stateAfter System.step (opened 1 1 1) directLine).received 0
      { key := runKey, since := 0, delivered := [1] }).Pairwise (· < ·) := by
  have hpublish : InOrder (stateAfter System.step (opened 1 1 1) (directLine.take 1))
      (lineTo none) := ⟨rfl, fun _ => nofun⟩
  have hdeliver : InOrder (stateAfter System.step (opened 1 1 1) (directLine.take 2))
      (.deliver 0) := by
    intro call delivery rest hcall hstage _ _ _ number hnumber
    cases hcall
    obtain ⟨rfl, rfl⟩ := List.cons.inj (Stage.delivering.inj hstage)
    obtain rfl := List.mem_singleton.1 hnumber
    exact le_rfl
  have hrun : StepRun System.step InOrder (opened 1 1 1) directLine
      (stateAfter System.step (opened 1 1 1) directLine) :=
    .act trivial rfl (.act hpublish rfl (.act hdeliver rfl (.act trivial rfl (.done _))))
  have hreceived := @received_of_run (1, 1, 1) directLine _ hrun 0
    { key := runKey, since := 0, delivered := [1] } rfl (by decide) (by decide)
  exact hreceived.1

/-- Two threads give their lines to the loop of a subscriber in the other order. -/
def crossedLines : List Action :=
  [.subscribe (some 0) runKey 0 none, lineTo (some 0), lineTo (some 0), .deliver 1, .deliver 0,
    .callback 0, .deliver 2, .put 2, .callback 0, .deliver 3, .put 3]

theorem received_crossed :
    ¬ ∀ (sizes : ℕ × ℕ × ℕ) (actions : List Action) (last : System) (queue : ℕ) (record : Record),
      StepRun System.step (fun _ action => Unnumbered action)
        (opened sizes.1 sizes.2.1 sizes.2.2) actions last →
      last.records.getItem queue = some record → record.key.IsExact →
      queue ∈ last.broadcaster.subscribersOf record.key →
      (last.received queue record).Pairwise (· < ·) := by
  intro hclaim
  have hrun : StepRun System.step (fun _ action => Unnumbered action) (opened 10 10 10)
      crossedLines (stateAfter System.step (opened 10 10 10) crossedLines) := by
    refine .act trivial rfl (.act rfl rfl (.act rfl rfl ?_))
    iterate 8 refine .act trivial rfl ?_
    exact .done _
  have hreceived := hclaim (10, 10, 10) crossedLines _ 0
    { key := runKey, since := 0, delivered := [2, 1] } hrun rfl (by decide) (by decide)
  revert hreceived
  decide

end System

end SignPulse.LogBroadcaster
