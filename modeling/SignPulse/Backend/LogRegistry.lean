import SignPulse.Backend.LogNumbers

/-!
# The subscribers of the broadcaster

Which queues are subscribed to a key and counted there, what the operations of the broadcaster do
to them, and what the events on their way name.
-/

namespace SignPulse.LogBroadcaster

open Foundation

namespace TaskLogBroadcaster

section Broadcasters

variable {broadcaster : TaskLogBroadcaster} {key other : StreamKey} {queue found count : ℕ}
variable {event : LogEvent} {seq : Option ℤ} {loop : Option ℕ}

/-! ## Subscribing -/

section

variable (broadcaster : TaskLogBroadcaster)

theorem subscribersOf_register (key other : StreamKey)
    (queue : ℕ) (loop : Option ℕ) : (broadcaster.register key queue loop).subscribersOf other =
      if other = key then broadcaster.subscribersOf key ++ [queue]
      else broadcaster.subscribersOf other := by
  by_cases heq : other = key
  · rw [if_pos heq, heq, subscribersOf, register.eq_def, Dict.getItem_setItem_self, Option.getD_some]
  · rw [if_neg heq, subscribersOf, register.eq_def, Dict.getItem_setItem_of_ne _ _ heq, subscribersOf]

theorem countOf_register (key other : StreamKey) (queue found : ℕ) (loop : Option ℕ) :
    (broadcaster.register key queue loop).countOf other found =
      if other = key ∧ found = queue then some 0 else broadcaster.countOf other found := by
  unfold countOf register
  by_cases hkey : other = key
  · subst hkey
    rw [Dict.getItem_setItem_self, Option.bind_some]
    by_cases hqueue : found = queue
    · rw [hqueue, Dict.getItem_setItem_self, if_pos ⟨rfl, rfl⟩]
    · rw [Dict.getItem_setItem_of_ne _ _ hqueue, if_neg fun hboth => hqueue hboth.2]
      cases broadcaster.droppedCounts.getItem other <;> rfl
  · rw [Dict.getItem_setItem_of_ne _ _ hkey, if_neg fun hboth => hkey hboth.1]

theorem waiting_register (key : StreamKey) (queue found : ℕ)
    (loop : Option ℕ) : (broadcaster.register key queue loop).waiting found =
      if found = queue then [] else broadcaster.waiting found := by
  by_cases heq : found = queue
  · rw [if_pos heq, heq, waiting, register.eq_def, Dict.getItem_setItem_self, Option.getD_some]
  · rw [if_neg heq, waiting, register.eq_def, Dict.getItem_setItem_of_ne _ _ heq, waiting]

end

/-! ## Unsubscribing -/

theorem subscribersOf_unsubscribe (broadcaster : TaskLogBroadcaster) (key other : StreamKey)
    (queue : ℕ) : (broadcaster.unsubscribe key queue).subscribersOf other =
      if other = key then (broadcaster.subscribersOf key).filter (· ≠ queue)
      else broadcaster.subscribersOf other := by
  rw [subscribersOf, unsubscribe]
  by_cases hkey : other = key
  · subst hkey
    rw [if_pos rfl]
    split
    · next hnone => rw [Dict.getItem_popItem_self, hnone]; rfl
    · rw [Dict.getItem_setItem_self]; rfl
  · rw [if_neg hkey]
    split
    · rw [Dict.getItem_popItem_of_ne _ hkey]; rfl
    · rw [Dict.getItem_setItem_of_ne _ _ hkey]; rfl

theorem countOf_unsubscribe (broadcaster : TaskLogBroadcaster) (key other : StreamKey)
    (queue found : ℕ) : (broadcaster.unsubscribe key queue).countOf other found =
      if other = key ∧ found = queue then none else broadcaster.countOf other found := by
  have hcounts : ((((broadcaster.droppedCounts.getItem key).getD []).popItem queue).getItem found) =
      if found = queue then none else broadcaster.countOf key found := by
    split
    · next heq => rw [heq, Dict.getItem_popItem_self]
    · next hne =>
      rw [Dict.getItem_popItem_of_ne _ hne, countOf]
      cases broadcaster.droppedCounts.getItem key <;> rfl
  rw [countOf, unsubscribe]
  by_cases hkey : other = key
  · subst hkey
    dsimp only
    have hqueue : (if other = other ∧ found = queue then none else broadcaster.countOf other found) =
        if found = queue then none else broadcaster.countOf other found :=
      if_congr (and_iff_right rfl) rfl rfl
    rw [hqueue, ← hcounts]
    split
    · next hnone =>
      rw [Dict.getItem_popItem_self, List.length_eq_zero_iff.1 hnone]
      rfl
    · rw [Dict.getItem_setItem_self]
      rfl
  · refine Eq.trans ?_ (if_neg fun hboth => hkey hboth.1).symm
    dsimp only
    split
    · rw [Dict.getItem_popItem_of_ne _ hkey]; rfl
    · rw [Dict.getItem_setItem_of_ne _ _ hkey]; rfl

/-! ## Delivering -/

theorem subscribersOf_makeRoom : (broadcaster.makeRoom key queue count).subscribersOf other =
    broadcaster.subscribersOf other := by
  unfold makeRoom
  split <;> rfl

theorem counterOf_makeRoom : (broadcaster.makeRoom key queue count).counterOf other =
    broadcaster.counterOf other := by
  unfold makeRoom
  split <;> rfl

theorem countOf_makeRoom (hcount : broadcaster.countOf key queue = some count) :
    (broadcaster.makeRoom key queue count).countOf other found = if other = key ∧ found = queue then
        some (if broadcaster.isFull queue then count + 1 else count)
      else broadcaster.countOf other found := by
  unfold makeRoom
  by_cases hfull : broadcaster.isFull queue = true
  · rw [if_pos hfull, if_pos hfull, countOf]
    by_cases hkey : other = key
    · subst hkey
      rw [Dict.getItem_setItem_self, Option.bind_some]
      by_cases hqueue : found = queue
      · rw [hqueue, Dict.getItem_setItem_self, if_pos ⟨rfl, rfl⟩]
      · rw [Dict.getItem_setItem_of_ne _ _ hqueue, if_neg fun hboth => hqueue hboth.2, countOf]
        cases broadcaster.droppedCounts.getItem other <;> rfl
    · rw [Dict.getItem_setItem_of_ne _ _ hkey, if_neg fun hboth => hkey hboth.1, countOf]
  · rw [if_neg hfull, if_neg hfull]
    split
    · next hboth => rw [hboth.1, hboth.2, hcount]
    · rfl

theorem waiting_makeRoom : (broadcaster.makeRoom key queue count).waiting found =
    if found = queue ∧ broadcaster.isFull queue = true then (broadcaster.waiting queue).tail
    else broadcaster.waiting found := by
  unfold makeRoom
  by_cases hfull : broadcaster.isFull queue = true
  · rw [if_pos hfull, waiting]
    by_cases hqueue : found = queue
    · rw [hqueue, Dict.getItem_setItem_self, if_pos ⟨rfl, hfull⟩, Option.getD_some]
    · rw [Dict.getItem_setItem_of_ne _ _ hqueue, if_neg fun hboth => hqueue hboth.1, waiting]
  · rw [if_neg hfull, if_neg fun hboth => hfull hboth.2]

theorem waiting_put (hroom : broadcaster.isFull queue = false) :
    (broadcaster.put queue event).waiting found =
      if found = queue then broadcaster.waiting queue ++ [event] else broadcaster.waiting found := by
  rw [put, if_neg (Bool.eq_false_iff.1 hroom), waiting]
  split
  · next heq => rw [heq, Dict.getItem_setItem_self, Option.getD_some]
  · next hne => rw [Dict.getItem_setItem_of_ne _ _ hne, waiting]

theorem maxQueueSize_makeRoom :
    (broadcaster.makeRoom key queue count).maxQueueSize = broadcaster.maxQueueSize := by
  unfold makeRoom
  split <;> rfl

theorem maxQueueSize_put :
    (broadcaster.put queue event).maxQueueSize = broadcaster.maxQueueSize := by
  unfold put
  split <;> rfl

theorem isFull_makeRoom (hsize : (broadcaster.waiting queue).length ≤ broadcaster.maxQueueSize ∨
    broadcaster.maxQueueSize = 0) :
    (broadcaster.makeRoom key queue count).isFull queue = false := by
  rw [isFull, maxQueueSize_makeRoom, waiting_makeRoom]
  by_cases hfull : broadcaster.isFull queue = true
  · rw [if_pos ⟨rfl, hfull⟩, List.length_tail]
    simp only [isFull, Bool.and_eq_true, decide_eq_true_eq] at hfull
    simp only [Bool.and_eq_false_iff, decide_eq_false_iff_not]
    omega
  · rw [if_neg fun hboth => hfull hboth.2]
    exact Bool.eq_false_iff.2 hfull

/-! ## Publishing -/

/-- Neither the subscribers nor their queues change. -/
structure SameSubscribers (broadcaster next : TaskLogBroadcaster) : Prop where
  subscribers : next.subscribers = broadcaster.subscribers
  droppedCounts : next.droppedCounts = broadcaster.droppedCounts
  queueLoops : next.queueLoops = broadcaster.queueLoops
  queues : next.queues = broadcaster.queues
  maxQueueSize : next.maxQueueSize = broadcaster.maxQueueSize

theorem sameSubscribers_publish (broadcaster : TaskLogBroadcaster) (key : StreamKey)
    (event : LogEvent) (seq : Option ℤ) :
    SameSubscribers broadcaster (broadcaster.publish key event seq) := by
  unfold publish store makeStreamRoom
  cases (broadcaster.assignNumber key seq).evictedFor key with
  | none =>
    dsimp only
    split <;> exact ⟨rfl, rfl, rfl, rfl, rfl⟩
  | some old =>
    dsimp only
    split <;> exact ⟨rfl, rfl, rfl, rfl, rfl⟩

theorem SameSubscribers.matchedTargets {next : TaskLogBroadcaster}
    (hsame : SameSubscribers broadcaster next) :
    next.matchedTargets key = broadcaster.matchedTargets key := by
  have htargets (other : StreamKey) : next.targetsOf other = broadcaster.targetsOf other := by
    rw [targetsOf, subscribersOf, hsame.subscribers, hsame.queueLoops, targetsOf, subscribersOf]
  rw [TaskLogBroadcaster.matchedTargets, TaskLogBroadcaster.matchedTargets, htargets, htargets,
    htargets]

theorem evictedFor_ne (hqueue : queue ∈ broadcaster.subscribersOf other) :
    broadcaster.evictedFor key ≠ some other := by
  intro hevicted
  unfold evictedFor at hevicted
  split at hevicted
  · have hempty := List.find?_some hevicted
    rw [List.isEmpty_iff] at hempty
    rw [hempty] at hqueue
    exact absurd hqueue List.not_mem_nil
  · contradiction

end Broadcasters

end TaskLogBroadcaster

/-! ## What is on its way -/

def Delivery.label (delivery : Delivery) : StreamKey × ℕ × ℤ :=
  (delivery.target.key, delivery.target.queue, delivery.event.seq)

def Stage.labels : Stage → List (StreamKey × ℕ × ℤ)
  | .opening .. => []
  | .delivering deliveries => deliveries.map Delivery.label
  | .between first rest => first.label :: rest.map Delivery.label

/-- The queue that a call is about to replay the history to. -/
def Stage.opens : Stage → Option (StreamKey × ℕ)
  | .opening key queue _ => some (key, queue)
  | _ => none

namespace System

def inFlight (system : System) : List (StreamKey × ℕ × ℤ) :=
  system.calls.flatMap (·.stage.labels) ++ system.ready.map fun callback => callback.2.label

def openings (system : System) : List (StreamKey × ℕ) :=
  system.calls.filterMap (·.stage.opens)

section Calls

variable {system next : System} {index : ℕ} {call : Call} {stage : Stage}

section

variable (hcall : system.calls[index]? = some call)

include hcall

theorem exists_split : ∃ before after, system.calls = before ++ call :: after ∧
      ∀ stage, (system.setCall index call stage).calls =
        before ++ { call with stage := stage } :: after := by
  obtain ⟨hindex, hget⟩ := List.getElem?_eq_some_iff.1 hcall
  refine ⟨system.calls.take index, system.calls.drop (index + 1), ?_, fun stage => ?_⟩
  · rw [← hget, List.getElem_cons_drop, List.take_append_drop]
  · exact List.set_eq_take_append_cons_drop.trans (if_pos hindex)

theorem exists_others : ∃ others, system.inFlight.Perm (call.stage.labels ++ others) ∧
      ∀ stage, (system.setCall index call stage).inFlight.Perm (stage.labels ++ others) := by
  obtain ⟨before, after, hcalls, hset⟩ := exists_split hcall
  refine ⟨before.flatMap (·.stage.labels) ++ after.flatMap (·.stage.labels) ++
    system.ready.map fun callback => callback.2.label, ?_, fun stage => ?_⟩
  · rw [inFlight, hcalls, List.flatMap_append, List.flatMap_cons]
    simp only [List.append_assoc]
    exact List.perm_append_comm_assoc _ _ _
  · rw [inFlight, hset, List.flatMap_append, List.flatMap_cons]
    simp only [List.append_assoc]
    exact List.perm_append_comm_assoc _ _ _

theorem openings_setCall (hopens : stage.opens = call.stage.opens) :
    (system.setCall index call stage).openings = system.openings := by
  obtain ⟨before, after, hcalls, hset⟩ := exists_split hcall
  rw [openings, openings, hset, hcalls, List.filterMap_append, List.filterMap_append,
    List.filterMap_cons, List.filterMap_cons, hopens]

end

theorem openings_snapshot {opening : StreamKey × ℕ} (hcall : system.calls[index]? = some call)
    (hopens : call.stage.opens = some opening) (hdone : stage.opens = none) :
    ∃ before after, system.openings = before ++ opening :: after ∧
      (system.setCall index call stage).openings = before ++ after := by
  obtain ⟨before, after, hcalls, hset⟩ := exists_split hcall
  refine ⟨before.filterMap (·.stage.opens), after.filterMap (·.stage.opens), ?_, ?_⟩
  · rw [openings, hcalls, List.filterMap_append, List.filterMap_cons, hopens]
  · rw [openings, hset, List.filterMap_append, List.filterMap_cons, hdone]

section

variable (system : System) (queue : ℕ) (change : Record → Record)

theorem calls_updateRecord : (system.updateRecord queue change).calls = system.calls := by
  unfold updateRecord
  split <;> rfl

theorem inFlight_updateRecord : (system.updateRecord queue change).inFlight = system.inFlight := by
  unfold updateRecord
  split <;> rfl

theorem openings_updateRecord : (system.updateRecord queue change).openings = system.openings := by
  unfold updateRecord
  split <;> rfl

end

theorem getItem_updateRecord (system : System) (queue found : ℕ) (change : Record → Record) :
    (system.updateRecord queue change).records.getItem found =
      if found = queue then (system.records.getItem queue).map change
      else system.records.getItem found := by
  unfold updateRecord
  cases hrecord : system.records.getItem queue with
  | none =>
    dsimp only
    split
    · next heq => rw [heq, hrecord]; rfl
    · rfl
  | some record =>
    dsimp only
    split
    · next heq => rw [heq, Dict.getItem_setItem_self]; rfl
    · next hne => rw [Dict.getItem_setItem_of_ne _ _ hne]

end Calls

/-! ## The registry -/

/-- Queues are counted where they are subscribed, each under the key of its record, and everything
on its way names a recorded queue. -/
structure Registry (system : System) : Prop where
  counted : ∀ key queue, queue ∈ system.broadcaster.subscribersOf key ↔
      ∃ count, system.broadcaster.countOf key queue = some count
  distinct : ∀ key, (system.broadcaster.subscribersOf key).Nodup
  recorded : ∀ key, ∀ queue ∈ system.broadcaster.subscribersOf key,
    ∃ record, system.records.getItem queue = some record ∧ record.key = key
  labelled : ∀ label ∈ system.inFlight,
    ∃ record, system.records.getItem label.2.1 = some record ∧ record.key = label.1
  opening : ∀ opening ∈ system.openings,
    ∃ record, system.records.getItem opening.2 = some record ∧ record.key = opening.1
  openings : (system.openings.map (·.2)).Nodup
  since : ∀ queue record, system.records.getItem queue = some record →
    record.since ≤ system.published.length
  fits : ∀ queue, (system.broadcaster.waiting queue).length ≤ system.broadcaster.maxQueueSize ∨
    system.broadcaster.maxQueueSize = 0

theorem registry_opened (maxQueueSize historySize maxStreams : ℕ) :
    (opened maxQueueSize historySize maxStreams).Registry where
  counted _ _ := ⟨nofun, nofun⟩
  distinct _ := List.nodup_nil
  recorded _ := nofun
  labelled := nofun
  opening := nofun
  openings := List.nodup_nil
  since := nofun
  fits _ := .inl (Nat.zero_le _)

section Steps

variable {system next : System} {action : Action} {key : StreamKey} {queue : ℕ}

/-- The records of the same queues are kept, with their keys and their beginnings. -/
structure SameRecords (system next : System) : Prop where
  forth : ∀ queue record, system.records.getItem queue = some record →
    ∃ found, next.records.getItem queue = some found ∧ found.key = record.key
  back : ∀ queue found, next.records.getItem queue = some found →
    ∃ record, system.records.getItem queue = some record ∧ found.since = record.since

theorem SameRecords.refl (hrecords : next.records = system.records) : SameRecords system next where
  forth queue record hrecord := ⟨record, by rw [hrecords, hrecord], rfl⟩
  back queue found hfound := ⟨found, by rw [← hrecords, hfound], rfl⟩

theorem sameRecords_updateRecord {middle : System} {change : Record → Record}
    (hsame : middle.records = system.records) (hkey : ∀ record, (change record).key = record.key)
    (hsince : ∀ record, (change record).since = record.since) :
    SameRecords system (middle.updateRecord queue change) where
  forth found record hrecord := by
    rw [getItem_updateRecord, hsame]
    split
    · next heq =>
      subst heq
      exact ⟨change record, by rw [hrecord]; rfl, hkey record⟩
    · exact ⟨record, hrecord, rfl⟩
  back other found hfound := by
    rw [getItem_updateRecord, hsame] at hfound
    split at hfound
    · next heq =>
      obtain ⟨record, hrecord, rfl⟩ := Option.map_eq_some_iff.1 hfound
      exact ⟨record, heq ▸ hrecord, hsince record⟩
    · exact ⟨found, hfound, rfl⟩

/-- What leaves the subscribers alone keeps the registry, if what comes on its way is known. -/
theorem Registry.frame (hregistry : system.Registry)
    (hsubscribers : next.broadcaster.subscribers = system.broadcaster.subscribers)
    (hcounts : ∀ key queue, (∃ count, next.broadcaster.countOf key queue = some count) ↔
      ∃ count, system.broadcaster.countOf key queue = some count)
    (hrecords : SameRecords system next)
    (hlabels : ∀ label ∈ next.inFlight, label ∈ system.inFlight ∨
      ∃ record, system.records.getItem label.2.1 = some record ∧ record.key = label.1)
    (hopenings : next.openings.Sublist system.openings)
    (hpublished : system.published.length ≤ next.published.length)
    (hfits : ∀ queue, (next.broadcaster.waiting queue).length ≤ next.broadcaster.maxQueueSize ∨
        next.broadcaster.maxQueueSize = 0) : next.Registry := by
  have hsame (key : StreamKey) :
      next.broadcaster.subscribersOf key = system.broadcaster.subscribersOf key := by
    rw [TaskLogBroadcaster.subscribersOf, hsubscribers]
    rfl
  have hrecorded {queue : ℕ} {key : StreamKey}
      (hrecord : ∃ record, system.records.getItem queue = some record ∧ record.key = key) :
      ∃ record, next.records.getItem queue = some record ∧ record.key = key := by
    obtain ⟨record, hget, hkey⟩ := hrecord
    obtain ⟨found, hfound, hfoundKey⟩ := hrecords.forth queue record hget
    exact ⟨found, hfound, hfoundKey.trans hkey⟩
  exact
    { counted := fun key queue => by rw [hsame, hregistry.counted, hcounts]
      distinct := fun key => by rw [hsame]; exact hregistry.distinct key
      recorded := fun key queue hqueue => by
        rw [hsame] at hqueue
        exact hrecorded (hregistry.recorded key queue hqueue)
      labelled := fun label hlabel => by
        rcases hlabels label hlabel with hold | hnew
        · exact hrecorded (hregistry.labelled label hold)
        · exact hrecorded hnew
      opening := fun opening hopening =>
        hrecorded (hregistry.opening opening (hopenings.subset hopening))
      openings := hregistry.openings.sublist (hopenings.map _)
      since := fun queue found hfound => by
        obtain ⟨record, hrecord, hsince⟩ := hrecords.back queue found hfound
        rw [hsince]
        exact (hregistry.since queue record hrecord).trans hpublished
      fits := hfits }

theorem mem_targetsOf {broadcaster : TaskLogBroadcaster} {target : Target}
    (htarget : target ∈ broadcaster.targetsOf key) :
    target.key = key ∧ target.queue ∈ broadcaster.subscribersOf key := by
  obtain ⟨queue, hqueue, rfl⟩ := List.mem_map.1 htarget
  exact ⟨rfl, hqueue⟩

theorem mem_matchedTargets {broadcaster : TaskLogBroadcaster} {target : Target}
    (htarget : target ∈ broadcaster.matchedTargets key) :
    target.queue ∈ broadcaster.subscribersOf target.key := by
  rcases List.mem_append.1 htarget with hown | hwild
  · obtain ⟨hkey, hqueue⟩ := mem_targetsOf hown
    rwa [hkey]
  · split at hwild
    · rcases List.mem_append.1 hwild with hempty | hnone
      · obtain ⟨hkey, hqueue⟩ := mem_targetsOf hempty
        rwa [hkey]
      · obtain ⟨hkey, hqueue⟩ := mem_targetsOf hnone
        rwa [hkey]
    · exact absurd hwild List.not_mem_nil

theorem inFlight_addCall (system : System) (call : Call) :
    ({ system with calls := system.calls ++ [call] } : System).inFlight.Perm
      (system.inFlight ++ call.stage.labels) := by
  rw [inFlight, inFlight, List.flatMap_append, List.flatMap_singleton, List.append_assoc,
    List.append_assoc]
  exact (List.perm_append_comm).append_left _

variable {call : Call} {index : ℕ} {delivery : Delivery}

theorem sublist_openings_addCall (hopens : call.stage.opens = none) :
    (({ system with calls := system.calls ++ [call] } : System).openings).Sublist
      system.openings := by
  rw [openings, openings, List.filterMap_append, List.filterMap_cons, hopens]
  exact (List.append_nil _).symm ▸ List.Sublist.refl _

theorem mem_of_setCall {stage : Stage} {label : StreamKey × ℕ × ℤ}
    (hcall : system.calls[index]? = some call)
    (hstage : ∀ label ∈ stage.labels, label ∈ call.stage.labels)
    (hlabel : label ∈ (system.setCall index call stage).inFlight) : label ∈ system.inFlight := by
  obtain ⟨others, hbefore, hafter⟩ := exists_others hcall
  rcases List.mem_append.1 ((hafter stage).mem_iff.1 hlabel) with hown | hother
  · exact hbefore.mem_iff.2 (List.mem_append_left _ (hstage label hown))
  · exact hbefore.mem_iff.2 (List.mem_append_right _ hother)

theorem inFlight_schedule {loop : ℕ} {rest : List Delivery}
    (hcall : system.calls[index]? = some call)
    (hstage : call.stage = .delivering (delivery :: rest)) :
    (({ system with ready := system.ready ++ [(loop, delivery)] }.setCall index call
      (.delivering rest)).inFlight).Perm system.inFlight := by
  obtain ⟨others, hold, hnew⟩ := exists_others hcall
  have hready : ({ system with ready := system.ready ++ [(loop, delivery)] }.setCall index call
      (.delivering rest)).inFlight =
        (system.setCall index call (.delivering rest)).inFlight ++ [delivery.label] := by
    rw [inFlight, inFlight, List.append_assoc]
    congr 1
    exact List.map_append
  rw [hready]
  rw [hstage] at hold
  have hmoved := (hnew (.delivering rest)).append_right [delivery.label]
  exact hmoved.trans ((List.perm_append_singleton _ _).trans hold.symm)

theorem inFlight_callback {loop : ℕ} {before after : List (ℕ × Delivery)}
    (hready : system.ready = before ++ (loop, delivery) :: after) :
    (({ system with
      calls := system.calls ++
        [⟨some loop, .delivering [{ delivery with
          target := { delivery.target with loop := none } }]⟩]
      ready := before ++ after } : System).inFlight).Perm system.inFlight := by
  rw [inFlight, inFlight, hready, List.flatMap_append, List.flatMap_singleton, List.map_append,
    List.map_append, List.map_cons, List.append_assoc]
  apply List.Perm.append_left
  change (delivery.label :: (List.map Delivery.label [] ++ (_ ++ _))).Perm
    (_ ++ delivery.label :: _)
  rw [List.map_nil, List.nil_append]
  exact List.perm_middle.symm

theorem Registry.publish {broadcaster : TaskLogBroadcaster} {event : LogEvent}
    {targets : List Target} {loop : Option ℕ} {number : StreamKey × ℤ}
    (hregistry : system.Registry)
    (hsame : TaskLogBroadcaster.SameSubscribers system.broadcaster broadcaster)
    (htargets : targets.Perm (broadcaster.matchedTargets key)) :
    ({ system with
      broadcaster := broadcaster
      calls := system.calls ++ [⟨loop, .delivering (targets.map fun target => ⟨target, event⟩)⟩]
      published := system.published ++ [number] } : System).Registry := by
  have hsubscribers (key : StreamKey) :
      broadcaster.subscribersOf key = system.broadcaster.subscribersOf key := by
    rw [TaskLogBroadcaster.subscribersOf, hsame.subscribers]
    rfl
  have hcounts (key : StreamKey) (queue : ℕ) :
      broadcaster.countOf key queue = system.broadcaster.countOf key queue := by
    rw [TaskLogBroadcaster.countOf, hsame.droppedCounts]
    rfl
  refine hregistry.frame hsame.subscribers (fun key queue => by rw [hcounts]) (.refl rfl) ?_ ?_ ?_ ?_
  · intro label hlabel
    rcases List.mem_append.1 ((inFlight_addCall _ _).mem_iff.1 hlabel) with hold | hnew
    · exact .inl hold
    · right
      obtain ⟨delivery, hdelivery, rfl⟩ := List.mem_map.1 hnew
      obtain ⟨target, htarget, rfl⟩ := List.mem_map.1 hdelivery
      have hqueue := mem_matchedTargets (htargets.mem_iff.1 htarget)
      rw [hsubscribers] at hqueue
      exact hregistry.recorded target.key target.queue hqueue
  · exact sublist_openings_addCall rfl
  · rw [List.length_append]
    exact Nat.le_add_right _ _
  · intro queue
    rw [TaskLogBroadcaster.waiting, hsame.queues, hsame.maxQueueSize]
    exact hregistry.fits queue

theorem Registry.subscribe {loop afterSeq : Option _} (hregistry : system.Registry)
    (hnew : queue ∉ system.records.keyList) :
    ({ system with
      broadcaster := system.broadcaster.register key queue loop
      calls := system.calls ++ openingCalls loop key queue afterSeq
      records := system.records.setItem queue { key := key, since := system.published.length } }
        : System).Registry := by
  have hrecord {found : ℕ} {other : StreamKey}
      (hfound : ∃ record, system.records.getItem found = some record ∧ record.key = other) :
      found ≠ queue ∧ ∃ record, (system.records.setItem queue
        { key := key, since := system.published.length }).getItem found = some record ∧
          record.key = other := by
    obtain ⟨record, hget, hkey⟩ := hfound
    have hne : found ≠ queue := fun heq => hnew (heq ▸ Dict.mem_keyList_of_getItem hget)
    exact ⟨hne, record, by rw [Dict.getItem_setItem_of_ne _ _ hne, hget], hkey⟩
  have hself : ∃ record, (system.records.setItem queue
      { key := key, since := system.published.length }).getItem queue = some record ∧
        record.key = key :=
    ⟨_, Dict.getItem_setItem_self _ _ _, rfl⟩
  have hfresh (other : StreamKey) : queue ∉ system.broadcaster.subscribersOf other :=
    fun hmem => (hrecord (hregistry.recorded other queue hmem)).1 rfl
  have hopenings : ({ system with
      calls := system.calls ++ openingCalls loop key queue afterSeq } : System).openings =
        system.openings ++ (openingCalls loop key queue afterSeq).filterMap (·.stage.opens) :=
    List.filterMap_append
  have hopened : ∀ opening ∈ (openingCalls loop key queue afterSeq).filterMap (·.stage.opens),
      opening = (key, queue) := by
    intro opening hopening
    cases afterSeq with
    | none => exact absurd hopening List.not_mem_nil
    | some afterSeq => exact List.mem_singleton.1 hopening
  refine
    { counted := fun other found => ?_
      distinct := fun other => ?_
      recorded := fun other found hfound => ?_
      labelled := fun label hlabel => ?_
      opening := fun opening hopening => ?_
      openings := ?_
      since := fun found record hfound => ?_
      fits := fun found => ?_ }
  · rw [TaskLogBroadcaster.subscribersOf_register, TaskLogBroadcaster.countOf_register]
    by_cases hkey : other = key
    · subst hkey
      rw [if_pos rfl, List.mem_append, List.mem_singleton, hregistry.counted]
      by_cases hqueue : found = queue
      · rw [if_pos ⟨rfl, hqueue⟩]
        exact ⟨fun _ => ⟨0, rfl⟩, fun _ => .inr hqueue⟩
      · rw [if_neg fun hboth => hqueue hboth.2]
        exact or_iff_left hqueue
    · rw [if_neg hkey, if_neg fun hboth => hkey hboth.1]
      exact hregistry.counted other found
  · rw [TaskLogBroadcaster.subscribersOf_register]
    split
    · exact List.nodup_append.2 ⟨hregistry.distinct key, List.nodup_singleton queue,
        fun found hfound _ hqueue heq =>
          hfresh key ((heq.trans (List.mem_singleton.1 hqueue)) ▸ hfound)⟩
    · exact hregistry.distinct other
  · rw [TaskLogBroadcaster.subscribersOf_register] at hfound
    split at hfound
    · next hkey =>
      rcases List.mem_append.1 hfound with hold | hqueue
      · rw [hkey]
        exact (hrecord (hregistry.recorded key found hold)).2
      · rw [List.mem_singleton.1 hqueue, hkey]
        exact hself
    · exact (hrecord (hregistry.recorded other found hfound)).2
  · have hold : label ∈ system.inFlight := by
      cases afterSeq with
      | none =>
        rw [inFlight, openingCalls, List.append_nil] at hlabel
        exact hlabel
      | some afterSeq =>
        rcases List.mem_append.1 ((inFlight_addCall system _).mem_iff.1 hlabel) with hold | hnone
        · exact hold
        · exact absurd hnone List.not_mem_nil
    exact (hrecord (hregistry.labelled label hold)).2
  · rcases List.mem_append.1 (hopenings ▸ hopening) with hold | hnew'
    · exact (hrecord (hregistry.opening opening hold)).2
    · rw [hopened opening hnew']
      exact hself
  · have hnodup : ((system.openings ++
        (openingCalls loop key queue afterSeq).filterMap (·.stage.opens)).map (·.2)).Nodup := by
      rw [List.map_append, List.nodup_append]
      refine ⟨hregistry.openings, ?_, fun found hfound other hother heq => ?_⟩
      · cases afterSeq with
        | none => exact List.nodup_nil
        | some afterSeq => exact List.nodup_singleton queue
      · obtain ⟨opening, hopening, rfl⟩ := List.mem_map.1 hfound
        obtain ⟨mine, hmine, rfl⟩ := List.mem_map.1 hother
        rw [hopened mine hmine] at heq
        exact (hrecord (hregistry.opening opening hopening)).1 heq
    exact hopenings ▸ hnodup
  · by_cases hqueue : found = queue
    · rw [hqueue, Dict.getItem_setItem_self] at hfound
      cases hfound
      exact le_rfl
    · rw [Dict.getItem_setItem_of_ne _ _ hqueue] at hfound
      exact hregistry.since found record hfound
  · rw [TaskLogBroadcaster.waiting_register]
    split
    · exact .inl (Nat.zero_le _)
    · exact hregistry.fits found

theorem Registry.unsubscribe (hregistry : system.Registry) :
    ({ system with broadcaster := system.broadcaster.unsubscribe key queue } : System).Registry where
  counted other found := by
    rw [TaskLogBroadcaster.subscribersOf_unsubscribe, TaskLogBroadcaster.countOf_unsubscribe]
    by_cases hkey : other = key
    · subst hkey
      rw [if_pos rfl, List.mem_filter, decide_eq_true_eq]
      by_cases hqueue : found = queue
      · rw [if_pos ⟨rfl, hqueue⟩]
        exact ⟨fun hboth => absurd hqueue hboth.2, nofun⟩
      · rw [if_neg fun hboth => hqueue hboth.2, hregistry.counted]
        exact and_iff_left hqueue
    · rw [if_neg hkey, if_neg fun hboth => hkey hboth.1]
      exact hregistry.counted other found
  distinct other := by
    rw [TaskLogBroadcaster.subscribersOf_unsubscribe]
    split
    · exact (hregistry.distinct key).filter _
    · exact hregistry.distinct other
  recorded other found hfound := by
    rw [TaskLogBroadcaster.subscribersOf_unsubscribe] at hfound
    split at hfound
    · next heq =>
      rw [heq]
      exact hregistry.recorded key found (List.mem_filter.1 hfound).1
    · exact hregistry.recorded other found hfound
  labelled := hregistry.labelled
  opening := hregistry.opening
  openings := hregistry.openings
  since := hregistry.since
  fits := hregistry.fits

theorem Registry.advance {rest : List Delivery} (hregistry : system.Registry)
    (hcall : system.calls[index]? = some call)
    (hstage : call.stage = .delivering (delivery :: rest) ∨ call.stage = .between delivery rest) :
    (system.setCall index call (.delivering rest)).Registry := by
  refine hregistry.frame rfl (fun _ _ => Iff.rfl) (.refl rfl) (fun label hlabel => .inl ?_) ?_ le_rfl
    hregistry.fits
  · refine mem_of_setCall hcall (fun label hlabel => ?_) hlabel
    rcases hstage with hstage | hstage
    · rw [hstage]
      exact List.mem_cons_of_mem _ hlabel
    · rw [hstage]
      exact List.mem_cons_of_mem _ hlabel
  · rw [openings_setCall hcall]
    rcases hstage with hstage | hstage <;> rw [hstage] <;> rfl

theorem Registry.step (hregistry : system.Registry) (hmoves : Moves system action next) :
    next.Registry := by
  cases hmoves with
  | publish hevent htargets =>
    exact hregistry.publish (TaskLogBroadcaster.sameSubscribers_publish _ _ _ _) htargets
  | subscribe hnew => exact hregistry.subscribe hnew
  | @snapshot index call key queue afterSeq hcall hstage =>
    have hopens : call.stage.opens = some (key, queue) := by rw [hstage]; rfl
    obtain ⟨before, after, hopenings, hrest⟩ := @openings_snapshot system index call
      (.delivering ((system.broadcaster.backlog key afterSeq).map
        fun event => ⟨⟨key, queue, none⟩, event⟩)) (key, queue) hcall hopens rfl
    refine hregistry.frame ?_ ?_ (sameRecords_updateRecord rfl (fun _ => rfl) fun _ => rfl) ?_ ?_ ?_ ?_
    · rw [broadcaster_updateRecord]
      rfl
    · rw [broadcaster_updateRecord]
      exact fun _ _ => Iff.rfl
    · intro label hlabel
      rw [inFlight_updateRecord] at hlabel
      obtain ⟨others, hold, hnew⟩ := exists_others hcall
      rcases List.mem_append.1 ((hnew _).mem_iff.1 hlabel) with hown | hother
      · right
        obtain ⟨delivery, hdelivery, rfl⟩ := List.mem_map.1 hown
        obtain ⟨event, _, rfl⟩ := List.mem_map.1 hdelivery
        refine hregistry.opening (key, queue) ?_
        rw [hopenings]
        exact List.mem_append_right _ List.mem_cons_self
      · left
        exact hold.mem_iff.2 (List.mem_append_right _ hother)
    · rw [openings_updateRecord, hrest, hopenings]
      exact (List.sublist_cons_self _ _).append_left _
    · rw [published_updateRecord]
      exact le_rfl
    · rw [broadcaster_updateRecord]
      exact hregistry.fits
  | skip hcall hstage hgone => exact hregistry.advance hcall (.inl hstage)
  | @start index call delivery rest count hcall hstage hdirect hcount =>
    refine hregistry.frame ?_ ?_ (.refl rfl) ?_ ?_ le_rfl ?_
    · change (TaskLogBroadcaster.makeRoom _ _ _ _).subscribers = _
      unfold TaskLogBroadcaster.makeRoom
      split <;> rfl
    · intro key queue
      change (∃ found, (TaskLogBroadcaster.makeRoom _ _ _ _).countOf key queue = some found) ↔ _
      rw [TaskLogBroadcaster.countOf_makeRoom hcount]
      split
      · next hboth =>
        rw [hboth.1, hboth.2, hcount]
        exact ⟨fun _ => ⟨count, rfl⟩, fun _ => ⟨_, rfl⟩⟩
      · rfl
    · intro label hlabel
      left
      refine mem_of_setCall hcall (fun label hlabel => ?_) hlabel
      rw [hstage]
      exact hlabel
    · refine List.Sublist.trans ?_ (List.Sublist.refl system.openings)
      have hopenings := @openings_setCall system index call (.between delivery rest) hcall
        (by rw [hstage]; rfl)
      exact hopenings ▸ List.Sublist.refl _
    · intro queue
      change ((TaskLogBroadcaster.makeRoom _ _ _ _).waiting queue).length ≤
        (TaskLogBroadcaster.makeRoom _ _ _ _).maxQueueSize ∨
          (TaskLogBroadcaster.makeRoom _ _ _ _).maxQueueSize = 0
      rw [TaskLogBroadcaster.maxQueueSize_makeRoom, TaskLogBroadcaster.waiting_makeRoom]
      split
      · next hboth =>
        rw [List.length_tail]
        have hfits := hregistry.fits delivery.target.queue
        omega
      · exact hregistry.fits queue
  | @schedule index call delivery rest loop hcall hstage =>
    refine hregistry.frame rfl (fun _ _ => Iff.rfl) (.refl rfl) ?_ ?_ le_rfl hregistry.fits
    · intro label hlabel
      exact .inl ((inFlight_schedule hcall hstage).mem_iff.1 hlabel)
    · have hopenings := @openings_setCall system index call (.delivering rest) hcall
        (by rw [hstage]; rfl)
      exact hopenings ▸ List.Sublist.refl _
  | refuse hcall hstage => exact hregistry.advance hcall (.inl hstage)
  | @put index call delivery rest hcall hstage hroom =>
    have hadvance := hregistry.advance hcall (.inr hstage)
    refine hadvance.frame ?_ ?_ (sameRecords_updateRecord rfl (fun _ => rfl) fun _ => rfl) ?_ ?_ ?_ ?_
    · rw [broadcaster_updateRecord]
      change (TaskLogBroadcaster.put _ _ _).subscribers = _
      unfold TaskLogBroadcaster.put
      split <;> rfl
    · intro key queue
      rw [broadcaster_updateRecord]
      change (∃ found, (TaskLogBroadcaster.put _ _ _).countOf key queue = some found) ↔ _
      unfold TaskLogBroadcaster.put
      split <;> rfl
    · intro label hlabel
      rw [inFlight_updateRecord] at hlabel
      exact .inl hlabel
    · rw [openings_updateRecord]
      exact List.Sublist.refl _
    · rw [published_updateRecord]
      exact le_rfl
    · intro queue
      rw [broadcaster_updateRecord]
      change ((TaskLogBroadcaster.put _ _ _).waiting queue).length ≤
        (TaskLogBroadcaster.put _ _ _).maxQueueSize ∨
          (TaskLogBroadcaster.put _ _ _).maxQueueSize = 0
      rw [TaskLogBroadcaster.waiting_put hroom, TaskLogBroadcaster.maxQueueSize_put]
      split
      · rw [List.length_append, List.length_singleton]
        simp only [TaskLogBroadcaster.isFull, Bool.and_eq_false_iff,
          decide_eq_false_iff_not] at hroom
        omega
      · exact hregistry.fits queue
  | lose hcall hstage hfull => exact hregistry.advance hcall (.inr hstage)
  | @callback loop delivery before after hready =>
    refine hregistry.frame rfl (fun _ _ => Iff.rfl) (.refl rfl) ?_ (sublist_openings_addCall rfl)
      le_rfl hregistry.fits
    intro label hlabel
    exact .inl ((inFlight_callback hready).mem_iff.1 hlabel)
  | unsubscribe => exact hregistry.unsubscribe
  | @read queue event rest hwaiting =>
    refine hregistry.frame ?_ ?_ (sameRecords_updateRecord rfl (fun _ => rfl) fun _ => rfl) ?_ ?_ ?_ ?_
    · rw [broadcaster_updateRecord]
    · rw [broadcaster_updateRecord]
      exact fun _ _ => Iff.rfl
    · intro label hlabel
      rw [inFlight_updateRecord] at hlabel
      exact .inl hlabel
    · rw [openings_updateRecord]
      exact List.Sublist.refl _
    · rw [published_updateRecord]
    · intro found
      rw [broadcaster_updateRecord]
      have hfits := hregistry.fits found
      by_cases heq : found = queue
      · subst heq
        rw [hwaiting, List.length_cons] at hfits
        rw [TaskLogBroadcaster.waiting, Dict.getItem_setItem_self, Option.getD_some]
        exact hfits.imp_left (Nat.le_trans (Nat.le_succ _))
      · rw [TaskLogBroadcaster.waiting, Dict.getItem_setItem_of_ne _ _ heq]
        exact hfits
  | clearStream =>
    exact hregistry.frame rfl (fun _ _ => Iff.rfl) (.refl rfl) (fun _ => .inl)
      (List.Sublist.refl _) le_rfl hregistry.fits

end Steps

end System

end SignPulse.LogBroadcaster
