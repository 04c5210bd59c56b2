import SignPulse.Backend.LogRegistry

/-!
# What a subscriber receives

The events that a queue of an exact key should get, those that have been put into it, and those on
their way, in runs in which the deliveries to a queue are made in the order of the numbers.
-/

namespace SignPulse.LogBroadcaster

open Foundation

namespace TaskLogBroadcaster

/-! ## Histories -/

/-- The numbers of every history increase, up to the counter. -/
def Numbered (broadcaster : TaskLogBroadcaster) : Prop :=
  ∀ key, ((broadcaster.historyOf key).map (·.seq)).Pairwise (· < ·) ∧
    ∀ event ∈ broadcaster.historyOf key, event.seq ≤ broadcaster.counterOf key

section Histories

variable {broadcaster : TaskLogBroadcaster} {key other : StreamKey} {event : LogEvent}
variable {afterSeq : ℤ}

theorem Numbered.backlog (hnumbered : broadcaster.Numbered) :
    ((broadcaster.backlog key afterSeq).map (·.seq)).Pairwise (· < ·) :=
  (hnumbered key).1.sublist (List.filter_sublist.map _)

theorem Numbered.backlog_le (hnumbered : broadcaster.Numbered) :
    ∀ number ∈ (broadcaster.backlog key afterSeq).map (·.seq),
      number ≤ broadcaster.counterOf key := by
  intro number hnumber
  obtain ⟨event, hevent, rfl⟩ := List.mem_map.1 hnumber
  exact (hnumbered key).2 event (List.mem_of_mem_filter hevent)

theorem historyOf_clearStreamLocked (broadcaster : TaskLogBroadcaster) (key other : StreamKey) :
    (broadcaster.clearStreamLocked key).historyOf other =
      if other = key then [] else broadcaster.historyOf other := by
  rw [historyOf, clearStreamLocked]
  split
  · next heq => rw [heq, Dict.getItem_popItem_self]; rfl
  · next hne => rw [Dict.getItem_popItem_of_ne _ hne, historyOf]

theorem ne_of_evictedFor (hevicted : broadcaster.evictedFor key = some other) : other ≠ key := by
  rintro rfl
  unfold evictedFor at hevicted
  split at hevicted
  · next hmissing =>
    have hmem := List.mem_of_find?_eq_some hevicted
    rw [(Dict.hasKey_iff_mem_keyList _ _).2 hmem] at hmissing
    exact absurd hmissing.2 (by decide)
  · contradiction

theorem historyOf_makeStreamRoom : (broadcaster.makeStreamRoom key).historyOf other = [] ∨
      (broadcaster.makeStreamRoom key).historyOf other = broadcaster.historyOf other ∧
        (broadcaster.makeStreamRoom key).counterOf other = broadcaster.counterOf other := by
  unfold makeStreamRoom
  split
  · next old hevicted =>
    rw [historyOf_clearStreamLocked]
    split
    · exact .inl rfl
    · next hne => exact .inr ⟨rfl, counterOf_clearStreamLocked (Ne.symm hne)⟩
  · exact .inr ⟨rfl, rfl⟩

theorem historyOf_store : (broadcaster.store key event).historyOf other = broadcaster.historyOf other ∨
    other = key ∧ ((broadcaster.store key event).historyOf other).Sublist
      (broadcaster.historyOf key ++ [event]) := by
  unfold store
  split
  · by_cases heq : other = key
    · right
      refine ⟨heq, ?_⟩
      rw [historyOf, heq, Dict.getItem_setItem_self]
      exact List.drop_sublist _ _
    · left
      rw [historyOf, Dict.getItem_setItem_of_ne _ _ heq, historyOf]
  · exact .inl rfl

theorem historyOf_publish_self {seq : Option ℤ} :
    ((broadcaster.publish key event seq).historyOf key).Sublist
      (broadcaster.historyOf key ++ [event]) := by
  have hroom : (((broadcaster.assignNumber key seq).makeStreamRoom key).historyOf key).Sublist
      (broadcaster.historyOf key) := by
    rcases @historyOf_makeStreamRoom (broadcaster.assignNumber key seq) key key with hnil | hsame
    · rw [hnil]
      exact List.nil_sublist _
    · rw [hsame.1]
      exact List.Sublist.refl _
  unfold publish
  rcases @historyOf_store ((broadcaster.assignNumber key seq).makeStreamRoom key) key key event with
    hsame | hadded
  · rw [hsame]
    exact hroom.trans (List.sublist_append_left _ _)
  · exact hadded.2.trans (hroom.append_right _)

theorem historyOf_publish_of_ne (hne : other ≠ key) :
    (broadcaster.publish key event none).historyOf other = [] ∨
      (broadcaster.publish key event none).historyOf other = broadcaster.historyOf other ∧
        (broadcaster.publish key event none).counterOf other = broadcaster.counterOf other := by
  have hstore : (broadcaster.publish key event none).historyOf other =
      ((broadcaster.assignNumber key none).makeStreamRoom key).historyOf other := by
    unfold publish
    rcases @historyOf_store ((broadcaster.assignNumber key none).makeStreamRoom key) key other
      event with hsame | hadded
    · exact hsame
    · exact absurd hadded.1 hne
  rw [hstore, publish, counterOf, seqCounters_store, ← counterOf]
  rcases @historyOf_makeStreamRoom (broadcaster.assignNumber key none) key other with hnil | hsame
  · exact .inl hnil
  · refine .inr ⟨hsame.1, ?_⟩
    rw [hsame.2, counterOf_assignNumber, if_neg (Ne.symm hne)]

theorem Numbered.publish (hnumbered : broadcaster.Numbered) (fields : Dict String PyValue) :
    (broadcaster.publish key ⟨fields, broadcaster.numberOf key none⟩ none).Numbered := by
  intro other
  by_cases heq : other = key
  · subst heq
    have hcounter := @counterOf_publish broadcaster other other
      ⟨fields, broadcaster.numberOf other none⟩ fun hevicted => ne_of_evictedFor hevicted rfl
    rw [if_pos rfl] at hcounter
    obtain ⟨hincreasing, hbounded⟩ := hnumbered other
    have hnumber : broadcaster.numberOf other none = broadcaster.counterOf other + 1 := rfl
    rw [hcounter]
    constructor
    · refine List.Pairwise.sublist (historyOf_publish_self.map _) ?_
      rw [List.map_append, List.pairwise_append]
      refine ⟨hincreasing, List.pairwise_singleton _ _, fun number hold last hlast => ?_⟩
      obtain ⟨event, hevent, rfl⟩ := List.mem_map.1 hold
      rw [List.mem_singleton.1 hlast]
      exact Int.lt_add_one_of_le (hbounded event hevent)
    · intro event hevent
      rcases List.mem_append.1 (historyOf_publish_self.subset hevent) with hold | hnew
      · have hle := hbounded event hold
        omega
      · rw [List.mem_singleton.1 hnew]
        exact le_of_eq hnumber
  · rcases @historyOf_publish_of_ne broadcaster key other
      ⟨fields, broadcaster.numberOf key none⟩ heq with hnil | hsame
    · rw [hnil]
      exact ⟨List.Pairwise.nil, nofun⟩
    · rw [hsame.1, hsame.2]
      exact hnumbered other

end Histories

end TaskLogBroadcaster

namespace System

/-! ## What a queue should get -/

/-- The numbers that were given to the key of a record after its queue had been registered. -/
def laterLines (system : System) (record : Record) : List ℤ :=
  numbersOf (system.published.drop record.since) record.key

/-- The snapshot, and every later line. -/
def expected (system : System) (record : Record) : List ℤ :=
  record.snapshot ++ system.laterLines record

def numbersTo (labels : List (StreamKey × ℕ × ℤ)) (queue : ℕ) : List ℤ :=
  (labels.filter fun label => label.2.1 = queue).map (·.2.2)

def onTheWay (system : System) (queue : ℕ) : List ℤ :=
  numbersTo system.inFlight queue

/-- What has been read from a queue, and what waits there. -/
def received (system : System) (queue : ℕ) (record : Record) : List ℤ :=
  record.read ++ (system.broadcaster.waiting queue).map (·.seq)

def InOrder (system : System) : Action → Prop
  | .publish _ key _ seq _ => seq = none ∧ (key.IsExact → ∀ opening ∈ system.openings,
      opening.1 = key → system.broadcaster.countOf key opening.2 = none)
  | .deliver index => ∀ call delivery rest, system.calls[index]? = some call →
      call.stage = .delivering (delivery :: rest) → IsDirect call delivery →
      delivery.target.key.IsExact →
      system.broadcaster.countOf delivery.target.key delivery.target.queue ≠ none →
      ∀ number ∈ system.onTheWay delivery.target.queue, delivery.event.seq ≤ number
  | .refuse index => ∀ call delivery rest, system.calls[index]? = some call →
      call.stage = .delivering (delivery :: rest) → delivery.target.key.IsExact →
      system.broadcaster.countOf delivery.target.key delivery.target.queue = none
  | .clearStream key => system.broadcaster.subscribersOf key = []
  | _ => True

/-- The lines of a subscriber are those put into its queue and those on their way, in their
order, and the missing ones have been counted. -/
structure Tracked (system : System) (queue : ℕ) (record : Record) : Prop where
  increasing : (system.expected record).Pairwise (· < ·)
  bounded : ∀ number ∈ system.expected record, number ≤ system.broadcaster.counterOf record.key
  split : ∃ way, system.expected record = record.delivered ++ way ∧ way.Perm (system.onTheWay queue)
  between : ∀ call ∈ system.calls, ∀ delivery rest, call.stage = .between delivery rest →
    delivery.target.queue = queue →
      (∀ number ∈ system.onTheWay queue, delivery.event.seq ≤ number) ∧
        system.broadcaster.isFull queue = false
  kept : (system.received queue record).Sublist record.delivered
  counted : ∃ count, system.broadcaster.countOf record.key queue = some count ∧
    record.delivered.length = (system.received queue record).length + count
  opening : queue ∈ system.openings.map (·.2) → system.expected record = []

section Queues

variable {system next : System} {queue : ℕ} {record : Record} {key : StreamKey}

theorem numbersTo_append (labels more : List (StreamKey × ℕ × ℤ)) (queue : ℕ) :
    numbersTo (labels ++ more) queue = numbersTo labels queue ++ numbersTo more queue := by
  rw [numbersTo, List.filter_append, List.map_append]
  rfl

theorem numbersTo_label_self (delivery : Delivery) (labels : List (StreamKey × ℕ × ℤ)) :
    numbersTo (delivery.label :: labels) delivery.target.queue =
      delivery.event.seq :: numbersTo labels delivery.target.queue := by
  simp [numbersTo, Delivery.label]

theorem numbersTo_label_of_ne {delivery : Delivery} (labels : List (StreamKey × ℕ × ℤ))
    (hne : delivery.target.queue ≠ queue) :
    numbersTo (delivery.label :: labels) queue = numbersTo labels queue := by
  simp [numbersTo, Delivery.label, hne]

theorem numbersTo_perm {labels more : List (StreamKey × ℕ × ℤ)} (hperm : labels.Perm more) :
    (numbersTo labels queue).Perm (numbersTo more queue) :=
  (hperm.filter _).map _

theorem numbersTo_eq_nil {labels : List (StreamKey × ℕ × ℤ)}
    (hnone : ∀ label ∈ labels, label.2.1 ≠ queue) : numbersTo labels queue = [] := by
  rw [numbersTo, List.filter_eq_nil_iff.2 fun label hlabel heq =>
    hnone label hlabel (of_decide_eq_true heq), List.map_nil]

theorem mem_onTheWay {number : ℤ} : number ∈ system.onTheWay queue ↔
    ∃ label ∈ system.inFlight, label.2.1 = queue ∧ label.2.2 = number := by
  simp [onTheWay, numbersTo, and_assoc]

variable {index : ℕ} {call : Call} {delivery : Delivery} {rest : List Delivery}

theorem exists_onTheWay (hcall : system.calls[index]? = some call) (queue : ℕ) : ∃ others,
      (system.onTheWay queue).Perm (numbersTo call.stage.labels queue ++ others) ∧
        ∀ stage, ((system.setCall index call stage).onTheWay queue).Perm
          (numbersTo stage.labels queue ++ others) := by
  obtain ⟨others, hold, hnew⟩ := exists_others hcall
  refine ⟨numbersTo others queue, ?_, fun stage => ?_⟩
  · rw [← numbersTo_append]
    exact numbersTo_perm hold
  · rw [← numbersTo_append]
    exact numbersTo_perm (hnew stage)

theorem mem_calls_of_setCall {index : ℕ} {call other : Call} {stage : Stage}
    (hcall : system.calls[index]? = some call)
    (hother : other ∈ (system.setCall index call stage).calls) :
    other.stage = stage ∨ other ∈ system.calls := by
  obtain ⟨before, after, hcalls, hset⟩ := exists_split hcall
  rw [hset] at hother
  rw [hcalls]
  rcases List.mem_append.1 hother with hbefore | hrest
  · exact .inr (List.mem_append_left _ hbefore)
  · rcases List.mem_cons.1 hrest with hown | hafter
    · exact .inl (hown ▸ rfl)
    · exact .inr (List.mem_append_right _ (List.mem_cons_of_mem _ hafter))

theorem mem_onTheWay_of_between (hcall : call ∈ system.calls)
    (hstage : call.stage = .between delivery rest) (hqueue : delivery.target.queue = queue) :
    delivery.event.seq ∈ system.onTheWay queue := by
  refine mem_onTheWay.2 ⟨delivery.label, ?_, hqueue, rfl⟩
  refine List.mem_append_left _ (List.mem_flatMap.2 ⟨call, hcall, ?_⟩)
  rw [hstage]
  exact List.mem_cons_self

theorem Tracked.mem_expected {number : ℤ} (htracked : system.Tracked queue record)
    (hnumber : number ∈ system.onTheWay queue) : number ∈ system.expected record := by
  obtain ⟨way, hsplit, hperm⟩ := htracked.split
  rw [hsplit]
  exact List.mem_append_right _ (hperm.mem_iff.2 hnumber)

theorem Tracked.nodup (htracked : system.Tracked queue record) : (system.onTheWay queue).Nodup := by
  obtain ⟨way, hsplit, hperm⟩ := htracked.split
  have hway := htracked.increasing
  rw [hsplit, List.pairwise_append] at hway
  exact hperm.nodup_iff.1 (hway.2.1.imp fun hlt => ne_of_lt hlt)

theorem Tracked.carry {found : Record} (htracked : system.Tracked queue record)
    (hkey : found.key = record.key) (hdelivered : found.delivered = record.delivered)
    (hexpected : next.expected found = system.expected record)
    (hreceived : next.received queue found = system.received queue record)
    (hcounter : next.broadcaster.counterOf record.key = system.broadcaster.counterOf record.key)
    (hway : (next.onTheWay queue).Perm (system.onTheWay queue))
    (hbetween : ∀ call ∈ next.calls, ∀ delivery rest, call.stage = .between delivery rest →
      delivery.target.queue = queue → ∃ other ∈ system.calls, other.stage = .between delivery rest)
    (hroom : system.broadcaster.isFull queue = false → next.broadcaster.isFull queue = false)
    (hcount : next.broadcaster.countOf record.key queue =
      system.broadcaster.countOf record.key queue)
    (hopening : queue ∈ next.openings.map (·.2) → queue ∈ system.openings.map (·.2)) :
    next.Tracked queue found := by
  obtain ⟨way, hsplit, hperm⟩ := htracked.split
  refine
    { increasing := by rw [hexpected]; exact htracked.increasing
      bounded := by rw [hexpected, hkey, hcounter]; exact htracked.bounded
      split := ⟨way, by rw [hexpected, hdelivered, hsplit], hperm.trans hway.symm⟩
      between := fun call hcall delivery rest hstage hqueue => ?_
      kept := by rw [hreceived, hdelivered]; exact htracked.kept
      counted := by rw [hkey, hcount, hreceived, hdelivered]; exact htracked.counted
      opening := fun hopens => by rw [hexpected]; exact htracked.opening (hopening hopens) }
  obtain ⟨other, hother, hbefore⟩ := hbetween call hcall delivery rest hstage hqueue
  obtain ⟨hsmallest, hempty⟩ := htracked.between other hother delivery rest hbefore hqueue
  exact ⟨fun number hnumber => hsmallest number (hway.mem_iff.1 hnumber), hroom hempty⟩

theorem Tracked.frame (htracked : system.Tracked queue record)
    (hlater : next.laterLines record = system.laterLines record)
    (hcounter : next.broadcaster.counterOf record.key = system.broadcaster.counterOf record.key)
    (hway : (next.onTheWay queue).Perm (system.onTheWay queue))
    (hbetween : ∀ call ∈ next.calls, ∀ delivery rest, call.stage = .between delivery rest →
      delivery.target.queue = queue → ∃ other ∈ system.calls, other.stage = .between delivery rest)
    (hwaiting : next.broadcaster.waiting queue = system.broadcaster.waiting queue)
    (hsize : next.broadcaster.maxQueueSize = system.broadcaster.maxQueueSize)
    (hcount : next.broadcaster.countOf record.key queue =
      system.broadcaster.countOf record.key queue)
    (hopening : queue ∈ next.openings.map (·.2) → queue ∈ system.openings.map (·.2)) :
    next.Tracked queue record := by
  have hexpected : next.expected record = system.expected record := by
    rw [expected, expected, hlater]
  have hreceived : next.received queue record = system.received queue record := by
    rw [received, received, hwaiting]
  have hfull : next.broadcaster.isFull queue = system.broadcaster.isFull queue := by
    rw [TaskLogBroadcaster.isFull, TaskLogBroadcaster.isFull, hwaiting, hsize]
  exact htracked.carry rfl rfl hexpected hreceived hcounter hway hbetween hfull.trans hcount
    hopening

/-! ## One step -/

theorem Tracked.advance (htracked : system.Tracked queue record)
    (hcall : system.calls[index]? = some call)
    (hstage : call.stage = .delivering (delivery :: rest) ∨ call.stage = .between delivery rest)
    (hne : delivery.target.queue ≠ queue) :
    (system.setCall index call (.delivering rest)).Tracked queue record := by
  have hlabels : numbersTo call.stage.labels queue =
      numbersTo (Stage.delivering rest).labels queue := by
    rcases hstage with hstage | hstage
    · rw [hstage]
      exact numbersTo_label_of_ne _ hne
    · rw [hstage]
      exact numbersTo_label_of_ne _ hne
  have hopens : (Stage.delivering rest).opens = call.stage.opens := by
    rcases hstage with hstage | hstage <;> rw [hstage] <;> rfl
  obtain ⟨others, hold, hnew⟩ := exists_onTheWay hcall queue
  refine htracked.frame rfl rfl ?_ ?_ rfl rfl rfl ?_
  · rw [hlabels] at hold
    exact (hnew _).trans hold.symm
  · intro other hother delivery rest hbetween _
    rcases mem_calls_of_setCall hcall hother with hown | hsame
    · rw [hown] at hbetween
      contradiction
    · exact ⟨other, hsame, hbetween⟩
  · rw [openings_setCall hcall hopens]
    exact id

theorem received_makeRoom_sublist {broadcaster : TaskLogBroadcaster} {count : ℕ} :
    ((broadcaster.makeRoom key queue count).waiting queue).Sublist (broadcaster.waiting queue) := by
  rw [TaskLogBroadcaster.waiting_makeRoom]
  split
  · exact List.tail_sublist _
  · exact List.Sublist.refl _

theorem length_waiting_makeRoom {broadcaster : TaskLogBroadcaster} {count : ℕ} :
    ((broadcaster.makeRoom key queue count).waiting queue).length +
      (if broadcaster.isFull queue then count + 1 else count) =
        (broadcaster.waiting queue).length + count := by
  rw [TaskLogBroadcaster.waiting_makeRoom]
  by_cases hfull : broadcaster.isFull queue = true
  · rw [if_pos ⟨rfl, hfull⟩, if_pos hfull, List.length_tail]
    simp only [TaskLogBroadcaster.isFull, Bool.and_eq_true, decide_eq_true_eq] at hfull
    omega
  · rw [if_neg fun hboth => hfull hboth.2, if_neg hfull]

theorem Tracked.start {index count : ℕ} {call : Call} {delivery : Delivery}
    {rest : List Delivery} (htracked : system.Tracked queue record) (hregistry : system.Registry)
    (hcall : system.calls[index]? = some call)
    (hstage : call.stage = .delivering (delivery :: rest))
    (hcount : system.broadcaster.countOf delivery.target.key delivery.target.queue = some count)
    (hkey : delivery.target.queue = queue → delivery.target.key = record.key)
    (hsmallest : delivery.target.queue = queue →
      ∀ number ∈ system.onTheWay queue, delivery.event.seq ≤ number) :
    ({ system with
      broadcaster := system.broadcaster.makeRoom delivery.target.key delivery.target.queue
        count }.setCall index call (.between delivery rest)).Tracked queue record := by
  have hlabels : (Stage.between delivery rest).labels = call.stage.labels := by
    rw [hstage]
    rfl
  have hopens : (Stage.between delivery rest).opens = call.stage.opens := by
    rw [hstage]
    rfl
  have hopenings := openings_setCall hcall hopens
  have hcalls : ({ system with
      broadcaster := system.broadcaster.makeRoom delivery.target.key delivery.target.queue
        count }.setCall index call (.between delivery rest)).calls =
      (system.setCall index call (.between delivery rest)).calls := rfl
  have hway : ((system.setCall index call (.between delivery rest)).onTheWay queue).Perm
      (system.onTheWay queue) := by
    obtain ⟨others, hold, hnew⟩ := exists_onTheWay hcall queue
    rw [← hlabels] at hold
    exact (hnew _).trans hold.symm
  by_cases hqueue : delivery.target.queue = queue
  · subst hqueue
    have hown := hkey rfl
    obtain ⟨way, hsplit, hperm⟩ := htracked.split
    have hroom := @TaskLogBroadcaster.isFull_makeRoom system.broadcaster delivery.target.key
      delivery.target.queue count (hregistry.fits delivery.target.queue)
    refine
      { increasing := htracked.increasing
        bounded := fun number hnumber => ?_
        split := ⟨way, hsplit, hperm.trans hway.symm⟩
        between := fun other hother first others hbetween hsame => ?_
        kept := ?_
        counted := ?_
        opening := fun hopening => ?_ }
    · exact (htracked.bounded number hnumber).trans
        (@TaskLogBroadcaster.counterOf_makeRoom system.broadcaster _ record.key _ count).ge
    · refine ⟨fun number hnumber => ?_, hroom⟩
      have hnumber' := hway.mem_iff.1 hnumber
      rcases mem_calls_of_setCall hcall (hcalls ▸ hother) with hnew | hold
      · rw [hnew] at hbetween
        obtain ⟨rfl, rfl⟩ := Stage.between.inj hbetween
        exact hsmallest rfl number hnumber'
      · exact (htracked.between other hold first others hbetween hsame).1 number hnumber'
    · exact List.Sublist.trans ((received_makeRoom_sublist.map _).append_left _) htracked.kept
    · obtain ⟨found, hfound, hlength⟩ := htracked.counted
      rw [← hown] at hfound ⊢
      obtain rfl := Option.some.inj (hcount.symm.trans hfound)
      refine ⟨_, (TaskLogBroadcaster.countOf_makeRoom hcount).trans (if_pos ⟨rfl, rfl⟩), ?_⟩
      have hwaiting := @length_waiting_makeRoom delivery.target.queue delivery.target.key
        system.broadcaster count
      rw [received, List.length_append, List.length_map] at hlength ⊢
      change _ = _ + (TaskLogBroadcaster.waiting (TaskLogBroadcaster.makeRoom _ _ _ _) _).length + _
      omega
    · refine htracked.opening ?_
      rw [← hopenings]
      exact hopening
  · have hne : queue ≠ delivery.target.queue := Ne.symm hqueue
    refine htracked.frame rfl ?_ hway ?_ ?_ ?_ ?_ ?_
    · exact TaskLogBroadcaster.counterOf_makeRoom
    · intro other hother first others hbetween hsame
      rcases mem_calls_of_setCall hcall (hcalls ▸ hother) with hnew | hold
      · rw [hnew] at hbetween
        obtain ⟨rfl, rfl⟩ := Stage.between.inj hbetween
        exact absurd hsame hqueue
      · exact ⟨other, hold, hbetween⟩
    · exact TaskLogBroadcaster.waiting_makeRoom.trans (if_neg fun hboth => hne hboth.1)
    · exact TaskLogBroadcaster.maxQueueSize_makeRoom
    · exact (TaskLogBroadcaster.countOf_makeRoom hcount).trans (if_neg fun hboth => hne hboth.2)
    · intro hopening
      rw [← hopenings]
      exact hopening

theorem Tracked.schedule {index loop : ℕ} {call : Call} {delivery : Delivery}
    {rest : List Delivery} (htracked : system.Tracked queue record)
    (hcall : system.calls[index]? = some call)
    (hstage : call.stage = .delivering (delivery :: rest)) :
    ({ system with ready := system.ready ++ [(loop, delivery)] }.setCall index call
      (.delivering rest)).Tracked queue record := by
  have hopenings := @openings_setCall system index call (.delivering rest) hcall
    (by rw [hstage]; rfl)
  refine htracked.frame rfl rfl (numbersTo_perm (inFlight_schedule hcall hstage)) ?_ rfl rfl rfl ?_
  · intro other hother first others hbetween _
    rcases @mem_calls_of_setCall system index call other _ hcall hother with hown | hsame
    · rw [hown] at hbetween
      contradiction
    · exact ⟨other, hsame, hbetween⟩
  · intro hopening
    rw [← hopenings]
    exact hopening

theorem Tracked.callback {loop : ℕ} {delivery : Delivery} {before after : List (ℕ × Delivery)}
    (htracked : system.Tracked queue record)
    (hready : system.ready = before ++ (loop, delivery) :: after) :
    ({ system with
      calls := system.calls ++
        [⟨some loop, .delivering [{ delivery with
          target := { delivery.target with loop := none } }]⟩]
      ready := before ++ after } : System).Tracked queue record := by
  refine htracked.frame rfl rfl (numbersTo_perm (inFlight_callback hready)) ?_ rfl rfl rfl ?_
  · intro other hother first others hbetween _
    rcases List.mem_append.1 hother with hsame | hnew
    · exact ⟨other, hsame, hbetween⟩
    · rw [List.mem_singleton.1 hnew] at hbetween
      contradiction
  · intro hopening
    exact ((sublist_openings_addCall rfl).map _).subset hopening

theorem Tracked.updateRecord {other : ℕ} {change : Record → Record}
    (htracked : system.Tracked queue record) :
    (system.updateRecord other change).Tracked queue record := by
  refine htracked.frame ?_ ?_ ?_ ?_ ?_ ?_ ?_ ?_
  · rw [laterLines, published_updateRecord, laterLines]
  · rw [broadcaster_updateRecord]
  · rw [onTheWay, inFlight_updateRecord]
    exact List.Perm.refl _
  · rw [calls_updateRecord]
    exact fun call hcall delivery rest hstage _ => ⟨call, hcall, hstage⟩
  · rw [broadcaster_updateRecord]
  · rw [broadcaster_updateRecord]
  · rw [broadcaster_updateRecord]
  · rw [openings_updateRecord]
    exact id

theorem Tracked.put_self (htracked : system.Tracked delivery.target.queue record)
    (hcall : system.calls[index]? = some call) (hstage : call.stage = .between delivery rest)
    (hroom : system.broadcaster.isFull delivery.target.queue = false) :
    (({ system with
      broadcaster := system.broadcaster.put delivery.target.queue delivery.event }.setCall
        index call (.delivering rest)).Tracked delivery.target.queue
          { record with delivered := record.delivered ++ [delivery.event.seq] }) := by
  obtain ⟨others, hold, hnew⟩ := exists_onTheWay hcall delivery.target.queue
  have hway := hnew (.delivering rest)
  have hmember : call ∈ system.calls := List.mem_of_getElem? hcall
  rw [hstage, Stage.labels, numbersTo_label_self, List.cons_append] at hold
  have hall : (system.onTheWay delivery.target.queue).Perm (delivery.event.seq ::
      (system.setCall index call (.delivering rest)).onTheWay delivery.target.queue) :=
    hold.trans (hway.symm.cons _)
  have hnodup := hall.nodup_iff.1 htracked.nodup
  obtain ⟨hsmallest, -⟩ := htracked.between call hmember delivery rest hstage rfl
  obtain ⟨way, hsplit, hperm⟩ := htracked.split
  have hincreasing := htracked.increasing
  rw [hsplit, List.pairwise_append] at hincreasing
  -- The smallest number that is missing comes first.
  obtain ⟨tail, rfl⟩ : ∃ tail, way = delivery.event.seq :: tail := by
    cases way with
    | nil => exact absurd (hperm.trans hall).symm.eq_nil (List.cons_ne_nil _ _)
    | cons head tail =>
      refine ⟨tail, ?_⟩
      have hhead := hsmallest head (hperm.mem_iff.1 List.mem_cons_self)
      have hmem : delivery.event.seq ∈ head :: tail :=
        (hperm.trans hall).mem_iff.2 List.mem_cons_self
      rcases List.mem_cons.1 hmem with heq | htail
      · rw [heq]
      · exact absurd ((List.pairwise_cons.1 hincreasing.2.1).1 _ htail) (not_lt.2 hhead)
  have htail := (List.perm_cons _).1 (hperm.trans hall)
  refine
    { increasing := htracked.increasing
      bounded := fun number hnumber => ?_
      split := ⟨tail, ?_, htail⟩
      between := fun other hother first others hbetween hsame => ?_
      kept := ?_
      counted := ?_
      opening := fun hopening => ?_ }
  · have hle := htracked.bounded number hnumber
    rw [TaskLogBroadcaster.counterOf] at hle ⊢
    change _ ≤ ((TaskLogBroadcaster.put _ _ _).seqCounters.getItem _).getD 0
    unfold TaskLogBroadcaster.put
    split <;> exact hle
  · rw [List.append_assoc]
    exact hsplit
  · exfalso
    have hmem : first.event.seq ∈
        (system.setCall index call (.delivering rest)).onTheWay delivery.target.queue :=
      mem_onTheWay_of_between hother hbetween hsame
    rcases @mem_calls_of_setCall system index call other _ hcall hother with hown | hold
    · rw [hown] at hbetween
      contradiction
    · have hback : first.event.seq ≤ delivery.event.seq :=
        (htracked.between other hold first others hbetween hsame).1 _
          (hall.mem_iff.2 List.mem_cons_self)
      have hforth : delivery.event.seq ≤ first.event.seq :=
        hsmallest _ (hall.mem_iff.2 (List.mem_cons_of_mem _ hmem))
      rw [le_antisymm hback hforth] at hmem
      exact (List.nodup_cons.1 hnodup).1 hmem
  · rw [received]
    change (_ ++ ((TaskLogBroadcaster.put _ _ _).waiting _).map _).Sublist _
    rw [TaskLogBroadcaster.waiting_put hroom, if_pos rfl, List.map_append, ← List.append_assoc]
    exact htracked.kept.append_right _
  · obtain ⟨count, hcount, hlength⟩ := htracked.counted
    refine ⟨count, ?_, ?_⟩
    · rw [← hcount]
      change (TaskLogBroadcaster.put _ _ _).countOf _ _ = _
      unfold TaskLogBroadcaster.put
      split <;> rfl
    · rw [received] at hlength ⊢
      change _ = (_ ++ ((TaskLogBroadcaster.put _ _ _).waiting _).map _).length + _
      rw [TaskLogBroadcaster.waiting_put hroom, if_pos rfl, List.map_append, ← List.append_assoc,
        List.length_append, List.length_append, hlength]
      exact Nat.add_right_comm _ _ _
  · refine htracked.opening ?_
    rw [← @openings_setCall system index call (.delivering rest) hcall (by rw [hstage]; rfl)]
    exact hopening

theorem Tracked.put_of_ne (htracked : system.Tracked queue record)
    (hcall : system.calls[index]? = some call) (hstage : call.stage = .between delivery rest)
    (hroom : system.broadcaster.isFull delivery.target.queue = false)
    (hne : delivery.target.queue ≠ queue) :
    ({ system with
      broadcaster := system.broadcaster.put delivery.target.queue delivery.event }.setCall
        index call (.delivering rest)).Tracked queue record := by
  refine (htracked.advance hcall (.inr hstage) hne).frame rfl ?_ (.refl _) ?_ ?_ ?_ ?_ id
  · change (TaskLogBroadcaster.put _ _ _).counterOf _ = _
    unfold TaskLogBroadcaster.put
    split <;> rfl
  · exact fun other hother first others hbetween _ => ⟨other, hother, hbetween⟩
  · exact (TaskLogBroadcaster.waiting_put hroom).trans (if_neg (Ne.symm hne))
  · exact TaskLogBroadcaster.maxQueueSize_put
  · change (TaskLogBroadcaster.put _ _ _).countOf _ _ = _
    unfold TaskLogBroadcaster.put
    split <;> rfl

theorem Tracked.read {found : ℕ} {event : LogEvent} {rest : List LogEvent}
    (htracked : system.Tracked queue record)
    (hwaiting : system.broadcaster.waiting found = event :: rest) :
    ({ system with
      broadcaster := { system.broadcaster with
        queues := system.broadcaster.queues.setItem found rest } } : System).Tracked queue
          (if queue = found then { record with read := record.read ++ [event.seq] }
            else record) := by
  by_cases hqueue : queue = found
  · subst hqueue
    rw [if_pos rfl]
    have hrest : TaskLogBroadcaster.waiting { system.broadcaster with
        queues := system.broadcaster.queues.setItem queue rest } queue = rest := by
      rw [TaskLogBroadcaster.waiting, Dict.getItem_setItem_self, Option.getD_some]
    refine htracked.carry rfl rfl rfl ?_ rfl (.refl _) ?_ ?_ rfl id
    · rw [received, received, hrest, hwaiting, List.map_cons, List.append_assoc]
      rfl
    · exact fun other hother first others hbetween _ => ⟨other, hother, hbetween⟩
    · rw [TaskLogBroadcaster.isFull, TaskLogBroadcaster.isFull, hrest, hwaiting, List.length_cons]
      simp only [Bool.and_eq_false_iff, decide_eq_false_iff_not]
      omega
  · rw [if_neg hqueue]
    refine htracked.frame rfl rfl (.refl _) ?_ ?_ rfl rfl id
    · exact fun other hother first others hbetween _ => ⟨other, hother, hbetween⟩
    · rw [TaskLogBroadcaster.waiting, Dict.getItem_setItem_of_ne _ _ hqueue,
        TaskLogBroadcaster.waiting]

theorem Tracked.unsubscribe {other : ℕ} (htracked : system.Tracked queue record)
    (hqueue : queue ∈ (system.broadcaster.unsubscribe key other).subscribersOf record.key) :
    ({ system with broadcaster := system.broadcaster.unsubscribe key other } : System).Tracked
      queue record := by
  refine htracked.frame rfl rfl (.refl _) ?_ rfl rfl ?_ id
  · exact fun call hcall delivery rest hstage _ => ⟨call, hcall, hstage⟩
  · rw [TaskLogBroadcaster.countOf_unsubscribe]
    refine if_neg fun hboth => ?_
    rw [TaskLogBroadcaster.subscribersOf_unsubscribe, if_pos hboth.1] at hqueue
    exact of_decide_eq_true (List.mem_filter.1 hqueue).2 hboth.2

theorem tracked_subscribe {loop afterSeq : Option _} (hregistry : system.Registry)
    (hnew : queue ∉ system.records.keyList) :
    ({ system with
      broadcaster := system.broadcaster.register key queue loop
      calls := system.calls ++ openingCalls loop key queue afterSeq
      records := system.records.setItem queue { key := key, since := system.published.length } }
        : System).Tracked queue { key := key, since := system.published.length } := by
  have hunnamed : ∀ label ∈ system.inFlight, label.2.1 ≠ queue := by
    rintro label hlabel rfl
    obtain ⟨record, hrecord, -⟩ := hregistry.labelled label hlabel
    exact hnew (Dict.mem_keyList_of_getItem hrecord)
  have hlabels : (openingCalls loop key queue afterSeq).flatMap (·.stage.labels) = [] := by
    cases afterSeq <;> rfl
  have hcalls : (system.calls ++ openingCalls loop key queue afterSeq).flatMap (·.stage.labels) =
      system.calls.flatMap (·.stage.labels) := by
    rw [List.flatMap_append, hlabels, List.append_nil]
  have hexpected : (System.mk (system.broadcaster.register key queue loop)
      (system.calls ++ openingCalls loop key queue afterSeq) system.ready system.published
        (system.records.setItem queue { key := key, since := system.published.length })).expected
          { key := key, since := system.published.length } = [] := by
    rw [expected, laterLines, List.drop_length]
    rfl
  have hwaiting : (system.broadcaster.register key queue loop).waiting queue = [] := by
    rw [TaskLogBroadcaster.waiting_register, if_pos rfl]
  have hway : (System.mk (system.broadcaster.register key queue loop)
      (system.calls ++ openingCalls loop key queue afterSeq) system.ready system.published
        (system.records.setItem queue { key := key, since := system.published.length })).onTheWay
          queue = [] := by
    rw [onTheWay, inFlight]
    exact hcalls ▸ numbersTo_eq_nil hunnamed
  refine
    { increasing := by rw [hexpected]; exact List.Pairwise.nil
      bounded := by rw [hexpected]; exact fun _ hmem => absurd hmem List.not_mem_nil
      split := ⟨[], hexpected, by rw [hway]⟩
      between := fun call hcall delivery rest hstage hqueue => ?_
      kept := ?_
      counted := ⟨0, ?_, ?_⟩
      opening := fun _ => hexpected }
  · have hmem := mem_onTheWay_of_between hcall hstage hqueue
    rw [hway] at hmem
    exact absurd hmem List.not_mem_nil
  · rw [received]
    exact hwaiting ▸ List.Sublist.refl []
  · rw [TaskLogBroadcaster.countOf_register, if_pos ⟨rfl, rfl⟩]
  · rw [received]
    exact hwaiting ▸ rfl

theorem Tracked.subscribe {loop afterSeq : Option _} {other : ℕ}
    (htracked : system.Tracked queue record) (hne : queue ≠ other) :
    ({ system with
      broadcaster := system.broadcaster.register key other loop
      calls := system.calls ++ openingCalls loop key other afterSeq
      records := system.records.setItem other { key := key, since := system.published.length } }
        : System).Tracked queue record := by
  have hcalls : (system.calls ++ openingCalls loop key other afterSeq).flatMap (·.stage.labels) =
      system.calls.flatMap (·.stage.labels) := by
    rw [List.flatMap_append]
    cases afterSeq <;> exact List.append_nil _
  refine htracked.frame rfl rfl ?_ ?_ ?_ rfl ?_ ?_
  · rw [onTheWay, onTheWay, inFlight, hcalls]
    exact List.Perm.refl _
  · intro call hcall delivery rest hstage _
    rcases List.mem_append.1 hcall with hsame | hnew
    · exact ⟨call, hsame, hstage⟩
    · cases afterSeq with
      | none => exact absurd hnew List.not_mem_nil
      | some afterSeq =>
        rw [List.mem_singleton.1 hnew] at hstage
        contradiction
  · rw [TaskLogBroadcaster.waiting_register, if_neg hne]
  · rw [TaskLogBroadcaster.countOf_register, if_neg fun hboth => hne hboth.2]
  · intro hopening
    rw [openings, List.filterMap_append, List.map_append] at hopening
    rcases List.mem_append.1 hopening with hsame | hnew
    · exact hsame
    · cases afterSeq with
      | none => exact absurd hnew List.not_mem_nil
      | some afterSeq => exact absurd (List.mem_singleton.1 hnew) hne

theorem Tracked.snapshot_self {afterSeq : ℤ} (htracked : system.Tracked queue record)
    (hregistry : system.Registry) (hnumbered : system.broadcaster.Numbered)
    (hcall : system.calls[index]? = some call)
    (hstage : call.stage = .opening record.key queue afterSeq) :
    (system.setCall index call (.delivering ((system.broadcaster.backlog record.key afterSeq).map
      fun event => ⟨⟨record.key, queue, none⟩, event⟩))).Tracked queue
        { record with
          snapshot := (system.broadcaster.backlog record.key afterSeq).map (·.seq) } := by
  have hopens : call.stage.opens = some (record.key, queue) := by
    rw [hstage]
    rfl
  obtain ⟨before, after, hopenings, hrest⟩ := @openings_snapshot system index call
    (.delivering ((system.broadcaster.backlog record.key afterSeq).map
      fun event => ⟨⟨record.key, queue, none⟩, event⟩)) (record.key, queue) hcall hopens rfl
  have hempty : system.expected record = [] := by
    refine htracked.opening ?_
    rw [hopenings, List.map_append]
    exact List.mem_append_right _ List.mem_cons_self
  have hlater : system.laterLines record = [] := (List.append_eq_nil_iff.1 hempty).2
  obtain ⟨way, hsplit, hperm⟩ := htracked.split
  rw [hempty] at hsplit
  obtain ⟨hdelivered, rfl⟩ := List.append_eq_nil_iff.1 hsplit.symm
  have hnothing : system.onTheWay queue = [] := hperm.symm.eq_nil
  have hexpected : (system.setCall index call
      (.delivering ((system.broadcaster.backlog record.key afterSeq).map
        fun event => ⟨⟨record.key, queue, none⟩, event⟩))).expected
      { record with snapshot := (system.broadcaster.backlog record.key afterSeq).map (·.seq) } =
        (system.broadcaster.backlog record.key afterSeq).map (·.seq) := by
    change _ ++ system.laterLines record = _
    rw [hlater, List.append_nil]
  have hlabels : numbersTo (Stage.delivering ((system.broadcaster.backlog record.key afterSeq).map
      fun event => ⟨⟨record.key, queue, none⟩, event⟩)).labels queue =
        (system.broadcaster.backlog record.key afterSeq).map (·.seq) := by
    rw [numbersTo, Stage.labels, List.map_map, List.filter_eq_self.2, List.map_map]
    · rfl
    · intro label hlabel
      obtain ⟨event, _, rfl⟩ := List.mem_map.1 hlabel
      exact decide_eq_true rfl
  obtain ⟨others, hold, hnew⟩ := exists_onTheWay hcall queue
  obtain rfl : others = [] := by
    rw [hnothing] at hold
    exact (List.append_eq_nil_iff.1 hold.symm.eq_nil).2
  refine
    { increasing := by rw [hexpected]; exact hnumbered.backlog
      bounded := by rw [hexpected]; exact hnumbered.backlog_le
      split := ⟨_, by rw [hexpected, hdelivered]; rfl, ?_⟩
      between := fun other hother first others hbetween hsame => ?_
      kept := htracked.kept
      counted := htracked.counted
      opening := fun hopening => ?_ }
  · have hway := hnew (.delivering ((system.broadcaster.backlog record.key afterSeq).map
      fun event => ⟨⟨record.key, queue, none⟩, event⟩))
    rw [hlabels, List.append_nil] at hway
    exact hway.symm
  · rcases mem_calls_of_setCall hcall hother with hown | hsame'
    · rw [hown] at hbetween
      contradiction
    · have hmem := mem_onTheWay_of_between hsame' hbetween hsame
      rw [hnothing] at hmem
      exact absurd hmem List.not_mem_nil
  · have hnodup := hregistry.openings
    rw [hopenings, List.map_append, List.map_cons] at hnodup
    rw [hrest, List.map_append] at hopening
    exact absurd hopening (List.nodup_middle.1 hnodup).notMem

theorem Tracked.snapshot_of_ne {other : ℕ} {afterSeq : ℤ} (htracked : system.Tracked queue record)
    (hcall : system.calls[index]? = some call) (hstage : call.stage = .opening key other afterSeq)
    (hne : other ≠ queue) :
    (system.setCall index call (.delivering ((system.broadcaster.backlog key afterSeq).map
      fun event => ⟨⟨key, other, none⟩, event⟩))).Tracked queue record := by
  have hopens : call.stage.opens = some (key, other) := by
    rw [hstage]
    rfl
  obtain ⟨before, after, hopenings, hrest⟩ := @openings_snapshot system index call
    (.delivering ((system.broadcaster.backlog key afterSeq).map
      fun event => ⟨⟨key, other, none⟩, event⟩)) (key, other) hcall hopens rfl
  have hlabels : numbersTo (Stage.delivering ((system.broadcaster.backlog key afterSeq).map
      fun event => ⟨⟨key, other, none⟩, event⟩)).labels queue = [] := by
    refine numbersTo_eq_nil fun label hlabel => ?_
    obtain ⟨delivery, hdelivery, rfl⟩ := List.mem_map.1 hlabel
    obtain ⟨event, _, rfl⟩ := List.mem_map.1 hdelivery
    exact hne
  obtain ⟨others, hold, hnew⟩ := exists_onTheWay hcall queue
  have hway := hnew (.delivering ((system.broadcaster.backlog key afterSeq).map
    fun event => ⟨⟨key, other, none⟩, event⟩))
  rw [hlabels] at hway
  rw [hstage] at hold
  refine htracked.frame rfl rfl (hway.trans hold.symm) ?_ rfl rfl rfl ?_
  · intro other hother delivery rest hbetween _
    rcases mem_calls_of_setCall hcall hother with hown | hsame
    · rw [hown] at hbetween
      contradiction
    · exact ⟨other, hsame, hbetween⟩
  · rw [hrest, hopenings]
    exact fun hopening => (((List.sublist_cons_self _ _).append_left _).map _).subset hopening

/-! ### Publishing -/

theorem countP_targetsOf (hregistry : system.Registry)
    (hrecord : system.records.getItem queue = some record)
    (hqueue : queue ∈ system.broadcaster.subscribersOf record.key) :
    (system.broadcaster.targetsOf key).countP (fun target => target.queue = queue) =
      if record.key = key then 1 else 0 := by
  have hcount : (system.broadcaster.targetsOf key).countP (fun target => target.queue = queue) =
      (system.broadcaster.subscribersOf key).count queue := by
    rw [TaskLogBroadcaster.targetsOf, List.countP_map, List.count]
    exact List.countP_congr fun found _ => by simp
  rw [hcount]
  split
  · next hkey => exact List.count_eq_one_of_mem (hregistry.distinct key) (hkey ▸ hqueue)
  · next hne =>
    refine List.count_eq_zero.2 fun hmem => hne ?_
    obtain ⟨found, hfound, hkey⟩ := hregistry.recorded key queue hmem
    rw [← hkey, Option.some.inj (hrecord.symm.trans hfound)]

theorem countP_matchedTargets (hregistry : system.Registry)
    (hrecord : system.records.getItem queue = some record) (hexact : record.key.IsExact)
    (hqueue : queue ∈ system.broadcaster.subscribersOf record.key) :
    (system.broadcaster.matchedTargets key).countP (fun target => target.queue = queue) =
      if record.key = key then 1 else 0 := by
  have hwild {runId : Option String} (hrunId : runId = none ∨ runId = some "") :
      (system.broadcaster.targetsOf { key with runId := runId }).countP
        (fun target => target.queue = queue) = 0 := by
    rw [countP_targetsOf hregistry hrecord hqueue]
    refine if_neg fun hkey => ?_
    rw [hkey] at hexact
    rcases hrunId with hnone | hempty
    · exact hexact.1 hnone
    · exact hexact.2 hempty
  rw [TaskLogBroadcaster.matchedTargets, List.countP_append,
    countP_targetsOf hregistry hrecord hqueue]
  refine Nat.add_eq_left.2 ?_
  split
  · rw [List.countP_append, hwild (.inr rfl), hwild (.inl rfl)]
  · rfl

theorem numbersTo_targets (targets : List Target) (event : LogEvent) :
    numbersTo (Stage.delivering (targets.map fun target => ⟨target, event⟩)).labels queue =
      List.replicate (targets.countP fun target => target.queue = queue) event.seq := by
  induction targets with
  | nil => rfl
  | cons target targets ih =>
    rw [List.map_cons, Stage.labels, List.map_cons, List.countP_cons]
    rw [Stage.labels] at ih
    by_cases heq : target.queue = queue
    · subst heq
      have hself := numbersTo_label_self ⟨target, event⟩
        ((targets.map fun target => Delivery.mk target event).map Delivery.label)
      rw [hself, ih, if_pos (by simp)]
      rfl
    · have hother := @numbersTo_label_of_ne queue ⟨target, event⟩
        ((targets.map fun target => Delivery.mk target event).map Delivery.label) heq
      rw [hother, ih, if_neg (by simpa using heq)]
      rfl

theorem Tracked.publish_of_ne {loop : Option ℕ} {event : LogEvent} {targets : List Target}
    (htracked : system.Tracked queue record) (hregistry : system.Registry)
    (hrecord : system.records.getItem queue = some record) (hexact : record.key.IsExact)
    (hqueue : queue ∈ system.broadcaster.subscribersOf record.key) (hne : record.key ≠ key)
    (htargets : targets.Perm (system.broadcaster.matchedTargets key)) :
    ({ system with
      broadcaster := system.broadcaster.publish key event none
      calls := system.calls ++ [⟨loop, .delivering (targets.map fun target => ⟨target, event⟩)⟩]
      published := system.published ++ [(key, event.seq)] } : System).Tracked queue record := by
  have hsame := TaskLogBroadcaster.sameSubscribers_publish system.broadcaster key event none
  have hcounter := @TaskLogBroadcaster.counterOf_publish system.broadcaster record.key key event
    (TaskLogBroadcaster.evictedFor_ne hqueue)
  have hcount := @countP_matchedTargets system queue record key hregistry hrecord hexact hqueue
  rw [if_neg hne, ← htargets.countP_eq] at hcount
  refine htracked.frame ?_ ?_ ?_ ?_ ?_ hsame.maxQueueSize ?_ ?_
  · rw [laterLines, List.drop_append_of_le_length (hregistry.since queue record hrecord),
      numbersOf_append, numbersOf_singleton, if_neg (Ne.symm hne), List.append_nil, laterLines]
  · rw [hcounter, if_neg (Ne.symm hne)]
  · refine (numbersTo_perm (inFlight_addCall system _)).trans ?_
    rw [numbersTo_append, numbersTo_targets, hcount, List.replicate_zero, List.append_nil, onTheWay]
  · intro call hcall delivery rest hstage _
    rcases List.mem_append.1 hcall with hold | hnew
    · exact ⟨call, hold, hstage⟩
    · rw [List.mem_singleton.1 hnew] at hstage
      contradiction
  · rw [TaskLogBroadcaster.waiting, hsame.queues, TaskLogBroadcaster.waiting]
  · rw [TaskLogBroadcaster.countOf, hsame.droppedCounts, TaskLogBroadcaster.countOf]
  · exact fun hopening => ((sublist_openings_addCall rfl).map _).subset hopening

/-- A line of the key of a subscriber comes on its way as the last one. -/
theorem Tracked.publish_self {loop : Option ℕ} {fields : Dict String PyValue}
    {event : LogEvent} {targets : List Target}
    (htracked : system.Tracked queue record) (hregistry : system.Registry)
    (hrecord : system.records.getItem queue = some record) (hexact : record.key.IsExact)
    (hqueue : queue ∈ system.broadcaster.subscribersOf record.key)
    (hevent : event = ⟨fields, system.broadcaster.numberOf record.key none⟩)
    (hclosed : ∀ opening ∈ system.openings, opening.1 = record.key →
      system.broadcaster.countOf record.key opening.2 = none)
    (htargets : targets.Perm (system.broadcaster.matchedTargets record.key)) :
    ({ system with
      broadcaster := system.broadcaster.publish record.key event none
      calls := system.calls ++ [⟨loop, .delivering (targets.map fun target => ⟨target, event⟩)⟩]
      published := system.published ++ [(record.key, event.seq)] } : System).Tracked queue
        record := by
  have hsame := TaskLogBroadcaster.sameSubscribers_publish system.broadcaster record.key event none
  have hcounter := @TaskLogBroadcaster.counterOf_publish system.broadcaster record.key record.key
    event (TaskLogBroadcaster.evictedFor_ne hqueue)
  rw [if_pos rfl] at hcounter
  have hnumber : event.seq = system.broadcaster.counterOf record.key + 1 := by
    rw [hevent]
    rfl
  have hcount := @countP_matchedTargets system queue record record.key hregistry hrecord hexact hqueue
  rw [if_pos rfl, ← htargets.countP_eq] at hcount
  have hwaiting : (system.broadcaster.publish record.key event none).waiting queue =
      system.broadcaster.waiting queue := by
    rw [TaskLogBroadcaster.waiting, hsame.queues, TaskLogBroadcaster.waiting]
  have hexpected : (System.mk (system.broadcaster.publish record.key event none)
      (system.calls ++ [⟨loop, .delivering (targets.map fun target => ⟨target, event⟩)⟩])
        system.ready (system.published ++ [(record.key, event.seq)]) system.records).expected
          record = system.expected record ++ [event.seq] := by
    rw [expected, laterLines,
      List.drop_append_of_le_length (hregistry.since queue record hrecord), numbersOf_append,
      numbersOf_singleton, if_pos rfl, ← List.append_assoc, expected, laterLines]
  have hway : ((System.mk (system.broadcaster.publish record.key event none)
      (system.calls ++ [⟨loop, .delivering (targets.map fun target => ⟨target, event⟩)⟩])
        system.ready (system.published ++ [(record.key, event.seq)]) system.records).onTheWay
          queue).Perm (system.onTheWay queue ++ [event.seq]) := by
    refine (numbersTo_perm (inFlight_addCall system _)).trans ?_
    rw [numbersTo_append, numbersTo_targets, hcount, List.replicate_one, onTheWay]
  obtain ⟨way, hsplit, hperm⟩ := htracked.split
  refine
    { increasing := ?_
      bounded := fun number hmember => ?_
      split := ⟨way ++ [event.seq], by rw [hexpected, hsplit, List.append_assoc],
        (hperm.append_right _).trans hway.symm⟩
      between := fun call hcall delivery rest hstage hsameQueue => ?_
      kept := ?_
      counted := ?_
      opening := fun hopening => ?_ }
  · rw [hexpected, List.pairwise_append]
    refine ⟨htracked.increasing, List.pairwise_singleton _ _, fun number hold last hlast => ?_⟩
    rw [List.mem_singleton.1 hlast, hnumber]
    exact Int.lt_add_one_of_le (htracked.bounded number hold)
  · rw [hexpected] at hmember
    rw [hcounter]
    rcases List.mem_append.1 hmember with hold | hnew
    · have hle := htracked.bounded number hold
      omega
    · exact ((List.mem_singleton.1 hnew).trans hnumber).le
  · have hold : call ∈ system.calls := by
      rcases List.mem_append.1 hcall with hold | hnew
      · exact hold
      · rw [List.mem_singleton.1 hnew] at hstage
        contradiction
    obtain ⟨hsmallest, hroom⟩ := htracked.between call hold delivery rest hstage hsameQueue
    refine ⟨fun number hnumber' => ?_, ?_⟩
    · rcases List.mem_append.1 (hway.mem_iff.1 hnumber') with hway' | hnew
      · exact hsmallest number hway'
      · have hmem := mem_onTheWay_of_between hold hstage hsameQueue
        have hle := htracked.bounded _ (htracked.mem_expected hmem)
        rw [List.mem_singleton.1 hnew]
        omega
    · rw [TaskLogBroadcaster.isFull, hwaiting, hsame.maxQueueSize]
      exact hroom
  · rw [received, hwaiting]
    exact htracked.kept
  · obtain ⟨count, hfound, hlength⟩ := htracked.counted
    refine ⟨count, ?_, ?_⟩
    · rw [← hfound, TaskLogBroadcaster.countOf, hsame.droppedCounts, TaskLogBroadcaster.countOf]
    · rw [received, hwaiting]
      exact hlength
  · exfalso
    have hopen : queue ∈ system.openings.map (·.2) :=
      ((sublist_openings_addCall rfl).map _).subset hopening
    obtain ⟨opening, hmem, rfl⟩ := List.mem_map.1 hopen
    obtain ⟨found, hfound, hkey⟩ := hregistry.opening opening hmem
    rw [hrecord] at hfound
    have hgone := hclosed opening hmem (by rw [← hkey, Option.some.inj hfound])
    obtain ⟨count, hcounted, -⟩ := htracked.counted
    rw [hgone] at hcounted
    contradiction

end Queues

end System

end SignPulse.LogBroadcaster
