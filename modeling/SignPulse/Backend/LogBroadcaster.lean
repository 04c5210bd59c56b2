import Mathlib.Data.List.Perm.Basic
import SignPulse.Foundation.PyValue
import SignPulse.Foundation.StepRun

/-!
# The broadcaster of task logs

`TaskLogBroadcaster` of `task_log_broadcaster.py`, in the steps between which threads and event
loops can take turns: what a call does under the lock is one step, and so is each half of a
delivery, the removal of the oldest event and the insertion of the new one.
-/

namespace SignPulse.LogBroadcaster

open Foundation

structure StreamKey where
  accountName : Option String := none
  taskName : String := ""
  runId : Option String := none
  deriving DecidableEq

def StreamKey.IsExact (key : StreamKey) : Prop :=
  key.runId ≠ none ∧ key.runId ≠ some ""

instance (key : StreamKey) : Decidable key.IsExact :=
  inferInstanceAs (Decidable (_ ∧ _))

/-- An event with the number it has been given. -/
structure LogEvent where
  fields : Dict String PyValue
  seq : ℤ

/-- A queue of a subscriber, and the event loop it belongs to. -/
structure Target where
  key : StreamKey
  queue : ℕ
  loop : Option ℕ
  deriving DecidableEq

structure TaskLogBroadcaster where
  maxQueueSize : ℕ := 1000
  historySize : ℕ := 1000
  maxStreams : ℕ := 200
  subscribers : Dict StreamKey (List ℕ) := []
  droppedCounts : Dict StreamKey (Dict ℕ ℕ) := []
  queueLoops : Dict ℕ ℕ := []
  history : Dict StreamKey (List LogEvent) := []
  seqCounters : Dict StreamKey ℤ := []
  /-- What waits in the queues. -/
  queues : Dict ℕ (List LogEvent) := []

namespace TaskLogBroadcaster

def subscribersOf (broadcaster : TaskLogBroadcaster) (key : StreamKey) : List ℕ :=
  (broadcaster.subscribers.getItem key).getD []

def historyOf (broadcaster : TaskLogBroadcaster) (key : StreamKey) : List LogEvent :=
  (broadcaster.history.getItem key).getD []

def counterOf (broadcaster : TaskLogBroadcaster) (key : StreamKey) : ℤ :=
  (broadcaster.seqCounters.getItem key).getD 0

def waiting (broadcaster : TaskLogBroadcaster) (queue : ℕ) : List LogEvent :=
  (broadcaster.queues.getItem queue).getD []

/-- The dropped events of a queue that is subscribed. -/
def countOf (broadcaster : TaskLogBroadcaster) (key : StreamKey) (queue : ℕ) : Option ℕ :=
  (broadcaster.droppedCounts.getItem key).bind (Dict.getItem · queue)

/-- `get_dropped_count`. -/
def getDroppedCount (broadcaster : TaskLogBroadcaster) (key : StreamKey) (queue : ℕ) : ℕ :=
  (broadcaster.countOf key queue).getD 0

/-- `subscribe`, until the lock is released. -/
def register (broadcaster : TaskLogBroadcaster) (key : StreamKey) (queue : ℕ)
    (loop : Option ℕ) : TaskLogBroadcaster :=
  { broadcaster with
    subscribers := broadcaster.subscribers.setItem key (broadcaster.subscribersOf key ++ [queue])
    droppedCounts := broadcaster.droppedCounts.setItem key
      (((broadcaster.droppedCounts.getItem key).getD []).setItem queue 0)
    queueLoops := match loop with
      | some loop => broadcaster.queueLoops.setItem queue loop
      | none => broadcaster.queueLoops
    queues := broadcaster.queues.setItem queue [] }

/-- The events that `subscribe` replays. -/
def backlog (broadcaster : TaskLogBroadcaster) (key : StreamKey) (afterSeq : ℤ) : List LogEvent :=
  (broadcaster.historyOf key).filter fun event => afterSeq < event.seq

/-- `unsubscribe`. -/
def unsubscribe (broadcaster : TaskLogBroadcaster) (key : StreamKey) (queue : ℕ) :
    TaskLogBroadcaster :=
  let others := (broadcaster.subscribersOf key).filter (· ≠ queue)
  let counts := ((broadcaster.droppedCounts.getItem key).getD []).popItem queue
  { broadcaster with
    subscribers :=
      if others = [] then broadcaster.subscribers.popItem key
      else broadcaster.subscribers.setItem key others
    droppedCounts :=
      if counts.length = 0 then broadcaster.droppedCounts.popItem key
      else broadcaster.droppedCounts.setItem key counts
    queueLoops := broadcaster.queueLoops.popItem queue }

/-- `queue.full()`. -/
def isFull (broadcaster : TaskLogBroadcaster) (queue : ℕ) : Bool :=
  0 < broadcaster.maxQueueSize && broadcaster.maxQueueSize ≤ (broadcaster.waiting queue).length

/-- The first half of `_deliver_to_queue`, if the queue is subscribed. -/
def makeRoom (broadcaster : TaskLogBroadcaster) (key : StreamKey) (queue count : ℕ) :
    TaskLogBroadcaster :=
  if broadcaster.isFull queue then
    { broadcaster with
      queues := broadcaster.queues.setItem queue (broadcaster.waiting queue).tail
      droppedCounts := broadcaster.droppedCounts.setItem key
        (((broadcaster.droppedCounts.getItem key).getD []).setItem queue (count + 1)) }
  else broadcaster

/-- `put_nowait`, whose `QueueFull` is ignored. -/
def put (broadcaster : TaskLogBroadcaster) (queue : ℕ) (event : LogEvent) : TaskLogBroadcaster :=
  if broadcaster.isFull queue then broadcaster
  else
    { broadcaster with
      queues := broadcaster.queues.setItem queue (broadcaster.waiting queue ++ [event]) }

/-- `_clear_stream_locked`. -/
def clearStreamLocked (broadcaster : TaskLogBroadcaster) (key : StreamKey) : TaskLogBroadcaster :=
  { broadcaster with
    history := broadcaster.history.popItem key
    seqCounters := broadcaster.seqCounters.popItem key }

/-- The stream that is given up for a new one: the oldest without subscribers. -/
def evictedFor (broadcaster : TaskLogBroadcaster) (key : StreamKey) : Option StreamKey :=
  if broadcaster.maxStreams ≤ broadcaster.history.length ∧ broadcaster.history.hasKey key = false then
    broadcaster.history.keyList.find? fun old => (broadcaster.subscribersOf old).isEmpty
  else none

/-- The number of an event: the next one of its stream, or that of the caller. -/
def numberOf (broadcaster : TaskLogBroadcaster) (key : StreamKey) (seq : Option ℤ) : ℤ :=
  seq.getD (broadcaster.counterOf key + 1)

def assignNumber (broadcaster : TaskLogBroadcaster) (key : StreamKey) (seq : Option ℤ) :
    TaskLogBroadcaster :=
  { broadcaster with
    seqCounters := broadcaster.seqCounters.setItem key
      (match seq with
        | none => broadcaster.counterOf key + 1
        | some seq => max (broadcaster.counterOf key) seq) }

def makeStreamRoom (broadcaster : TaskLogBroadcaster) (key : StreamKey) : TaskLogBroadcaster :=
  match broadcaster.evictedFor key with
  | some old => broadcaster.clearStreamLocked old
  | none => broadcaster

/-- The event is kept, unless all streams are in use. -/
def store (broadcaster : TaskLogBroadcaster) (key : StreamKey) (event : LogEvent) :
    TaskLogBroadcaster :=
  if broadcaster.history.hasKey key ∨ broadcaster.history.length < broadcaster.maxStreams then
    let events := broadcaster.historyOf key ++ [event]
    { broadcaster with
      history := broadcaster.history.setItem key
        (events.drop (events.length - broadcaster.historySize)) }
  else broadcaster

/-- What `publish_nowait` does under the lock. -/
def publish (broadcaster : TaskLogBroadcaster) (key : StreamKey) (event : LogEvent)
    (seq : Option ℤ) : TaskLogBroadcaster :=
  ((broadcaster.assignNumber key seq).makeStreamRoom key).store key event

def targetsOf (broadcaster : TaskLogBroadcaster) (key : StreamKey) : List Target :=
  (broadcaster.subscribersOf key).map fun queue =>
    ⟨key, queue, broadcaster.queueLoops.getItem queue⟩

/-- The queues that an event of a key goes to. -/
def matchedTargets (broadcaster : TaskLogBroadcaster) (key : StreamKey) : List Target :=
  broadcaster.targetsOf key ++ if key.IsExact then
      broadcaster.targetsOf { key with runId := some "" } ++
        broadcaster.targetsOf { key with runId := none }
    else []

end TaskLogBroadcaster

/-! ## Calls -/

/-- An event on its way to a queue.  What belongs to no loop is delivered directly. -/
structure Delivery where
  target : Target
  event : LogEvent

/-- How far a call has come. -/
inductive Stage where
  /-- `subscribe` has registered its queue and has not read the history. -/
  | opening (key : StreamKey) (queue : ℕ) (afterSeq : ℤ)
  | delivering (deliveries : List Delivery)
  /-- The first delivery has made room in its queue. -/
  | between (first : Delivery) (rest : List Delivery)

/-- A call in a thread, which is that of an event loop or not. -/
structure Call where
  loop : Option ℕ
  stage : Stage

def Call.isOver (call : Call) : Bool :=
  match call.stage with
  | .delivering [] => true
  | _ => false

/-- What has happened to the queue of a subscriber: the key, how many events had been published
before, the numbers of the snapshot, and those that have been put into the queue and read. -/
structure Record where
  key : StreamKey
  since : ℕ
  snapshot : List ℤ := []
  delivered : List ℤ := []
  read : List ℤ := []

structure System where
  broadcaster : TaskLogBroadcaster
  calls : List Call := []
  /-- The callbacks that the loops have to run, in their order. -/
  ready : List (ℕ × Delivery) := []
  published : List (StreamKey × ℤ) := []
  records : Dict ℕ Record := []

inductive Action where
  /-- `publish_nowait`, which meets its targets in some order. -/
  | publish (loop : Option ℕ) (key : StreamKey) (fields : Dict String PyValue) (seq : Option ℤ)
      (targets : List Target)
  | subscribe (loop : Option ℕ) (key : StreamKey) (queue : ℕ) (afterSeq : Option ℤ)
  /-- A subscribing call reads the history. -/
  | snapshot (call : ℕ)
  /-- A call takes its next delivery. -/
  | deliver (call : ℕ)
  /-- The loop of the next delivery is closed. -/
  | refuse (call : ℕ)
  /-- A call inserts the event of a delivery. -/
  | put (call : ℕ)
  /-- A loop runs its next callback. -/
  | callback (loop : ℕ)
  | unsubscribe (key : StreamKey) (queue : ℕ)
  /-- The first event of a queue is read. -/
  | read (queue : ℕ)
  | clearStream (key : StreamKey)

namespace System

def opened (maxQueueSize historySize maxStreams : ℕ) : System where
  broadcaster :=
    { maxQueueSize := maxQueueSize, historySize := historySize, maxStreams := maxStreams }

/-- A thread without a loop is a new one; a loop has one call at a time. -/
def Idle (system : System) (loop : Option ℕ) : Prop :=
  loop = none ∨ ∀ call ∈ system.calls, call.loop = loop → call.isOver = true

instance (system : System) (loop : Option ℕ) : Decidable (system.Idle loop) :=
  inferInstanceAs (Decidable (_ ∨ _))

def setCall (system : System) (index : ℕ) (call : Call) (stage : Stage) : System :=
  { system with calls := system.calls.set index { call with stage := stage } }

def updateRecord (system : System) (queue : ℕ) (change : Record → Record) : System :=
  match system.records.getItem queue with
  | some record => { system with records := system.records.setItem queue (change record) }
  | none => system

def IsDirect (call : Call) (delivery : Delivery) : Prop :=
  delivery.target.loop = none ∨ delivery.target.loop = call.loop

instance (call : Call) (delivery : Delivery) : Decidable (IsDirect call delivery) :=
  inferInstanceAs (Decidable (_ ∨ _))

def deliver (system : System) (index : ℕ) (call : Call) (delivery : Delivery)
    (rest : List Delivery) : System :=
  if IsDirect call delivery then
    match system.broadcaster.countOf delivery.target.key delivery.target.queue with
    | none => system.setCall index call (.delivering rest)
    | some count =>
      { system with
        broadcaster :=
          system.broadcaster.makeRoom delivery.target.key delivery.target.queue count }.setCall
        index call (.between delivery rest)
  else
    match delivery.target.loop with
    | some loop =>
      { system with ready := system.ready ++ [(loop, delivery)] }.setCall index call
        (.delivering rest)
    | none => system

/-- A call that will read the history. -/
def openingCalls (loop : Option ℕ) (key : StreamKey) (queue : ℕ) (afterSeq : Option ℤ) :
    List Call :=
  match afterSeq with
  | some afterSeq => [⟨loop, .opening key queue afterSeq⟩]
  | none => []

def step (system : System) : Action → Option System
  | .publish loop key fields seq targets =>
    let number := system.broadcaster.numberOf key seq
    let published := system.broadcaster.publish key ⟨fields, number⟩ seq
    if system.Idle loop ∧ targets.Perm (published.matchedTargets key) then
      some
        { system with
          broadcaster := published
          calls := system.calls ++
            [⟨loop, .delivering (targets.map fun target => ⟨target, ⟨fields, number⟩⟩)⟩]
          published := system.published ++ [(key, number)] }
    else none
  | .subscribe loop key queue afterSeq =>
    if system.Idle loop ∧ queue ∉ system.records.keyList then
      some
        { system with
          broadcaster := system.broadcaster.register key queue loop
          calls := system.calls ++ openingCalls loop key queue afterSeq
          records := system.records.setItem queue { key := key, since := system.published.length } }
    else none
  | .snapshot index =>
    match system.calls[index]? with
    | some call =>
      match call.stage with
      | .opening key queue afterSeq =>
        let events := system.broadcaster.backlog key afterSeq
        some ((system.setCall index call
          (.delivering (events.map fun event => ⟨⟨key, queue, none⟩, event⟩))).updateRecord
            queue fun record => { record with snapshot := events.map (·.seq) })
      | _ => none
    | none => none
  | .deliver index =>
    match system.calls[index]? with
    | some call =>
      match call.stage with
      | .delivering (delivery :: rest) => some (system.deliver index call delivery rest)
      | _ => none
    | none => none
  | .refuse index =>
    match system.calls[index]? with
    | some call =>
      match call.stage with
      | .delivering (delivery :: rest) =>
        if IsDirect call delivery then none
        else some (system.setCall index call (.delivering rest))
      | _ => none
    | none => none
  | .put index =>
    match system.calls[index]? with
    | some call =>
      match call.stage with
      | .between delivery rest =>
        let queue := delivery.target.queue
        let done := { system with
          broadcaster := system.broadcaster.put queue delivery.event }.setCall index call
            (.delivering rest)
        some (if system.broadcaster.isFull queue then done
          else done.updateRecord queue fun record =>
            { record with delivered := record.delivered ++ [delivery.event.seq] })
      | _ => none
    | none => none
  | .callback loop =>
    match system.ready.find? fun callback => callback.1 = loop with
    | some (_, delivery) =>
      if system.Idle (some loop) then
        some
          { system with
            calls := system.calls ++
              [⟨some loop, .delivering [{ delivery with
                target := { delivery.target with loop := none } }]⟩]
            ready := system.ready.eraseP fun callback => callback.1 = loop }
      else none
    | none => none
  | .unsubscribe key queue =>
    some { system with broadcaster := system.broadcaster.unsubscribe key queue }
  | .read queue =>
    match system.broadcaster.waiting queue with
    | event :: rest =>
      some ({ system with
        broadcaster := { system.broadcaster with
          queues := system.broadcaster.queues.setItem queue rest } }.updateRecord queue
            fun record => { record with read := record.read ++ [event.seq] })
    | [] => none
  | .clearStream key =>
    some { system with broadcaster := system.broadcaster.clearStreamLocked key }

/-! ## What a step can be -/

/-- The steps, one by one, each with what it requires. -/
inductive Moves (system : System) : Action → System → Prop where
  | publish {loop : Option ℕ} {key : StreamKey} {fields : Dict String PyValue} {seq : Option ℤ}
      {targets : List Target} {event : LogEvent}
      (hevent : event = ⟨fields, system.broadcaster.numberOf key seq⟩)
      (htargets : targets.Perm ((system.broadcaster.publish key event seq).matchedTargets key)) :
      Moves system (.publish loop key fields seq targets)
        { system with
          broadcaster := system.broadcaster.publish key event seq
          calls := system.calls ++ [⟨loop, .delivering (targets.map fun target => ⟨target, event⟩)⟩]
          published := system.published ++ [(key, event.seq)] }
  | subscribe {loop afterSeq : Option _} {key : StreamKey} {queue : ℕ}
      (hnew : queue ∉ system.records.keyList) :
      Moves system (.subscribe loop key queue afterSeq)
        { system with
          broadcaster := system.broadcaster.register key queue loop
          calls := system.calls ++ openingCalls loop key queue afterSeq
          records := system.records.setItem queue { key := key, since := system.published.length } }
  | snapshot {index : ℕ} {call : Call} {key : StreamKey} {queue : ℕ} {afterSeq : ℤ}
      (hcall : system.calls[index]? = some call) (hstage : call.stage = .opening key queue afterSeq) :
      Moves system (.snapshot index)
        ((system.setCall index call (.delivering ((system.broadcaster.backlog key afterSeq).map
          fun event => ⟨⟨key, queue, none⟩, event⟩))).updateRecord queue fun record =>
            { record with
              snapshot := (system.broadcaster.backlog key afterSeq).map (·.seq) })
  | skip {index : ℕ} {call : Call} {delivery : Delivery} {rest : List Delivery}
      (hcall : system.calls[index]? = some call)
      (hstage : call.stage = .delivering (delivery :: rest))
      (hgone : system.broadcaster.countOf delivery.target.key delivery.target.queue = none) :
      Moves system (.deliver index) (system.setCall index call (.delivering rest))
  | start {index : ℕ} {call : Call} {delivery : Delivery} {rest : List Delivery} {count : ℕ}
      (hcall : system.calls[index]? = some call)
      (hstage : call.stage = .delivering (delivery :: rest)) (hdirect : IsDirect call delivery)
      (hcount : system.broadcaster.countOf delivery.target.key delivery.target.queue = some count) :
      Moves system (.deliver index)
        ({ system with
          broadcaster := system.broadcaster.makeRoom delivery.target.key delivery.target.queue
            count }.setCall index call (.between delivery rest))
  | schedule {index : ℕ} {call : Call} {delivery : Delivery} {rest : List Delivery} {loop : ℕ}
      (hcall : system.calls[index]? = some call)
      (hstage : call.stage = .delivering (delivery :: rest)) :
      Moves system (.deliver index)
        ({ system with ready := system.ready ++ [(loop, delivery)] }.setCall index call
          (.delivering rest))
  | refuse {index : ℕ} {call : Call} {delivery : Delivery} {rest : List Delivery}
      (hcall : system.calls[index]? = some call)
      (hstage : call.stage = .delivering (delivery :: rest)) :
      Moves system (.refuse index) (system.setCall index call (.delivering rest))
  | put {index : ℕ} {call : Call} {delivery : Delivery} {rest : List Delivery}
      (hcall : system.calls[index]? = some call) (hstage : call.stage = .between delivery rest)
      (hroom : system.broadcaster.isFull delivery.target.queue = false) :
      Moves system (.put index)
        (({ system with
          broadcaster := system.broadcaster.put delivery.target.queue delivery.event }.setCall
            index call (.delivering rest)).updateRecord delivery.target.queue fun record =>
              { record with delivered := record.delivered ++ [delivery.event.seq] })
  | lose {index : ℕ} {call : Call} {delivery : Delivery} {rest : List Delivery}
      (hcall : system.calls[index]? = some call) (hstage : call.stage = .between delivery rest)
      (hfull : system.broadcaster.isFull delivery.target.queue = true) :
      Moves system (.put index) (system.setCall index call (.delivering rest))
  | callback {loop : ℕ} {delivery : Delivery} {before after : List (ℕ × Delivery)}
      (hready : system.ready = before ++ (loop, delivery) :: after) :
      Moves system (.callback loop)
        { system with
          calls := system.calls ++
            [⟨some loop, .delivering [{ delivery with
              target := { delivery.target with loop := none } }]⟩]
          ready := before ++ after }
  | unsubscribe {key : StreamKey} {queue : ℕ} :
      Moves system (.unsubscribe key queue)
        { system with broadcaster := system.broadcaster.unsubscribe key queue }
  | read {queue : ℕ} {event : LogEvent} {rest : List LogEvent}
      (hwaiting : system.broadcaster.waiting queue = event :: rest) :
      Moves system (.read queue)
        ({ system with
          broadcaster := { system.broadcaster with
            queues := system.broadcaster.queues.setItem queue rest } }.updateRecord queue
              fun record => { record with read := record.read ++ [event.seq] })
  | clearStream {key : StreamKey} :
      Moves system (.clearStream key)
        { system with broadcaster := system.broadcaster.clearStreamLocked key }

theorem moves_of_step {system next : System} {action : Action}
    (hstep : system.step action = some next) : Moves system action next := by
  cases action with
  | publish loop key fields seq targets =>
    rw [step] at hstep
    split at hstep
    · next hpossible =>
      cases hstep
      exact .publish rfl hpossible.2
    · contradiction
  | subscribe loop key queue afterSeq =>
    rw [step] at hstep
    split at hstep
    · next hpossible =>
      cases hstep
      exact .subscribe hpossible.2
    · contradiction
  | snapshot index =>
    rw [step] at hstep
    split at hstep
    · next call hcall =>
      split at hstep
      · next key queue afterSeq hstage =>
        cases hstep
        exact .snapshot hcall hstage
      · contradiction
    · contradiction
  | deliver index =>
    rw [step] at hstep
    split at hstep
    · next call hcall =>
      split at hstep
      · next delivery rest hstage =>
        cases hstep
        unfold deliver
        split
        · next hdirect =>
          split
          · next hgone => exact .skip hcall hstage hgone
          · next count hcount => exact .start hcall hstage hdirect hcount
        · next hother =>
          split
          · exact .schedule hcall hstage
          · next hnone => exact absurd (Or.inl hnone) hother
      · contradiction
    · contradiction
  | refuse index =>
    rw [step] at hstep
    split at hstep
    · next call hcall =>
      split at hstep
      · next delivery rest hstage =>
        split at hstep
        · contradiction
        · cases hstep
          exact .refuse hcall hstage
      · contradiction
    · contradiction
  | put index =>
    rw [step] at hstep
    split at hstep
    · next call hcall =>
      split at hstep
      · next delivery rest hstage =>
        cases hstep
        split
        · next hfull =>
          rw [TaskLogBroadcaster.put, if_pos hfull]
          exact .lose hcall hstage hfull
        · next hroom => exact .put hcall hstage (Bool.eq_false_iff.2 hroom)
      · contradiction
    · contradiction
  | callback loop =>
    rw [step] at hstep
    split at hstep
    · next callback delivery hfind =>
      split at hstep
      · cases hstep
        obtain ⟨hloop, before, after, hready, hbefore⟩ := List.find?_eq_some_iff_append.1 hfind
        obtain rfl := of_decide_eq_true hloop
        have hrest : (system.ready.eraseP fun other => other.1 = callback) = before ++ after := by
          rw [hready, List.eraseP_append_right _ (by simpa using hbefore),
            List.eraseP_cons_of_pos (by simp)]
        rw [hrest]
        exact .callback hready
      · contradiction
    · contradiction
  | unsubscribe key queue =>
    cases hstep
    exact .unsubscribe
  | read queue =>
    rw [step] at hstep
    split at hstep
    · next event rest hwaiting =>
      cases hstep
      exact .read hwaiting
    · contradiction
  | clearStream key =>
    cases hstep
    exact .clearStream

end System

end SignPulse.LogBroadcaster
