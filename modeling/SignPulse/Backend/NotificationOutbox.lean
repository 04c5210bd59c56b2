import Mathlib.Algebra.Order.Ring.Unbundled.Rat
import SignPulse.Foundation.KeyedTable
import SignPulse.Foundation.History
import SignPulse.Foundation.StepRun
import SignPulse.Flow.FlowModels

/-!
# The notification outbox

`NotificationOutbox` of `notification_outbox.py`: one table of receipts that any number of
workers read and change, each by transactions of its own.  A delivery is a transaction
that claims the receipt, the call of the sender and a transaction that stores how it
ended; anything may happen in between, and a worker may crash at any time.
-/

namespace SignPulse.NotificationOutbox

open Foundation
open FlowModels (PyError)

inductive DeliveryState where
  | pending | sent | unknown | failed
  deriving DecidableEq, Repr

structure NotificationEnvelope where
  notificationId : String
  eventType : String
  accountName : String
  taskName : String
  runId : String
  payloadHash : String
  attempt : ℤ := 0
  state : DeliveryState := .pending
  aggregateStatus : String := ""
  deriving DecidableEq, Repr

/-- The primary key `(notification_id, channel)`. -/
abbrev Key := String × String

/-- The other columns of `notification_outbox`. -/
structure Receipt where
  eventType : String
  accountName : String
  taskName : String
  runId : String
  payloadHash : String
  aggregateStatus : String
  attempt : ℕ := 0
  state : DeliveryState
  errorCode : String := ""
  createdAt : ℚ
  updatedAt : ℚ
  deriving DecidableEq, Repr

abbrev Table := KeyedTable Key Receipt

structure Outbox where
  maxRecords : ℤ
  retentionSeconds : ℚ
  deriving DecidableEq, Repr

/-- `NotificationOutbox.__init__`. -/
def Outbox.create (maxRecords : ℤ := 10000) (retentionSeconds : ℚ := 30 * 86400) : Outbox where
  maxRecords := max 1 maxRecords
  retentionSeconds := max 0 retentionSeconds

/-! ## Transactions -/

def NotificationEnvelope.fields (envelope : NotificationEnvelope) (channel : String) :
    List String :=
  [envelope.notificationId, channel, envelope.eventType, envelope.accountName,
    envelope.taskName, envelope.runId, envelope.payloadHash, envelope.aggregateStatus]

def NotificationEnvelope.receipt (envelope : NotificationEnvelope) (now : ℚ) : Receipt where
  eventType := envelope.eventType
  accountName := envelope.accountName
  taskName := envelope.taskName
  runId := envelope.runId
  payloadHash := envelope.payloadHash
  aggregateStatus := envelope.aggregateStatus
  state := .pending
  createdAt := now
  updatedAt := now

/-- A receipt that `enqueue_notification` deletes. -/
def Outbox.isExpired (outbox : Outbox) (now : ℚ) (receipt : Receipt) : Bool :=
  (receipt.state == .sent || receipt.state == .failed) &&
    decide (receipt.updatedAt < now - outbox.retentionSeconds)

/-- `enqueue_notification`: the receipt that there is, or none and the table with the new
one, which the caller then reads by `get`. -/
def Outbox.enqueueNotification (outbox : Outbox) (table : Table)
    (envelope : NotificationEnvelope) (channel : String) (now : ℚ) :
    Except PyError (Option Receipt × Table) :=
  if envelope.state ≠ .pending ∨ envelope.attempt ≠ 0 then
    .error { name := "ValueError", message := "New envelopes must be pending and unattempted" }
  else if (envelope.fields channel).any fun field => decide (256 < field.length) then
    .error { name := "ValueError", message := "Notification metadata exceeds its size limit" }
  else
    match table.select (envelope.notificationId, channel) with
    | some existing => .ok (some existing, table)
    | none =>
      let kept := table.retain fun receipt => !outbox.isExpired now receipt
      if (kept.rows.length : ℤ) ≥ outbox.maxRecords then
        .error
          { name := "RuntimeError"
            message := "Notification outbox capacity reached; " ++
              "reconcile unresolved records or wait for retention" }
      else
        .ok (none, kept.insert (envelope.notificationId, channel) (envelope.receipt now))

def notEnqueued : PyError :=
  { name := "KeyError", message := "Notification not enqueued" }

/-- The first transaction of `deliver_notification`: the state that sends the caller away,
or none and the table with the claimed receipt. -/
def claim (table : Table) (key : Key) (now : ℚ) : Except PyError (Option DeliveryState × Table) :=
  match table.select key with
  | none => .error notEnqueued
  | some receipt =>
    if receipt.state ≠ .pending then .ok (some receipt.state, table)
    else
      .ok
        (none, table.update key fun receipt =>
          { receipt with
            state := .unknown
            attempt := receipt.attempt + 1
            updatedAt := now })

/-- What the sender may raise. -/
inductive SendError where
  | connectError | connectTimeout | poolTimeout
  | httpStatusError (statusCode : ℤ)
  | other (name : String)
  deriving DecidableEq, Repr

/-- How the call of the sender ends; `cancelled` passes every `except Exception`. -/
inductive SendResult where
  | returned
  | raised (error : SendError)
  | cancelled
  deriving DecidableEq, Repr

/-- The `except` clause of `deliver_notification`: the state and the error code. -/
def SendError.outcome : SendError → DeliveryState × String
  | .connectError => (.failed, "ConnectError")
  | .connectTimeout => (.failed, "ConnectTimeout")
  | .poolTimeout => (.failed, "PoolTimeout")
  | .httpStatusError statusCode =>
    (if statusCode < 500 then .failed else .unknown, s!"HTTP_{statusCode}")
  | .other name => (.unknown, name)

/-- What the second transaction stores, if there is one. -/
def SendResult.outcome : SendResult → Option (DeliveryState × String)
  | .returned => some (.sent, "")
  | .raised error => some error.outcome
  | .cancelled => none

/-- The second transaction of `deliver_notification`. -/
def settle (table : Table) (key : Key) (outcome : DeliveryState × String) (now : ℚ) : Table :=
  table.update key fun receipt =>
    { receipt with state := outcome.1, errorCode := outcome.2, updatedAt := now }

/-- `reconcile_notification`. -/
def reconcileNotification (table : Table) (key : Key)
    (confirmedNotDelivered confirmedDelivered : Bool) (now : ℚ) : Except PyError Table :=
  if confirmedNotDelivered = confirmedDelivered then
    .error { name := "ValueError", message := "Provide exactly one confirmed delivery outcome" }
  else
    match table.select key with
    | none => .error notEnqueued
    | some receipt =>
      if receipt.state = .sent ∧ confirmedNotDelivered = true then
        .error
          { name := "ValueError", message := "A sent receipt cannot be automatically replayed" }
      else
        .ok
          (table.update key fun receipt =>
            { receipt with
              state := if confirmedNotDelivered then .pending else .sent
              errorCode := "reconciled"
              updatedAt := now })

/-! ## Workers -/

/-- How far a delivery has got: past its claim, past the call of the sender, over. -/
inductive Stage where
  | claimed | sending | over
  deriving DecidableEq, Repr

structure Worker where
  key : Key
  stage : Stage := .claimed
  deriving DecidableEq, Repr

/-- What has happened, with the state that is stored when it has. -/
inductive Event where
  | expired (key : Key)
  | claimed (worker : ℕ) (key : Key) (stored : Option DeliveryState)
  | invoked (worker : ℕ) (key : Key) (stored : Option DeliveryState)
  | reconciled (key : Key) (notDelivered : Bool)
  deriving DecidableEq, Repr

structure System where
  table : Table := .empty
  /-- The deliveries that have claimed their receipt. -/
  workers : List Worker := []
  history : List Event := []

namespace System

/-- The committed state of a receipt. -/
def stored (system : System) (key : Key) : Option DeliveryState :=
  (system.table.select key).map Receipt.state

def deleted (before after : Table) : List Key :=
  (Dict.keyList before.rows).filter fun key => (after.select key).isNone

/-- A transaction that raises is rolled back. -/
def enqueue (outbox : Outbox) (system : System) (envelope : NotificationEnvelope)
    (channel : String) (now : ℚ) : System :=
  match outbox.enqueueNotification system.table envelope channel now with
  | .error _ => system
  | .ok (_, table) =>
    { system with
      table
      history := system.history ++ (deleted system.table table).map .expired }

def deliver (system : System) (key : Key) (now : ℚ) : System :=
  match NotificationOutbox.claim system.table key now with
  | .error _ => system
  | .ok (some _, _) => system
  | .ok (none, table) =>
    { table
      workers := system.workers ++ [{ key }]
      history := system.history ++
        [.claimed system.workers.length key ((table.select key).map Receipt.state)] }

def reconcile (system : System) (key : Key) (confirmedNotDelivered confirmedDelivered : Bool)
    (now : ℚ) : System :=
  match reconcileNotification system.table key confirmedNotDelivered confirmedDelivered now with
  | .error _ => system
  | .ok table =>
    { system with
      table, history := system.history ++ [.reconciled key confirmedNotDelivered] }

def setStage (system : System) (worker : ℕ) (record : Worker) (stage : Stage) : System :=
  { system with workers := system.workers.set worker { record with stage } }

def invoke (system : System) (worker : ℕ) (record : Worker) : System :=
  { system.setStage worker record .sending with
    history := system.history ++ [.invoked worker record.key (system.stored record.key)] }

/-- The call of the sender is over, and its outcome is stored. -/
def finish (system : System) (worker : ℕ) (record : Worker) (result : SendResult) (now : ℚ) :
    System :=
  let ended := system.setStage worker record .over
  match result.outcome with
  | some outcome => { ended with table := settle system.table record.key outcome now }
  | none => ended

end System

inductive Action where
  | enqueue (envelope : NotificationEnvelope) (channel : String) (now : ℚ)
  | deliver (key : Key) (now : ℚ)
  | invoke (worker : ℕ)
  | finish (worker : ℕ) (result : SendResult) (now : ℚ)
  | reconcile (key : Key) (confirmedNotDelivered confirmedDelivered : Bool) (now : ℚ)
  /-- The process of a worker crashes. -/
  | crash (worker : ℕ)
  deriving DecidableEq, Repr

namespace System

/-- The record of a worker that has got as far as `stage`. -/
def workerAt (system : System) (worker : ℕ) (stage : Stage) : Option Worker :=
  (system.workers[worker]?).filter fun record => record.stage == stage

def act (outbox : Outbox) (system : System) : Action → Option System
  | .enqueue envelope channel now => some (system.enqueue outbox envelope channel now)
  | .deliver key now => some (system.deliver key now)
  | .invoke worker =>
    (system.workerAt worker .claimed).map fun record => system.invoke worker record
  | .finish worker result now =>
    (system.workerAt worker .sending).map fun record =>
      system.finish worker record result now
  | .reconcile key confirmedNotDelivered confirmedDelivered now =>
    some (system.reconcile key confirmedNotDelivered confirmedDelivered now)
  | .crash worker =>
    (system.workers[worker]?).map fun record => system.setStage worker record .over

/-- Runs of any actions in any order. -/
abbrev Run (outbox : Outbox) := StepRun (act outbox) fun _ _ => True

end System

end SignPulse.NotificationOutbox
