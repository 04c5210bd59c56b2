import Mathlib.Data.Rat.Init
import Mathlib.Data.Int.Order.Basic
import Mathlib.Logic.Function.Iterate
import SignPulse.Foundation.Dict
import SignPulse.Foundation.StepRun

/-!
# The semantic service

`SemanticService` of `semantic/service.py`: what `evaluate` counts before it awaits the semaphore,
and the client calls that follow.  A step is what a task does between two points at which the event
loop can switch.
-/

namespace SignPulse.SemanticCalls

open Foundation

/-! ## The budgets -/

structure SemanticService where
  maxCallsPerRun : ℤ := 6
  maxCallsPerMinute : ℤ := 60
  runCallCounts : Dict String ℕ := []
  minuteWindow : List ℚ := []

namespace SemanticService

/-- `finish_run`. -/
def finishRun (service : SemanticService) (runId : String) : SemanticService :=
  { service with runCallCounts := service.runCallCounts.popItem runId }

def runCalls (service : SemanticService) (runId : String) : ℕ :=
  (service.runCallCounts.getItem runId).getD 0

/-- `_check_rate_limits`. -/
def checkRateLimits (service : SemanticService) (runId : String) (now : ℚ) :
    SemanticService × Option String :=
  if 0 < service.maxCallsPerRun ∧ service.maxCallsPerRun ≤ service.runCalls runId then
    (service, some "RUN_BUDGET_EXCEEDED")
  else if 0 < service.maxCallsPerMinute then
    let minuteWindow := service.minuteWindow.filter fun time => now - time < 60
    ({ service with minuteWindow },
      if service.maxCallsPerMinute ≤ minuteWindow.length then some "MINUTE_BUDGET_EXCEEDED"
      else none)
  else (service, none)

/-- The counters that are kept when there are many: those of the run ids that came last. -/
def keptCounts (service : SemanticService) : Dict String ℕ :=
  if 2000 < service.runCallCounts.length then
    service.runCallCounts.drop (service.runCallCounts.length - 1000)
  else service.runCallCounts

/-- `_consume_call`. -/
def consumeCall (service : SemanticService) (runId : String) (now : ℚ) : SemanticService :=
  { service with
    runCallCounts :=
      if 0 < service.maxCallsPerRun then
        service.keptCounts.setItem runId ((service.keptCounts.getItem runId).getD 0 + 1)
      else service.runCallCounts
    minuteWindow :=
      if 0 < service.maxCallsPerMinute then service.minuteWindow ++ [now]
      else service.minuteWindow }

/-- What `evaluate` does before its first await: the reason code of its decision, where it does not
get to the client.  It reads the clock up to three times. -/
def beginCall (service : SemanticService) (runId : String) (deadline checked compared consumed : ℚ) :
    SemanticService × Option String :=
  match service.checkRateLimits runId checked with
  | (service, some reasonCode) => (service, some reasonCode)
  | (service, none) =>
    if deadline ≤ compared then (service, some "DEADLINE_EXCEEDED")
    else (service.consumeCall runId consumed, none)

end SemanticService

/-! ## The semaphore -/

/-- An evaluation that waits for the semaphore, or has been given a slot and not gone on yet. -/
structure Waiter where
  runId : String
  /-- When the call was consumed. -/
  consumed : ℚ
  granted : Bool := false
  deriving DecidableEq

/-- `asyncio.Semaphore`. -/
structure Semaphore where
  value : ℕ
  waiters : List Waiter := []
  deriving DecidableEq

def grantFirst : List Waiter → Option (List Waiter)
  | [] => none
  | waiter :: rest =>
    if waiter.granted then (grantFirst rest).map (waiter :: ·)
    else some ({ waiter with granted := true } :: rest)

namespace Semaphore

/-- It can be acquired without waiting. -/
def isFree (semaphore : Semaphore) : Bool :=
  0 < semaphore.value && semaphore.waiters.isEmpty

/-- `_wake_up_next`. -/
def wakeUpNext (semaphore : Semaphore) : Semaphore :=
  match grantFirst semaphore.waiters with
  | some waiters => { value := semaphore.value - 1, waiters }
  | none => semaphore

def release (semaphore : Semaphore) : Semaphore :=
  { semaphore with value := semaphore.value + 1 }.wakeUpNext

/-- The end of `acquire`, of an evaluation that has waited: the free slots go to others. -/
def leave (semaphore : Semaphore) (index : ℕ) (returned : ℕ) : Semaphore :=
  let left : Semaphore :=
    { value := semaphore.value + returned, waiters := semaphore.waiters.eraseIdx index }
  wakeUpNext^[left.value] left

end Semaphore

/-! ## Client calls -/

inductive Event where
  /-- `client.query_choice` is called. -/
  | called (runId : String) (time : ℚ)
  | finished (runId : String)

def callsSinceFinish (runId : String) : List Event → ℕ
  | [] => 0
  | .called other _ :: rest =>
    if other = runId then callsSinceFinish runId rest + 1 else callsSinceFinish runId rest
  | .finished other :: rest => if other = runId then 0 else callsSinceFinish runId rest

def Event.callTime? : Event → Option ℚ
  | .called _ time => some time
  | .finished _ => none

structure System where
  service : SemanticService
  semaphore : Semaphore
  clock : ℚ
  /-- The client calls that have not ended. -/
  running : ℕ := 0
  events : List Event := []

inductive Action where
  /-- `evaluate` is called. -/
  | evaluate (runId : String) (deadline checked compared consumed : ℚ)
  /-- An evaluation that was given a slot goes on. -/
  | resume (index : ℕ) (time : ℚ)
  /-- An evaluation is cancelled while it waits. -/
  | cancel (index : ℕ)
  /-- A client call returns, raises or is cancelled. -/
  | answered
  | finishRun (runId : String)

namespace System

def fresh (maxConcurrency : ℕ) (maxCallsPerRun maxCallsPerMinute : ℤ) (clock : ℚ) : System where
  service := { maxCallsPerRun, maxCallsPerMinute }
  semaphore := { value := maxConcurrency }
  clock := clock

def call (system : System) (runId : String) (time : ℚ) : System :=
  { system with
    clock := time
    running := system.running + 1
    events := .called runId time :: system.events }

/-- The evaluation acquires the semaphore, or waits for it. -/
def acquire (system : System) (runId : String) (time : ℚ) : System :=
  if system.semaphore.isFree then
    { system with semaphore := { system.semaphore with value := system.semaphore.value - 1 } }.call
      runId time
  else
    { system with
      clock := time
      semaphore :=
        { system.semaphore with
          waiters := system.semaphore.waiters ++ [{ runId, consumed := time }] } }

def step (system : System) : Action → Option System
  | .evaluate runId deadline checked compared consumed =>
    if system.clock ≤ checked ∧ checked ≤ compared ∧ compared ≤ consumed then
      match system.service.beginCall runId deadline checked compared consumed with
      | (service, some _) => some { system with service, clock := consumed }
      | (service, none) => some ({ system with service }.acquire runId consumed)
    else none
  | .resume index time =>
    match system.semaphore.waiters[index]? with
    | some waiter =>
      if waiter.granted ∧ system.clock ≤ time then
        some ({ system with semaphore := system.semaphore.leave index 0 }.call waiter.runId time)
      else none
    | none => none
  | .cancel index =>
    match system.semaphore.waiters[index]? with
    | some waiter =>
      some { system with
        semaphore := system.semaphore.leave index (if waiter.granted then 1 else 0) }
    | none => none
  | .answered =>
    if 0 < system.running then
      some { system with semaphore := system.semaphore.release, running := system.running - 1 }
    else none
  | .finishRun runId =>
    some { system with
      service := system.service.finishRun runId
      events := .finished runId :: system.events }

/-- The client calls from a time on, for less than a minute. -/
def callsInMinute (system : System) (first : ℚ) : List ℚ :=
  (system.events.filterMap Event.callTime?).filter fun time => first ≤ time ∧ time < first + 60

end System

end SignPulse.SemanticCalls
