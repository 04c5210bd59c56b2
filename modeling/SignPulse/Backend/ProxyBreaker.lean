import Mathlib.Algebra.Order.Field.Rat
import SignPulse.Foundation.History
import SignPulse.Foundation.StepRun

/-!
# The circuit breaker of a proxy

`ProxyCircuitBreaker` of `proxy_circuit_breaker.py`, for one proxy: the record that all
processes share, the lease of the half-open probe, and the tasks that query and report.
Each read, each write and each acquisition of the lease is a step of its own; the file
operations succeed.
-/

namespace SignPulse.ProxyBreaker

open Foundation

inductive CircuitState where
  | healthy | degraded | tripped | halfOpen
  deriving DecidableEq, Repr

/-- A record of the shared file, and of `_states`, `_fail_counts` and `_tripped_at`. -/
structure Entry where
  state : CircuitState := .healthy
  failCount : ℕ := 0
  trippedAt : ℚ := 0
  deriving DecidableEq, Repr

/-- The change of `record_failure`, with the time that it has read. -/
def recordFailure (now : ℚ) (entry : Entry) : Entry :=
  let count := entry.failCount + 1
  if count ≥ 3 then { state := .tripped, failCount := count, trippedAt := now }
  else if count ≥ 2 then { entry with state := .degraded, failCount := count }
  else { entry with state := .healthy, failCount := count }

/-! ## Tasks -/

/-- What `get_state` is called for: as such, by `is_available`, or in its loop, with the turns
that are left. -/
inductive Caller where
  | query
  | available
  | poll (turns : ℕ)
  deriving DecidableEq, Repr

/-- How far a task has got. -/
inductive Stage where
  | idle
  /-- `get_state` has read that the breaker is tripped. -/
  | tripped (caller : Caller) (entry : Entry)
  /-- `get_state` has found the cooldown over. -/
  | expired (caller : Caller) (entry : Entry)
  /-- `is_available` goes for the lease. -/
  | halfOpen
  /-- `is_available` waits for the probe of another task. -/
  | polling (turns : ℕ)
  /-- The probe is under way. -/
  | probing
  /-- The probe has failed, and `record_failure` has read the clock. -/
  | probeFailed (now : ℚ)
  /-- The probe has succeeded. -/
  | probeSucceeded
  /-- The lease is to be released, with the answer of `is_available`. -/
  | releasing (answer : Bool)
  /-- `record_failure`, called from elsewhere, has read the clock. -/
  | reporting (now : ℚ)
  deriving DecidableEq, Repr

def Stage.holdsLease : Stage → Bool
  | .probing => true
  | .probeFailed _ => true
  | .probeSucceeded => true
  | .releasing _ => true
  | _ => false

/-- What is observed, and when. -/
inductive Event where
  /-- The `record_failure` of a probe, with the time that it has read. -/
  | probeFailed (now : ℚ)
  /-- `get_state` returns `HALF_OPEN`. -/
  | sawHalfOpen (now : ℚ)
  | probeStarted (now : ℚ)
  /-- `is_available` returns true. -/
  | letThrough (now : ℚ)
  deriving DecidableEq, Repr

structure System where
  clock : ℚ := 0
  shared : Option Entry := none
  /-- What each task's process knows of the record itself. -/
  known : ℕ → Entry := fun _ => {}
  stage : ℕ → Stage := fun _ => .idle
  /-- The task that holds the file lock of the lease. -/
  holder : Option ℕ := none
  history : List Event := []

inductive ProbeResult where
  | success | failure | cancelled
  deriving DecidableEq, Repr

inductive Action where
  | wait (seconds : ℚ)
  /-- `get_state` reads the record. -/
  | read (task : ℕ) (caller : Caller)
  /-- `get_state` compares the clock. -/
  | check (task : ℕ)
  /-- `get_state` writes `HALF_OPEN`. -/
  | write (task : ℕ)
  | acquire (task : ℕ)
  | probe (task : ℕ) (result : ProbeResult)
  /-- The verdict of a probe is recorded. -/
  | verdict (task : ℕ)
  | release (task : ℕ)
  /-- `record_failure` is called from elsewhere, and then changes the record. -/
  | fail (task : ℕ)
  | report (task : ℕ)
  /-- `record_success` is called from elsewhere. -/
  | succeed (task : ℕ)
  | crash (task : ℕ)
  deriving DecidableEq, Repr

namespace System

def setStage (system : System) (task : ℕ) (stage : Stage) : System :=
  { system with stage := Function.update system.stage task stage }

def observe (system : System) (event : ℚ → Event) : System :=
  { system with history := system.history ++ [event system.clock] }

def setShared (system : System) (entry : Entry) : System :=
  { system with shared := some entry }

def know (system : System) (task : ℕ) (entry : Entry) : System :=
  { system with known := Function.update system.known task entry }

/-- What the caller of `get_state` does with another state than `TRIPPED`. -/
def answer (system : System) (task : ℕ) : Caller → CircuitState → System
  | .query, .halfOpen => (system.observe .sawHalfOpen).setStage task .idle
  | .query, _ => system.setStage task .idle
  | .available, .halfOpen => (system.observe .sawHalfOpen).setStage task .halfOpen
  | .available, _ => (system.observe .letThrough).setStage task .idle
  | .poll turns, .halfOpen =>
    (system.observe .sawHalfOpen).setStage task (if turns = 0 then .idle else .polling turns)
  | .poll _, _ => (system.observe .letThrough).setStage task .idle

/-- The stage from which `get_state` is called. -/
def mayCall : Caller → Stage → Prop
  | .query, stage => stage = .idle
  | .available, stage => stage = .idle
  | .poll turns, stage => stage = .polling (turns + 1)

instance (caller : Caller) (stage : Stage) : Decidable (mayCall caller stage) := by
  cases caller with
  | query => exact inferInstanceAs (Decidable (_ = _))
  | available => exact inferInstanceAs (Decidable (_ = _))
  | poll turns => exact inferInstanceAs (Decidable (_ = _))

/-- One step, where it is possible. -/
def act (cooldown : ℚ) (system : System) : Action → Option System
  | .wait seconds =>
    if 0 ≤ seconds then some { system with clock := system.clock + seconds } else none
  | .read task caller =>
    if mayCall caller (system.stage task) then
      let entry := system.shared.getD (system.known task)
      let aware := system.know task entry
      some
        (match entry.state with
        | .tripped => aware.setStage task (.tripped caller entry)
        | state => aware.answer task caller state)
    else none
  | .check task =>
    match system.stage task with
    | .tripped caller entry =>
      some
        (if cooldown < system.clock - entry.trippedAt then
          system.setStage task (.expired caller entry)
        else system.setStage task .idle)
    | _ => none
  | .write task =>
    match system.stage task with
    | .expired caller entry =>
      let opened := { entry with state := .halfOpen }
      some (((system.setShared opened).know task opened).answer task caller .halfOpen)
    | _ => none
  | .acquire task =>
    match system.stage task, system.holder with
    | .halfOpen, none =>
      some
        (({ system with holder := some task }.observe .probeStarted).setStage task .probing)
    | .halfOpen, some _ => some (system.setStage task (.polling 40))
    | _, _ => none
  | .probe task result =>
    match system.stage task with
    | .probing =>
      some
        (system.setStage task
          (match result with
          | .success => .probeSucceeded
          | .failure => .probeFailed system.clock
          | .cancelled => .releasing false))
    | _ => none
  | .verdict task =>
    match system.stage task with
    | .probeFailed now =>
      let failed := recordFailure now (system.shared.getD {})
      let recorded := (system.setShared failed).know task failed
      some
        ({ recorded with history := system.history ++ [Event.probeFailed now] }.setStage
          task (.releasing false))
    | .probeSucceeded =>
      some (((system.setShared {}).know task {}).setStage task (.releasing true))
    | _ => none
  | .release task =>
    match system.stage task with
    | .releasing true =>
      some (({ system with holder := none }.observe .letThrough).setStage task .idle)
    | .releasing false => some ({ system with holder := none }.setStage task .idle)
    | _ => none
  | .fail task =>
    if system.stage task = .idle then
      some (system.setStage task (.reporting system.clock))
    else none
  | .report task =>
    match system.stage task with
    | .reporting now =>
      let failed := recordFailure now (system.shared.getD {})
      some (((system.setShared failed).know task failed).setStage task .idle)
    | _ => none
  | .succeed task =>
    if system.stage task = .idle then some ((system.setShared {}).know task {}) else none
  | .crash task =>
    some
      ({ system with
        holder := if (system.stage task).holdsLease then none else system.holder }.setStage
          task .idle)

end System

end SignPulse.ProxyBreaker
