import Mathlib.Algebra.Order.Field.Rat

/-!
# The breaker of the semantic client

`CircuitBreaker` and `ProbeLease` of `semantic/breaker.py`.  Every operation reads the clock once.
-/

namespace SignPulse.JevClient

inductive BreakerState where
  | closed | «open» | halfOpen
  deriving DecidableEq, Repr

structure CircuitBreaker where
  failureThreshold : ℕ := 5
  recoveryTimeout : ℚ := 60
  consecutiveFailures : ℕ := 0
  lastFailureTime : ℚ := 0
  state : BreakerState := .closed
  generation : ℕ := 0
  probeInFlight : Bool := false
  deriving DecidableEq

structure ProbeLease where
  allowed : Bool
  generation : ℕ
  isProbe : Bool
  finished : Bool := false
  deriving DecidableEq

namespace CircuitBreaker

def getState (breaker : CircuitBreaker) (now : ℚ) : BreakerState :=
  if breaker.state = .open ∧ breaker.recoveryTimeout ≤ now - breaker.lastFailureTime then .halfOpen
  else breaker.state

def acquire (breaker : CircuitBreaker) (now : ℚ) : CircuitBreaker × ProbeLease :=
  let lease (allowed isProbe : Bool) : ProbeLease :=
    { allowed, generation := breaker.generation, isProbe }
  match breaker.getState now with
  | .closed => (breaker, lease true false)
  | .halfOpen =>
    if breaker.probeInFlight then (breaker, lease false false)
    else ({ breaker with probeInFlight := true, state := .halfOpen }, lease true true)
  | .open => (breaker, lease false false)

/-- `record_success`, with the generation of the lease. -/
def recordSuccess (breaker : CircuitBreaker) (generation : ℕ) (isProbe : Bool) (now : ℚ) :
    CircuitBreaker :=
  if generation ≠ breaker.generation then breaker
  else
    match breaker.getState now with
    | .halfOpen =>
      if isProbe then
        { breaker with consecutiveFailures := 0, state := .closed, probeInFlight := false }
      else { breaker with state := .halfOpen }
    | .closed => { breaker with consecutiveFailures := 0, probeInFlight := false }
    | .open => breaker

/-- `record_failure`, with the generation of the lease. -/
def recordFailure (breaker : CircuitBreaker) (generation : ℕ) (isProbe : Bool) (now : ℚ) :
    CircuitBreaker :=
  if generation ≠ breaker.generation then breaker
  else
    let state := breaker.getState now
    let failures := breaker.consecutiveFailures + 1
    if state = .halfOpen ∨ breaker.failureThreshold ≤ failures then
      { breaker with
        consecutiveFailures := failures
        lastFailureTime := now
        state := .open
        generation := breaker.generation + 1
        probeInFlight := false }
    else
      { breaker with
        consecutiveFailures := failures
        lastFailureTime := now
        probeInFlight := !isProbe && breaker.probeInFlight }

/-- `release_probe`, with the generation of the lease. -/
def releaseProbe (breaker : CircuitBreaker) (generation : ℕ) (isProbe : Bool) : CircuitBreaker :=
  if generation = breaker.generation ∧ isProbe then { breaker with probeInFlight := false }
  else breaker

end CircuitBreaker

namespace ProbeLease

/-- A lease does to its breaker what it is told first, and nothing afterwards. -/
def finish (lease : ProbeLease) (breaker : CircuitBreaker)
    (report : CircuitBreaker → ℕ → Bool → CircuitBreaker) : ProbeLease × CircuitBreaker :=
  if lease.finished then (lease, breaker)
  else ({ lease with finished := true }, report breaker lease.generation lease.isProbe)

def recordSuccess (lease : ProbeLease) (breaker : CircuitBreaker) (now : ℚ) :
    ProbeLease × CircuitBreaker :=
  lease.finish breaker fun breaker generation isProbe =>
    breaker.recordSuccess generation isProbe now

def recordFailure (lease : ProbeLease) (breaker : CircuitBreaker) (now : ℚ) :
    ProbeLease × CircuitBreaker :=
  lease.finish breaker fun breaker generation isProbe =>
    breaker.recordFailure generation isProbe now

def release (lease : ProbeLease) (breaker : CircuitBreaker) : ProbeLease × CircuitBreaker :=
  lease.finish breaker CircuitBreaker.releaseProbe

variable {lease : ProbeLease} {breaker : CircuitBreaker}
variable {report : CircuitBreaker → ℕ → Bool → CircuitBreaker}

theorem finished_finish : (lease.finish breaker report).1.finished = true := by
  unfold finish
  split
  next hfinished => exact hfinished
  · rfl

end ProbeLease

end SignPulse.JevClient
