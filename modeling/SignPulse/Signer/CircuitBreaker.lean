import Mathlib.Algebra.Order.Field.Rat
import SignPulse.Foundation.StepRun

/-!
# The circuit breaker of the semantic service

`CircuitBreaker` and `ProbeLease` of `breaker.py`.  A lease outlives the state in which
it was given out, so its verdict may arrive in any later one; it counts only in the
generation of the lease.  The leases that were given out are kept in a list next to the
breaker, in the order of their acquisition, and the clock shows any time at any step.
-/

namespace SignPulse.CircuitBreaker

open Foundation

/-- The values of `state`. -/
inductive BreakerState where
  | closed | opened | halfOpen
  deriving DecidableEq, Repr

structure ProbeLease where
  allowed : Bool
  generation : ℕ
  isProbe : Bool
  finished : Bool := false
  deriving DecidableEq, Repr

structure Breaker where
  failureThreshold : ℤ
  recoveryTimeout : ℚ
  consecutiveFailures : ℕ := 0
  lastFailureTime : ℚ := 0
  state : BreakerState := .closed
  generation : ℕ := 0
  /-- `_probe_in_flight`. -/
  probeInFlight : Bool := false
  deriving DecidableEq, Repr

namespace Breaker

/-- `CircuitBreaker.__init__`. -/
def create (failureThreshold : ℤ := 5) (recoveryTimeout : ℚ := 60) : Breaker where
  failureThreshold := max 1 failureThreshold
  recoveryTimeout := max (1 / 10) recoveryTimeout

/-- `get_state`. -/
def getState (breaker : Breaker) (now : ℚ) : BreakerState :=
  if breaker.state = .opened then
    if now - breaker.lastFailureTime ≥ breaker.recoveryTimeout then .halfOpen
    else breaker.state
  else breaker.state

/-- A lease of the generation, as `acquire` gives it out. -/
def lease (breaker : Breaker) (allowed isProbe : Bool) : ProbeLease :=
  { allowed, generation := breaker.generation, isProbe }

/-- `acquire`. -/
def acquire (breaker : Breaker) (now : ℚ) : ProbeLease × Breaker :=
  match breaker.getState now with
  | .closed => (breaker.lease true false, breaker)
  | .halfOpen =>
    if breaker.probeInFlight = false then
      (breaker.lease true true, { breaker with probeInFlight := true, state := .halfOpen })
    else (breaker.lease false false, breaker)
  | .opened => (breaker.lease false false, breaker)

/-- A report that names another generation. -/
def isForeign (breaker : Breaker) (requestGeneration : Option ℕ) : Bool :=
  requestGeneration.any fun generation => generation != breaker.generation

/-- The part of `record_success` that follows its check of an open breaker. -/
def applySuccess (breaker : Breaker) (requestGeneration : Option ℕ) (isProbe : Bool)
    (now : ℚ) : Breaker :=
  if breaker.getState now = .halfOpen ∨ breaker.state = .halfOpen then
    if isProbe = true ∨ requestGeneration = none then
      { breaker with consecutiveFailures := 0, state := .closed, probeInFlight := false }
    else breaker
  else if breaker.getState now = .closed then
    { breaker with consecutiveFailures := 0, probeInFlight := false }
  else breaker

/-- `record_success`.  It looks at the clock while the breaker is open only, and then
once. -/
def recordSuccess (breaker : Breaker) (requestGeneration : Option ℕ) (isProbe : Bool)
    (now : ℚ) : Breaker :=
  if breaker.isForeign requestGeneration then breaker
  else if breaker.state = .opened then
    if breaker.getState now = .halfOpen then
      ({ breaker with state := .halfOpen } : Breaker).applySuccess requestGeneration isProbe now
    else breaker
  else breaker.applySuccess requestGeneration isProbe now

/-- `record_failure`. -/
def recordFailure (breaker : Breaker) (requestGeneration : Option ℕ) (isProbe : Bool)
    (now : ℚ) : Breaker :=
  if breaker.isForeign requestGeneration then breaker
  else
    let currState := breaker.getState now
    let failures := breaker.consecutiveFailures + 1
    let counted : Breaker :=
      { breaker with
        consecutiveFailures := failures
        lastFailureTime := now
        probeInFlight :=
          if isProbe = true ∨ currState = .halfOpen then false else breaker.probeInFlight }
    if currState = .halfOpen ∨ (failures : ℤ) ≥ breaker.failureThreshold then
      { counted with
        state := .opened
        generation := breaker.generation + 1
        probeInFlight := false }
    else counted

/-- `release_probe`. -/
def releaseProbe (breaker : Breaker) (requestGeneration : Option ℕ) (isProbe : Bool) : Breaker :=
  if breaker.isForeign requestGeneration then breaker
  else if isProbe then { breaker with probeInFlight := false }
  else breaker

end Breaker

/-- What a holder makes of its lease. -/
inductive Verdict where
  | success (now : ℚ)
  | failure (now : ℚ)
  | release
  deriving DecidableEq, Repr

namespace ProbeLease

def report (lease : ProbeLease) (breaker : Breaker) : Verdict → Breaker
  | .success now => breaker.recordSuccess (some lease.generation) lease.isProbe now
  | .failure now => breaker.recordFailure (some lease.generation) lease.isProbe now
  | .release => breaker.releaseProbe (some lease.generation) lease.isProbe

/-- `ProbeLease.record_success`, `record_failure` and `release`: a lease reports once. -/
def finish (lease : ProbeLease) (breaker : Breaker) (verdict : Verdict) : ProbeLease × Breaker :=
  if lease.finished then (lease, breaker)
  else ({ lease with finished := true }, lease.report breaker verdict)

/-- An allowed lease whose holder has not reported. -/
def isLive (lease : ProbeLease) : Bool :=
  lease.allowed && !lease.finished

/-- An allowed half-open probe that is unfinished. -/
def isLiveProbe (lease : ProbeLease) : Bool :=
  lease.isLive && lease.isProbe

end ProbeLease

/-- A breaker and the leases it has given out. -/
structure System where
  breaker : Breaker
  leases : List ProbeLease := []
  deriving DecidableEq, Repr

inductive Action where
  | acquire (now : ℚ)
  | finish (holder : ℕ) (verdict : Verdict)
  deriving DecidableEq, Repr

namespace System

def acquire (system : System) (now : ℚ) : System where
  breaker := (system.breaker.acquire now).2
  leases := system.leases ++ [(system.breaker.acquire now).1]

def finish (system : System) (holder : ℕ) (lease : ProbeLease) (verdict : Verdict) : System where
  breaker := (lease.finish system.breaker verdict).2
  leases := system.leases.set holder (lease.finish system.breaker verdict).1

def act (system : System) : Action → Option System
  | .acquire now => some (system.acquire now)
  | .finish holder verdict =>
    (system.leases[holder]?).map fun lease => system.finish holder lease verdict

def mayAct (system : System) : Action → Bool
  | .acquire _ => true
  | .finish holder verdict =>
    (system.leases[holder]?).all fun lease => lease.allowed || verdict == .release

abbrev Run := StepRun act fun system action => system.mayAct action = true

/-- What holds between any two actions: there is one live probe while the breaker is
marked and none else, probes are allowed, no lease is of a generation to come, and a
live lease of the generation is a probe or the breaker is closed. -/
structure Sound (system : System) : Prop where
  marked : system.leases.countP ProbeLease.isLiveProbe = system.breaker.probeInFlight.toNat
  allowed : ∀ lease ∈ system.leases, lease.isProbe = true → lease.allowed = true
  older : ∀ lease ∈ system.leases, lease.generation ≤ system.breaker.generation
  current : ∀ lease ∈ system.leases, lease.isLiveProbe = true →
    lease.generation = system.breaker.generation
  state : ∀ lease ∈ system.leases, lease.isLive = true →
    lease.generation = system.breaker.generation →
    system.breaker.state = if lease.isProbe then .halfOpen else .closed

section Keeping

variable {system : System} {lease : ProbeLease}

theorem Sound.probeInFlight_iff (hsound : Sound system) : system.breaker.probeInFlight = true ↔
      system.breaker.state = .halfOpen ∧ ∃ lease ∈ system.leases, lease.isLive = true ∧
          lease.generation = system.breaker.generation := by
  constructor
  · intro hflag
    have hpos : 0 < system.leases.countP ProbeLease.isLiveProbe := by
      rw [hsound.marked, hflag]
      exact Nat.one_pos
    obtain ⟨lease, hlease, hprobe⟩ := List.countP_pos_iff.mp hpos
    have hcurrent := hsound.current lease hlease hprobe
    simp only [ProbeLease.isLiveProbe, Bool.and_eq_true] at hprobe
    have hstate := hsound.state lease hlease hprobe.1 hcurrent
    rw [if_pos hprobe.2] at hstate
    exact ⟨hstate, lease, hlease, hprobe.1, hcurrent⟩
  · rintro ⟨hhalf, lease, hlease, hlive, hcurrent⟩
    have hstate := hsound.state lease hlease hlive hcurrent
    have hprobe : lease.isProbe = true := by
      by_contra hnot
      rw [if_neg hnot, hhalf] at hstate
      cases hstate
    have hpos : 0 < system.leases.countP ProbeLease.isLiveProbe := by
      apply List.countP_pos_iff.mpr
      exact ⟨lease, hlease, by simp [ProbeLease.isLiveProbe, hlive, hprobe]⟩
    by_contra hunmarked
    rw [hsound.marked, Bool.eq_false_iff.mpr hunmarked] at hpos
    exact lt_irrefl 0 hpos

theorem Sound.unmarked (hsound : Sound system) (hstate : system.breaker.state ≠ .halfOpen) :
    system.breaker.probeInFlight = false := by
  apply Bool.eq_false_iff.mpr
  intro hflag
  exact hstate (hsound.probeInFlight_iff.mp hflag).1

/-- All that the report of an unfinished lease can do: nothing that decides, clear the
mark of its own probe, or open the breaker for the next generation. -/
inductive Outcome (breaker : Breaker) (lease : ProbeLease) (after : Breaker) : Prop where
  | kept (hstate : after.state = breaker.state)
      (hgeneration : after.generation = breaker.generation)
      (hflag : after.probeInFlight = breaker.probeInFlight)
      (hprobe : lease.isLiveProbe = false)
  | cleared (hgeneration : after.generation = breaker.generation)
      (hflag : after.probeInFlight = false) (hprobe : lease.isLiveProbe = true)
  | reopened (hstate : after.state = .opened)
      (hgeneration : after.generation = breaker.generation + 1)
      (hflag : after.probeInFlight = false)
      (hcurrent : lease.isLive = true ∧ lease.generation = breaker.generation)

variable {breaker : Breaker} {holder : ℕ}

theorem report_foreign (hforeign : lease.generation ≠ breaker.generation) (verdict : Verdict) :
    lease.report breaker verdict = breaker := by
  have hcheck : breaker.isForeign (some lease.generation) = true := by
    simpa [Breaker.isForeign] using hforeign
  cases verdict with
  | success now => exact if_pos hcheck
  | failure now => exact if_pos hcheck
  | release => exact if_pos hcheck

theorem report_refused (hprobe : lease.isProbe = false) :
    lease.report breaker .release = breaker := by
  simp [ProbeLease.report, Breaker.releaseProbe, hprobe]

theorem report_probe (hstate : breaker.state = .halfOpen)
    (hcurrent : lease.generation = breaker.generation) (hlive : lease.isLiveProbe = true)
    (verdict : Verdict) : Outcome breaker lease (lease.report breaker verdict) := by
  obtain ⟨hallowed, hprobe⟩ := (Bool.and_eq_true _ _).mp hlive
  have hcheck : breaker.isForeign (some lease.generation) = false := by
    simp [Breaker.isForeign, hcurrent]
  cases verdict with
  | success now =>
    apply Outcome.cleared
    · simp [ProbeLease.report, Breaker.recordSuccess, Breaker.applySuccess, hcheck, hstate, hprobe]
    · simp [ProbeLease.report, Breaker.recordSuccess, Breaker.applySuccess, hcheck, hstate, hprobe]
    · exact hlive
  | failure now =>
    have hopened : breaker.getState now = .halfOpen := by simp [Breaker.getState, hstate]
    apply Outcome.reopened
    · simp [ProbeLease.report, Breaker.recordFailure, hcheck, hopened]
    · simp [ProbeLease.report, Breaker.recordFailure, hcheck, hopened]
    · simp [ProbeLease.report, Breaker.recordFailure, hcheck, hopened]
    · exact ⟨hallowed, hcurrent⟩
  | release =>
    apply Outcome.cleared
    · simp [ProbeLease.report, Breaker.releaseProbe, hcheck, hprobe]
    · simp [ProbeLease.report, Breaker.releaseProbe, hcheck, hprobe]
    · exact hlive

theorem report_closed (hstate : breaker.state = .closed) (hflag : breaker.probeInFlight = false)
    (hcurrent : lease.generation = breaker.generation) (hlive : lease.isLive = true)
    (hprobe : lease.isProbe = false) (verdict : Verdict) :
    Outcome breaker lease (lease.report breaker verdict) := by
  have hcheck : breaker.isForeign (some lease.generation) = false := by
    simp [Breaker.isForeign, hcurrent]
  have hnot : lease.isLiveProbe = false := by simp [ProbeLease.isLiveProbe, hprobe]
  have hshown : ∀ now, breaker.getState now = .closed := by
    intro now
    simp [Breaker.getState, hstate]
  cases verdict with
  | success now =>
    apply Outcome.kept
    · simp [ProbeLease.report, Breaker.recordSuccess, Breaker.applySuccess, hcheck, hstate, hshown]
    · simp [ProbeLease.report, Breaker.recordSuccess, Breaker.applySuccess, hcheck, hstate, hshown]
    · simp [ProbeLease.report, Breaker.recordSuccess, Breaker.applySuccess, hcheck, hstate,
        hshown, hflag]
    · exact hnot
  | failure now =>
    by_cases hfull : breaker.failureThreshold ≤ (breaker.consecutiveFailures : ℤ) + 1
    · have hreport : lease.report breaker (.failure now) =
          { breaker with
            consecutiveFailures := breaker.consecutiveFailures + 1
            lastFailureTime := now
            state := .opened
            generation := breaker.generation + 1
            probeInFlight := false } := by
        simp only [ProbeLease.report, Breaker.recordFailure, hcheck, hshown]
        simp [hfull]
      rw [hreport]
      exact .reopened rfl rfl rfl ⟨hlive, hcurrent⟩
    · have hreport : lease.report breaker (.failure now) =
          { breaker with
            consecutiveFailures := breaker.consecutiveFailures + 1
            lastFailureTime := now } := by
        simp only [ProbeLease.report, Breaker.recordFailure, hcheck, hshown]
        simp [hfull, hprobe]
      rw [hreport]
      exact .kept rfl rfl rfl hnot
  | release =>
    have hreport : lease.report breaker .release = breaker := report_refused hprobe
    rw [hreport]
    exact .kept rfl rfl rfl hnot

theorem Sound.report (hsound : Sound system) (hlease : lease ∈ system.leases)
    (hunfinished : lease.finished = false) {verdict : Verdict}
    (hmay : lease.allowed = true ∨ verdict = .release) :
    Outcome system.breaker lease (lease.report system.breaker verdict) := by
  by_cases hcurrent : lease.generation = system.breaker.generation
  · by_cases hallowed : lease.allowed = true
    · have hlive : lease.isLive = true := by simp [ProbeLease.isLive, hallowed, hunfinished]
      have hstate := hsound.state lease hlease hlive hcurrent
      cases hprobe : lease.isProbe with
      | true =>
        rw [hprobe, if_pos rfl] at hstate
        apply report_probe hstate hcurrent
        simp [ProbeLease.isLiveProbe, hlive, hprobe]
      | false =>
        rw [hprobe, if_neg Bool.false_ne_true] at hstate
        apply report_closed hstate _ hcurrent hlive hprobe
        exact hsound.unmarked (by rw [hstate]; decide)
    · have hprobe : lease.isProbe = false := by
        apply Bool.eq_false_iff.mpr
        exact mt (hsound.allowed lease hlease) hallowed
      rw [hmay.resolve_left hallowed, report_refused hprobe]
      exact .kept rfl rfl rfl (by simp [ProbeLease.isLiveProbe, hprobe])
  · rw [report_foreign hcurrent]
    apply Outcome.kept rfl rfl rfl
    apply Bool.eq_false_iff.mpr
    exact mt (hsound.current lease hlease) hcurrent

theorem Sound.give (hsound : Sound system) {allowed isProbe : Bool}
    (hgeneration : breaker.generation = system.breaker.generation)
    (hallowed : isProbe = true → allowed = true)
    (hkept : ∀ lease ∈ system.leases, lease.isLive = true →
      lease.generation = system.breaker.generation → breaker.state = system.breaker.state)
    (hstate : allowed = true → breaker.state = if isProbe then .halfOpen else .closed)
    (hflag : breaker.probeInFlight.toNat = system.breaker.probeInFlight.toNat + isProbe.toNat) :
    Sound
      { breaker := breaker
        leases := system.leases ++ [system.breaker.lease allowed isProbe] } := by
  refine ⟨?_, ?_, ?_, ?_, ?_⟩
  · rw [List.countP_append, hsound.marked, hflag]
    cases isProbe with
    | false => simp [ProbeLease.isLiveProbe, ProbeLease.isLive, Breaker.lease]
    | true => simp [ProbeLease.isLiveProbe, ProbeLease.isLive, Breaker.lease, hallowed rfl]
  · intro lease hlease hprobe
    rcases List.mem_append.mp hlease with hold | hnew
    · exact hsound.allowed lease hold hprobe
    · obtain rfl := List.mem_singleton.mp hnew
      exact hallowed hprobe
  · intro lease hlease
    rw [hgeneration]
    rcases List.mem_append.mp hlease with hold | hnew
    · exact hsound.older lease hold
    · obtain rfl := List.mem_singleton.mp hnew
      exact le_rfl
  · intro lease hlease hprobe
    rw [hgeneration]
    rcases List.mem_append.mp hlease with hold | hnew
    · exact hsound.current lease hold hprobe
    · obtain rfl := List.mem_singleton.mp hnew
      rfl
  · intro lease hlease hlive hcurrent
    rw [hgeneration] at hcurrent
    rcases List.mem_append.mp hlease with hold | hnew
    · rw [hkept lease hold hlive hcurrent]
      exact hsound.state lease hold hlive hcurrent
    · obtain rfl := List.mem_singleton.mp hnew
      apply hstate
      simpa [ProbeLease.isLive, Breaker.lease] using hlive

theorem state_of_getState_closed {now : ℚ} (hshown : breaker.getState now = .closed) :
    breaker.state = .closed := by
  unfold Breaker.getState at hshown
  split at hshown
  · split at hshown
    · cases hshown
    · exact hshown
  · exact hshown

theorem Sound.acquire (hsound : Sound system) (now : ℚ) : Sound (system.acquire now) := by
  have hrefused : Sound
      { breaker := system.breaker
        leases := system.leases ++ [system.breaker.lease false false] } := by
    apply hsound.give rfl
    · intro hprobe
      cases hprobe
    · intro lease _ _ _
      rfl
    · intro hallowed
      cases hallowed
    · rfl
  unfold System.acquire Breaker.acquire
  cases hshown : system.breaker.getState now with
  | closed =>
    apply hsound.give rfl
    · intro _
      rfl
    · intro lease _ _ _
      rfl
    · intro _
      exact state_of_getState_closed hshown
    · rfl
  | opened => exact hrefused
  | halfOpen =>
    by_cases hflag : system.breaker.probeInFlight = false
    · simp only [if_pos hflag]
      apply hsound.give
      · rfl
      · intro _
        rfl
      · -- a live lease of the generation shows a breaker that is not open
        intro lease hlease hlive hcurrent
        have hstate := hsound.state lease hlease hlive hcurrent
        cases hprobe : lease.isProbe with
        | true =>
          rw [hprobe, if_pos rfl] at hstate
          exact hstate.symm
        | false =>
          rw [hprobe, if_neg Bool.false_ne_true] at hstate
          simp [Breaker.getState, hstate] at hshown
      · intro _
        rfl
      · rw [hflag]
        rfl
    · simp only [if_neg hflag]
      exact hrefused

theorem mem_finish {other : ProbeLease}
    (hother : other ∈ system.leases.set holder { lease with finished := true })
    (hlive : other.isLive = true) : other ∈ system.leases := by
  rcases List.mem_or_eq_of_mem_set hother with hold | rfl
  · exact hold
  · simp [ProbeLease.isLive] at hlive

theorem countP_finish (hholder : system.leases[holder]? = some lease) :
    (system.leases.set holder { lease with finished := true }).countP ProbeLease.isLiveProbe =
      system.leases.countP ProbeLease.isLiveProbe - lease.isLiveProbe.toNat := by
  obtain ⟨hlt, hget⟩ := List.getElem?_eq_some_iff.mp hholder
  rw [List.countP_set hlt, hget]
  cases hprobe : lease.isLiveProbe with
  | true => simp [ProbeLease.isLiveProbe, ProbeLease.isLive]
  | false => simp [ProbeLease.isLiveProbe, ProbeLease.isLive]

theorem Sound.no_probe (hsound : Sound system) (hholder : system.leases[holder]? = some lease)
    (hlive : lease.isLive = true) (hcurrent : lease.generation = system.breaker.generation) :
    ∀ other ∈ system.leases.set holder { lease with finished := true },
      other.isLiveProbe = false := by
  have hzero : (system.leases.set holder { lease with finished := true }).countP
      ProbeLease.isLiveProbe = 0 := by
    rw [countP_finish hholder, hsound.marked]
    have hstate := hsound.state lease (List.mem_of_getElem? hholder) hlive hcurrent
    cases hprobe : lease.isProbe with
    | true =>
      have hone : lease.isLiveProbe = true := by
        simp [ProbeLease.isLiveProbe, hlive, hprobe]
      rw [hone]
      exact Nat.sub_eq_zero_of_le (Bool.toNat_le _)
    | false =>
      rw [hprobe, if_neg Bool.false_ne_true] at hstate
      rw [hsound.unmarked (by rw [hstate]; decide)]
      exact Nat.zero_sub _
  intro other hother
  exact Bool.eq_false_iff.mpr (List.countP_eq_zero.mp hzero other hother)

theorem Sound.finish (hsound : Sound system) (hholder : system.leases[holder]? = some lease)
    {after : Breaker} (hafter : Outcome system.breaker lease after) :
    Sound
      { breaker := after
        leases := system.leases.set holder { lease with finished := true } } := by
  have hlease := List.mem_of_getElem? hholder
  have hallowed : ∀ other ∈ system.leases.set holder { lease with finished := true },
      other.isProbe = true → other.allowed = true := by
    intro other hother hprobe
    rcases List.mem_or_eq_of_mem_set hother with hold | rfl
    · exact hsound.allowed other hold hprobe
    · exact hsound.allowed lease hlease hprobe
  have holder' : ∀ other ∈ system.leases.set holder { lease with finished := true },
      other.generation ≤ system.breaker.generation := by
    intro other hother
    rcases List.mem_or_eq_of_mem_set hother with hold | rfl
    · exact hsound.older other hold
    · exact hsound.older lease hlease
  cases hafter with
  | kept hstate hgeneration hflag hprobe =>
    refine ⟨?_, hallowed, ?_, ?_, ?_⟩
    · rw [countP_finish hholder, hsound.marked, hprobe, hflag]
      rfl
    · rwa [hgeneration]
    · intro other hother hlive
      rw [hgeneration]
      have hopen := ((Bool.and_eq_true _ _).mp hlive).1
      exact hsound.current other (mem_finish hother hopen) hlive
    · intro other hother hlive hcurrent
      rw [hgeneration] at hcurrent
      rw [hstate]
      exact hsound.state other (mem_finish hother hlive) hlive hcurrent
  | cleared hgeneration hflag hprobe =>
    obtain ⟨hlive, hisProbe⟩ := (Bool.and_eq_true _ _).mp hprobe
    have hcurrent := hsound.current lease hlease hprobe
    have hnone := hsound.no_probe hholder hlive hcurrent
    have hhalf := hsound.state lease hlease hlive hcurrent
    rw [if_pos hisProbe] at hhalf
    refine ⟨?_, hallowed, ?_, ?_, ?_⟩
    · rw [hflag]
      apply List.countP_eq_zero.mpr
      intro other hother
      exact Bool.eq_false_iff.mp (hnone other hother)
    · rwa [hgeneration]
    · intro other hother hother'
      rw [hnone other hother] at hother'
      cases hother'
    · -- a live lease of a half-open generation is a probe, and there is none left
      intro other hother hopen hsame
      rw [hgeneration] at hsame
      have hshown := hsound.state other (mem_finish hother hopen) hopen hsame
      have hnot := hnone other hother
      simp only [ProbeLease.isLiveProbe, hopen, Bool.true_and] at hnot
      rw [hhalf, hnot, if_neg Bool.false_ne_true] at hshown
      cases hshown
  | reopened hstate hgeneration hflag hcurrent =>
    have hnone := hsound.no_probe hholder hcurrent.1 hcurrent.2
    refine ⟨?_, hallowed, ?_, ?_, ?_⟩
    · rw [hflag]
      apply List.countP_eq_zero.mpr
      intro other hother
      exact Bool.eq_false_iff.mp (hnone other hother)
    · intro other hother
      rw [hgeneration]
      exact Nat.le_succ_of_le (holder' other hother)
    · intro other hother hother'
      rw [hnone other hother] at hother'
      cases hother'
    · intro other hother _ hsame
      rw [hgeneration] at hsame
      exact absurd (holder' other hother) (by omega)

theorem Sound.act (hsound : Sound system) {action : Action} {next : System}
    (hmay : system.mayAct action = true) (hact : system.act action = some next) :
    Sound next := by
  cases action with
  | acquire now =>
    cases hact
    exact hsound.acquire now
  | finish holder verdict =>
    simp only [System.act, Option.map_eq_some_iff] at hact
    obtain ⟨lease, hholder, rfl⟩ := hact
    unfold System.finish ProbeLease.finish
    cases hfinished : lease.finished with
    | true =>
      obtain ⟨hlt, hget⟩ := List.getElem?_eq_some_iff.mp hholder
      simp only [if_true, ← hget, List.set_getElem_self]
      exact hsound
    | false =>
      simp only [Bool.false_eq_true, if_false]
      apply hsound.finish hholder
      apply hsound.report (List.mem_of_getElem? hholder) hfinished
      simpa [mayAct, hholder] using hmay

end Keeping

/-- A breaker as it is made, before any lease. -/
def fresh (failureThreshold : ℤ) (recoveryTimeout : ℚ) : System where
  breaker := Breaker.create failureThreshold recoveryTimeout

theorem sound_fresh (failureThreshold : ℤ) (recoveryTimeout : ℚ) :
    Sound (fresh failureThreshold recoveryTimeout) where
  marked := rfl
  allowed := fun _ hlease => absurd hlease List.not_mem_nil
  older := fun _ hlease => absurd hlease List.not_mem_nil
  current := fun _ hlease => absurd hlease List.not_mem_nil
  state := fun _ hlease => absurd hlease List.not_mem_nil

theorem Run.sound {first last : System} {actions : List Action}
    (hrun : Run first actions last) (hfirst : Sound first) : Sound last :=
  StepRun.invariant hrun Sound (fun _ _ _ hsound hmay hact => hsound.act hmay hact) hfirst

/-! ## What holders may rely on -/

section Relying

variable {system : System}

theorem finish_spent {holder : ℕ} {lease : ProbeLease}
    (hspent : lease.finished = true ∨ lease.generation ≠ system.breaker.generation)
    (verdict : Verdict) : (system.finish holder lease verdict).breaker = system.breaker := by
  unfold finish ProbeLease.finish
  split
  · rfl
  · next hunfinished =>
    exact report_foreign (hspent.resolve_left hunfinished) verdict

theorem Sound.finish_inert (hsound : Sound system)
    (hnone : ∀ lease ∈ system.leases, lease.isLive = true →
      lease.generation ≠ system.breaker.generation)
    {holder : ℕ} {verdict : Verdict} {next : System}
    (hmay : system.mayAct (.finish holder verdict) = true)
    (hact : system.act (.finish holder verdict) = some next) :
    next.breaker = system.breaker := by
  simp only [System.act, Option.map_eq_some_iff] at hact
  obtain ⟨lease, hholder, rfl⟩ := hact
  have hlease := List.mem_of_getElem? hholder
  by_cases hspent : lease.finished = true ∨ lease.generation ≠ system.breaker.generation
  · exact finish_spent hspent verdict
  · obtain ⟨hunfinished, hcurrent⟩ := not_or.mp hspent
    have hrefused : ¬lease.allowed = true := by
      intro hallowed
      exact hcurrent (hnone lease hlease (by simp [ProbeLease.isLive, hallowed, hunfinished]))
    have hrelease : lease.allowed = true ∨ verdict = .release := by
      simpa [mayAct, hholder] using hmay
    have hprobe : lease.isProbe = false :=
      Bool.eq_false_iff.mpr (mt (hsound.allowed lease hlease) hrefused)
    rw [hrelease.resolve_left hrefused]
    simp only [System.finish, ProbeLease.finish, if_neg hunfinished]
    exact report_refused hprobe

theorem Sound.none_of_opened (hsound : Sound system) (hstate : system.breaker.state = .opened)
    (lease : ProbeLease) (hlease : lease ∈ system.leases) (hlive : lease.isLive = true) :
    lease.generation ≠ system.breaker.generation := by
  intro hcurrent
  have hshown := hsound.state lease hlease hlive hcurrent
  rw [hstate] at hshown
  split at hshown
  · cases hshown
  · cases hshown

theorem Sound.stays_opened (hsound : Sound system) (hstate : system.breaker.state = .opened)
    {action : Action} {next : System} (hmay : system.mayAct action = true)
    (hact : system.act action = some next) (hnext : next.breaker.state = .opened) :
    next.breaker = system.breaker := by
  cases action with
  | acquire now =>
    cases hact
    change (system.breaker.acquire now).2 = system.breaker
    replace hnext : (system.breaker.acquire now).2.state = .opened := hnext
    unfold Breaker.acquire at hnext ⊢
    split
    · rfl
    · next hshown =>
      split
      · next hflag =>
        rw [hshown] at hnext
        simp [hflag] at hnext
      · rfl
    · rfl
  | finish holder verdict =>
    exact hsound.finish_inert (hsound.none_of_opened hstate) hmay hact

theorem acquire_opened {breaker : Breaker} {now : ℚ} (hstate : breaker.state = .opened)
    (hearly : now - breaker.lastFailureTime < breaker.recoveryTimeout) :
    breaker.acquire now = (breaker.lease false false, breaker) := by
  have hshown : breaker.getState now = .opened := by
    rw [Breaker.getState, if_pos hstate, if_neg (not_le.mpr hearly)]
    exact hstate
  simp only [Breaker.acquire, hshown]

/-- Half-open and without a probe. -/
def Idle (breaker : Breaker) : Prop :=
  breaker.state = .halfOpen ∧ breaker.probeInFlight = false

theorem acquire_idle {breaker : Breaker} (hidle : Idle breaker) (now : ℚ) :
    (breaker.acquire now).1 = breaker.lease true true := by
  have hshown : breaker.getState now = .halfOpen := by simp [Breaker.getState, hidle.1]
  simp only [Breaker.acquire, hshown, if_pos hidle.2]

theorem Sound.stays_idle {last : System} {actions : List Action}
    (hrun : Run system actions last) (hsound : Sound system) (hidle : Idle system.breaker)
    (hfinish : ∀ action ∈ actions, ∃ holder verdict, action = .finish holder verdict) :
    Idle last.breaker := by
  induction hrun with
  | done state => exact hidle
  | @act state next last action rest hmay hact _ ih =>
    obtain ⟨holder, verdict, rfl⟩ := hfinish action List.mem_cons_self
    have hnone : ∀ lease ∈ state.leases, lease.isLive = true →
        lease.generation ≠ state.breaker.generation := by
      intro lease hlease hlive hcurrent
      have hflag := hsound.probeInFlight_iff.mpr ⟨hidle.1, lease, hlease, hlive, hcurrent⟩
      rw [hidle.2] at hflag
      cases hflag
    apply ih (hsound.act hmay hact)
    · rw [hsound.finish_inert hnone hmay hact]
      exact hidle
    · intro other hother
      exact hfinish other (List.mem_cons_of_mem _ hother)

theorem Sound.idle_of_release (hsound : Sound system) {holder : ℕ} {lease : ProbeLease}
    (hholder : system.leases[holder]? = some lease) (hprobe : lease.isLiveProbe = true) :
    Idle (system.finish holder lease .release).breaker := by
  have hlease := List.mem_of_getElem? hholder
  obtain ⟨hlive, hisProbe⟩ := (Bool.and_eq_true _ _).mp hprobe
  have hunfinished : lease.finished = false := by
    simpa using ((Bool.and_eq_true _ _).mp hlive).2
  have hcurrent := hsound.current lease hlease hprobe
  have hstate := hsound.state lease hlease hlive hcurrent
  rw [if_pos hisProbe] at hstate
  simp [Idle, System.finish, ProbeLease.finish, hunfinished, ProbeLease.report,
    Breaker.releaseProbe, Breaker.isForeign, hcurrent, hisProbe, hstate]

/-- What a system of a breaker and its holders keeps to. -/
structure Contract (system : System) : Prop where
  /-- At most one allowed half-open probe is unfinished. -/
  single : system.leases.countP ProbeLease.isLiveProbe ≤ 1
  /-- A probe is marked exactly while an unfinished allowed lease of the current half-open
  generation exists. -/
  marked : system.breaker.probeInFlight = true ↔ system.breaker.state = .halfOpen ∧
      ∃ lease ∈ system.leases, lease.allowed = true ∧ lease.finished = false ∧
        lease.generation = system.breaker.generation
  /-- Neither a lease of an older generation nor a second verdict changes the breaker. -/
  spent : ∀ holder lease verdict, system.leases[holder]? = some lease →
    lease.generation < system.breaker.generation ∨ lease.finished = true →
    (system.finish holder lease verdict).breaker = system.breaker
  /-- Nobody is let through before the timeout, counted from a failure that no action
  moves while the breaker stays open. -/
  refused : system.breaker.state = .opened →
    (∀ now, now - system.breaker.lastFailureTime < system.breaker.recoveryTimeout →
      (system.breaker.acquire now).1.allowed = false) ∧
    ∀ action next, system.mayAct action = true → system.act action = some next →
      next.breaker.state = .opened → next.breaker = system.breaker
  /-- After a probe is released, the next lease is a probe that is allowed, at any time
  and whatever the other holders report before. -/
  released : ∀ holder lease rest last now, system.leases[holder]? = some lease →
    lease.isLiveProbe = true → Run (system.finish holder lease .release) rest last →
    (∀ action ∈ rest, ∃ other verdict, action = .finish other verdict) →
    (last.breaker.acquire now).1.allowed = true ∧ (last.breaker.acquire now).1.isProbe = true

/-- Whatever the holders do, the system keeps to its contract. -/
theorem contract_of_run (failureThreshold : ℤ) (recoveryTimeout : ℚ)
    {actions : List Action} {system : System}
    (hrun : Run (fresh failureThreshold recoveryTimeout) actions system) :
    Contract system := by
  have hsound : Sound system := hrun.sound (sound_fresh failureThreshold recoveryTimeout)
  refine ⟨?_, ?_, ?_, ?_, ?_⟩
  · rw [hsound.marked]
    exact Bool.toNat_le _
  · rw [hsound.probeInFlight_iff]
    simp only [ProbeLease.isLive, Bool.and_eq_true, Bool.not_eq_true', and_assoc]
  · intro holder lease verdict _ hspent
    apply finish_spent
    rcases hspent with holder' | hfinished
    · exact .inr (ne_of_lt holder')
    · exact .inl hfinished
  · intro hstate
    constructor
    · intro now hearly
      rw [acquire_opened hstate hearly]
      rfl
    · intro action next hmay hact hnext
      exact hsound.stays_opened hstate hmay hact hnext
  · intro holder lease rest last now hholder hprobe hrest hfinish
    have hmay : system.mayAct (.finish holder .release) = true := by simp [mayAct, hholder]
    have hact : system.act (.finish holder .release) =
        some (system.finish holder lease .release) := by
      simp [act, hholder]
    have hidle : Idle last.breaker :=
      (hsound.act hmay hact).stays_idle hrest (hsound.idle_of_release hholder hprobe) hfinish
    rw [acquire_idle hidle now]
    exact ⟨rfl, rfl⟩

end Relying

/-- A failure opens the breaker, a probe is given out and another one refused, and the
probe is released: the refused lease of the generation is still unfinished. -/
def refusedOutlives : List Action :=
  [.acquire 0, .finish 0 (.failure 0), .acquire 60, .acquire 61, .finish 1 .release]

def afterRefused : System :=
  (replay act mayAct (fresh 1 60) refusedOutlives).getD (fresh 1 60)

theorem contract_after_refused : Contract afterRefused := by
  have hrun : Run (fresh 1 60) refusedOutlives afterRefused :=
    stepRun_of_replay (by decide +kernel)
  exact contract_of_run 1 60 hrun

/-- Counting refused leases, the mark does not tell whether a lease of the half-open
generation is unfinished. -/
theorem unmarked_with_refused_lease :
    ¬∀ (failureThreshold : ℤ) (recoveryTimeout : ℚ) (actions : List Action) (system : System),
      Run (fresh failureThreshold recoveryTimeout) actions system →
      (system.breaker.probeInFlight = true ↔ system.breaker.state = .halfOpen ∧
          ∃ lease ∈ system.leases, lease.finished = false ∧
            lease.generation = system.breaker.generation) := by
  intro hall
  have hrun : Run (fresh 1 60) refusedOutlives afterRefused :=
    stepRun_of_replay (by decide +kernel)
  have hiff := hall 1 60 refusedOutlives afterRefused hrun
  have hnot : ¬(afterRefused.breaker.probeInFlight = true ↔ afterRefused.breaker.state = .halfOpen ∧
        ∃ lease ∈ afterRefused.leases, lease.finished = false ∧
          lease.generation = afterRefused.breaker.generation) := by
    decide +kernel
  exact hnot hiff

end System

end SignPulse.CircuitBreaker
