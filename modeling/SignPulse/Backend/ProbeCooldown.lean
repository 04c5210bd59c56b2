import Mathlib.Tactic.Linarith
import SignPulse.Backend.ProxyBreaker

/-!
# The cooldown after a probe

After a half-open probe has failed, nothing is let through before the cooldown is over, if
no task acts on what it has read before the failure: a stale reading may reopen the breaker,
or start another probe.
-/

namespace SignPulse.ProxyBreaker

open Foundation

def AfterCooldown (cooldown : ℚ) (before : List Event) : Event → Prop
  | .probeFailed _ => True
  | .sawHalfOpen now => ∀ failed, .probeFailed failed ∈ before → failed + cooldown < now
  | .probeStarted now => ∀ failed, .probeFailed failed ∈ before → failed + cooldown < now
  | .letThrough now => ∀ failed, .probeFailed failed ∈ before → failed + cooldown < now

/-- The cooldown of the record is running. -/
def Cooling (cooldown clock : ℚ) (entry : Entry) : Prop :=
  entry.state = .tripped ∧ clock ≤ entry.trippedAt + cooldown

instance (cooldown clock : ℚ) (entry : Entry) : Decidable (Cooling cooldown clock entry) :=
  inferInstanceAs (Decidable (_ ∧ _))

/-- While the cooldown of the record is running, `HALF_OPEN` is not written, the lease is not
acquired, no success is recorded, and no failure with a time from before the trip.  The
failures that a probe rests on are not forgotten before its verdict. -/
def Orderly (cooldown : ℚ) (system : System) : Action → Prop
  | .write _ => ∀ entry ∈ system.shared, ¬Cooling cooldown system.clock entry
  | .acquire _ => system.holder = none →
      ∃ entry ∈ system.shared, ¬Cooling cooldown system.clock entry ∧ 2 ≤ entry.failCount
  | .report task =>
    match system.stage task with
    | .reporting now => ∀ entry ∈ system.shared,
        Cooling cooldown system.clock entry → entry.trippedAt ≤ now
    | _ => True
  | .succeed _ => system.holder = none ∧
      ∀ entry ∈ system.shared, ¬Cooling cooldown system.clock entry
  | _ => True

instance (cooldown : ℚ) (system : System) (action : Action) :
    Decidable (Orderly cooldown system action) := by
  cases action with
  | report task =>
    simp only [Orderly]
    split <;> infer_instance
  | _ =>
    unfold Orderly
    infer_instance

section Cooldowns

variable {cooldown : ℚ} {system after : System} {task : ℕ} {stage : Stage}

/-- The cooldowns of all probes that have failed are over. -/
def Clear (cooldown : ℚ) (system : System) : Prop :=
  ∀ failed, .probeFailed failed ∈ system.history → failed + cooldown < system.clock

def StageOk (cooldown : ℚ) (system : System) (task : ℕ) : Stage → Prop
  | .tripped _ entry => 2 ≤ entry.failCount
  | .expired _ entry => 2 ≤ entry.failCount
  | .probing => system.holder = some task ∧ Clear cooldown system ∧
      ∃ entry, system.shared = some entry ∧ 2 ≤ entry.failCount
  | .probeFailed _ => system.holder = some task ∧ Clear cooldown system ∧
      ∃ entry, system.shared = some entry ∧ 2 ≤ entry.failCount
  | .probeSucceeded => system.holder = some task ∧ Clear cooldown system
  | .releasing true => system.holder = some task ∧ Clear cooldown system
  | .releasing false => system.holder = some task
  | _ => True

/-- During the cooldown of a probe the record is tripped, no earlier than the probe failed. -/
structure Sound (cooldown : ℚ) (system : System) : Prop where
  barred : ∀ failed, .probeFailed failed ∈ system.history → system.clock ≤ failed + cooldown →
      ∃ entry, system.shared = some entry ∧ entry.state = .tripped ∧ failed ≤ entry.trippedAt
  counted : ∀ entry ∈ system.shared, entry.state = .tripped → 2 ≤ entry.failCount
  aware : ∀ task, (system.known task).state = .tripped → 2 ≤ (system.known task).failCount
  stages : ∀ task, StageOk cooldown system task (system.stage task)
  each : EachAfter (AfterCooldown cooldown) system.history

theorem sound_start : Sound cooldown {} where
  barred := by
    intro failed hfailed
    cases hfailed
  counted := by
    intro entry hentry
    cases hentry
  aware := by
    intro task htripped
    cases htripped
  stages := fun _ => trivial
  each := eachAfter_nil _

/-! ## Stages -/

theorem StageOk.holder (hok : StageOk cooldown system task stage)
    (hholds : stage.holdsLease = true) : system.holder = some task := by
  cases stage with
  | probing => exact hok.1
  | probeFailed now => exact hok.1
  | probeSucceeded => exact hok.1
  | releasing answer =>
    cases answer with
    | true => exact hok.1
    | false => exact hok
  | _ => cases hholds

theorem StageOk.of_free (hok : StageOk cooldown system task stage)
    (hfree : stage.holdsLease = false) : StageOk cooldown after task stage := by
  cases stage with
  | tripped caller entry => exact hok
  | expired caller entry => exact hok
  | idle => trivial
  | halfOpen => trivial
  | polling turns => trivial
  | reporting now => trivial
  | _ => cases hfree

section

variable (hsound : Sound cooldown system)

include hsound

theorem Sound.free (hholder : system.holder = some task)
    {other : ℕ} (hother : other ≠ task) : (system.stage other).holdsLease = false := by
  rw [Bool.eq_false_iff]
  intro hholds
  have hsame := (hsound.stages other).holder hholds
  rw [hholder] at hsame
  exact hother (Option.some.inj hsame).symm

theorem Sound.free_of_none (hholder : system.holder = none)
    (other : ℕ) : (system.stage other).holdsLease = false := by
  rw [Bool.eq_false_iff]
  intro hholds
  have hsome := (hsound.stages other).holder hholds
  rw [hholder] at hsome
  cases hsome

theorem Sound.clear
    (hcool : ∀ entry ∈ system.shared, ¬Cooling cooldown system.clock entry) : Clear cooldown system := by
  intro failed hfailed
  by_contra hlt
  have hclock := not_lt.mp hlt
  obtain ⟨entry, hentry, htripped, hle⟩ := hsound.barred failed hfailed hclock
  exact hcool entry hentry ⟨htripped, by linarith⟩

theorem Sound.setStage
    (hok : StageOk cooldown system task stage) : Sound cooldown (system.setStage task stage) where
  barred := hsound.barred
  counted := hsound.counted
  aware := hsound.aware
  stages := by
    intro other
    simp only [System.setStage]
    by_cases hsame : other = task
    · rw [hsame, Function.update_self]
      exact hok
    · rw [Function.update_of_ne hsame]
      exact hsound.stages other
  each := hsound.each

end

variable {entry : Entry} {now : ℚ}

theorem Sound.know (hsound : Sound cooldown system) (task : ℕ)
    (hentry : entry.state = .tripped → 2 ≤ entry.failCount) :
    Sound cooldown (system.know task entry) where
  barred := hsound.barred
  counted := hsound.counted
  aware := by
    intro other
    simp only [System.know]
    by_cases hsame : other = task
    · rw [hsame, Function.update_self]
      exact hentry
    · rw [Function.update_of_ne hsame]
      exact hsound.aware other
  stages := hsound.stages
  each := hsound.each

/-! ## Observations -/

theorem Sound.observe {event : ℚ → Event} (hsound : Sound cooldown system)
    (hevent : event = .sawHalfOpen ∨ event = .probeStarted ∨ event = .letThrough)
    (hclear : Clear cooldown system) : Sound cooldown (system.observe event) := by
  have hmem : ∀ failed, Event.probeFailed failed ∈ (system.observe event).history →
      Event.probeFailed failed ∈ system.history := by
    intro failed hfailed
    rcases List.mem_append.mp hfailed with hold | hnew
    · exact hold
    · have hsame := List.mem_singleton.mp hnew
      rcases hevent with rfl | rfl | rfl
      · cases hsame
      · cases hsame
      · cases hsame
  have hstill : Clear cooldown (system.observe event) :=
    fun failed hfailed => hclear failed (hmem failed hfailed)
  constructor
  · exact fun failed hfailed => hsound.barred failed (hmem failed hfailed)
  · exact hsound.counted
  · exact hsound.aware
  · intro other
    have hok := hsound.stages other
    unfold System.observe at hstill ⊢
    cases hstage : system.stage other with
    | probing =>
      rw [hstage] at hok
      exact ⟨hok.1, hstill, hok.2.2⟩
    | probeFailed now =>
      rw [hstage] at hok
      exact ⟨hok.1, hstill, hok.2.2⟩
    | probeSucceeded =>
      rw [hstage] at hok
      exact ⟨hok.1, hstill⟩
    | releasing answer =>
      rw [hstage] at hok
      cases answer with
      | true => exact ⟨hok.1, hstill⟩
      | false => exact hok
    | _ =>
      rw [hstage] at hok
      exact hok
  · apply hsound.each.concat
    rcases hevent with rfl | rfl | rfl
    · exact hclear
    · exact hclear
    · exact hclear

theorem Sound.answer (hsound : Sound cooldown system) (hclear : Clear cooldown system)
    (task : ℕ) (caller : Caller) (state : CircuitState) :
    Sound cooldown (system.answer task caller state) := by
  have hopen := hsound.observe (.inl rfl) hclear
  have hthrough := hsound.observe (.inr (.inr rfl)) hclear
  cases caller with
  | query =>
    cases state with
    | halfOpen => exact hopen.setStage trivial
    | _ => exact hsound.setStage trivial
  | available =>
    cases state with
    | halfOpen => exact hopen.setStage trivial
    | _ => exact hthrough.setStage trivial
  | poll turns =>
    cases state with
    | halfOpen =>
      apply hopen.setStage
      split
      · trivial
      · trivial
    | _ => exact hthrough.setStage trivial

/-! ## Changes of the record -/

theorem Sound.setShared (hsound : Sound cooldown system)
    (hbarred : ∀ failed, .probeFailed failed ∈ system.history →
      system.clock ≤ failed + cooldown → entry.state = .tripped ∧ failed ≤ entry.trippedAt)
    (hcounted : entry.state = .tripped → 2 ≤ entry.failCount)
    (hflight : ∀ other, system.stage other = .probing ∨
      (∃ now, system.stage other = .probeFailed now) → 2 ≤ entry.failCount) :
    Sound cooldown (system.setShared entry) where
  barred := fun failed hfailed hclock => ⟨entry, rfl, hbarred failed hfailed hclock⟩
  counted := by
    intro other hother
    cases hother
    exact hcounted
  aware := hsound.aware
  stages := by
    intro other
    have hok := hsound.stages other
    simp only [System.setShared]
    cases hstage : system.stage other with
    | probing =>
      rw [hstage] at hok
      exact ⟨hok.1, hok.2.1, entry, rfl, hflight other (.inl hstage)⟩
    | probeFailed now =>
      rw [hstage] at hok
      exact ⟨hok.1, hok.2.1, entry, rfl, hflight other (.inr ⟨now, hstage⟩)⟩
    | releasing answer =>
      rw [hstage] at hok
      cases answer with
      | true => exact hok
      | false => exact hok
    | _ =>
      rw [hstage] at hok
      exact hok
  each := hsound.each

theorem failCount_recordFailure (now : ℚ) (entry : Entry) :
    (recordFailure now entry).failCount = entry.failCount + 1 := by
  simp only [recordFailure]
  split
  · rfl
  · split
    · rfl
    · rfl

theorem recordFailure_tripped (hcount : 2 ≤ entry.failCount) (now : ℚ) :
    (recordFailure now entry).state = .tripped ∧ (recordFailure now entry).trippedAt = now := by
  simp only [recordFailure]
  rw [if_pos (by omega)]
  exact ⟨rfl, rfl⟩

theorem counted_recordFailure (htripped : (recordFailure now entry).state = .tripped) :
    2 ≤ (recordFailure now entry).failCount := by
  rw [failCount_recordFailure]
  simp only [recordFailure] at htripped
  split at htripped
  · omega
  · split at htripped
    · cases htripped
    · cases htripped

theorem counted_healthy : ({} : Entry).state = .tripped → 2 ≤ ({} : Entry).failCount :=
  nofun

variable (hsound : Sound cooldown system)

include hsound

theorem Sound.setHealthy (hclear : Clear cooldown system)
    (hflight : ∀ other, system.stage other ≠ .probing ∧
      ∀ now, system.stage other ≠ .probeFailed now) : Sound cooldown (system.setShared {}) := by
  apply hsound.setShared
  · intro failed hfailed hclock
    exact absurd (hclear failed hfailed) (not_lt.mpr hclock)
  · exact counted_healthy
  · rintro other (hprobing | ⟨now, hfailed⟩)
    · exact absurd hprobing (hflight other).1
    · exact absurd hfailed ((hflight other).2 now)

theorem Sound.setFailed (htime : ∀ entry ∈ system.shared, Cooling cooldown system.clock entry →
      entry.trippedAt ≤ now) :
    Sound cooldown (system.setShared (recordFailure now (system.shared.getD {}))) := by
  apply hsound.setShared
  · intro failed hfailed hclock
    obtain ⟨entry, hentry, htripped, hle⟩ := hsound.barred failed hfailed hclock
    rw [hentry, Option.getD_some]
    obtain ⟨hstate, hat⟩ := recordFailure_tripped (hsound.counted entry hentry htripped) now
    have htrip := htime entry hentry ⟨htripped, by linarith⟩
    refine ⟨hstate, ?_⟩
    rw [hat]
    exact hle.trans htrip
  · exact counted_recordFailure
  · have hkept : ∀ other entry, system.shared = some entry → 2 ≤ entry.failCount →
        (system.stage other = .probing ∨ ∃ now, system.stage other = .probeFailed now) →
        2 ≤ (recordFailure now (system.shared.getD {})).failCount := by
      intro other entry hentry hcount _
      rw [hentry, Option.getD_some, failCount_recordFailure]
      omega
    intro other hflight
    have hok := hsound.stages other
    rcases hflight with hprobing | ⟨at', hfailed⟩
    · rw [hprobing] at hok
      obtain ⟨-, -, entry, hentry, hcount⟩ := hok
      exact hkept other entry hentry hcount (.inl hprobing)
    · rw [hfailed] at hok
      obtain ⟨-, -, entry, hentry, hcount⟩ := hok
      exact hkept other entry hentry hcount (.inr ⟨at', hfailed⟩)

/-! ## The lease -/

/-- The lease changes hands while nobody else has it. -/
theorem Sound.passLease (holder : Option ℕ)
    (hfree : ∀ other, other ≠ task → (system.stage other).holdsLease = false)
    (hok : StageOk cooldown { system with holder := holder } task stage) :
    Sound cooldown ({ system with holder := holder }.setStage task stage) where
  barred := hsound.barred
  counted := hsound.counted
  aware := hsound.aware
  stages := by
    intro other
    simp only [System.setStage]
    by_cases hsame : other = task
    · rw [hsame, Function.update_self]
      exact hok
    · rw [Function.update_of_ne hsame]
      exact (hsound.stages other).of_free (hfree other hsame)
  each := hsound.each

theorem Sound.acquire (hholder : system.holder = none) (hclear : Clear cooldown system)
    (hcount : ∃ entry, system.shared = some entry ∧ 2 ≤ entry.failCount) :
    Sound cooldown
      (({ system with holder := some task }.observe .probeStarted).setStage task .probing) := by
  have hlease : Sound cooldown ({ system with holder := some task }.setStage task .probing) :=
    hsound.passLease (some task) (fun other _ => hsound.free_of_none hholder other)
      ⟨rfl, hclear, hcount⟩
  exact hlease.observe (.inr (.inl rfl)) hclear

theorem Sound.probeFailed (hstage : system.stage task = .probeFailed now) : Sound cooldown
      ({ (system.setShared (recordFailure now (system.shared.getD {}))).know task
          (recordFailure now (system.shared.getD {})) with
        history := system.history ++ [Event.probeFailed now] }.setStage task
          (.releasing false)) := by
  have hok := hsound.stages task
  rw [hstage] at hok
  obtain ⟨hholder, hclear, entry, hentry, hcount⟩ := hok
  rw [hentry, Option.getD_some]
  obtain ⟨htripped, hat⟩ := recordFailure_tripped hcount now
  constructor
  · intro failed hfailed hclock
    refine ⟨recordFailure now entry, rfl, htripped, ?_⟩
    rw [hat]
    rcases List.mem_append.mp hfailed with hold | hnew
    · exact absurd (hclear failed hold) (not_lt.mpr hclock)
    · obtain rfl := Event.probeFailed.inj (List.mem_singleton.mp hnew)
      exact le_rfl
  · intro other hother
    cases hother
    exact counted_recordFailure
  · exact (hsound.know task counted_recordFailure).aware
  · intro other
    simp only [System.setStage]
    by_cases hsame : other = task
    · rw [hsame, Function.update_self]
      exact hholder
    · rw [Function.update_of_ne hsame]
      exact (hsound.stages other).of_free (hsound.free hholder hsame)
  · exact hsound.each.concat trivial

omit hsound

/-! ## Time -/

theorem Clear.wait (hclear : Clear cooldown system) (hclock : system.clock ≤ after.clock)
    (hhistory : after.history = system.history) : Clear cooldown after := by
  intro failed hfailed
  rw [hhistory] at hfailed
  exact (hclear failed hfailed).trans_le hclock

variable (hsound : Sound cooldown system)

include hsound

theorem Sound.wait {seconds : ℚ} (hseconds : 0 ≤ seconds) :
    Sound cooldown { system with clock := system.clock + seconds } := by
  have hclock : system.clock ≤ system.clock + seconds := by linarith
  constructor
  · exact fun failed hfailed hlate => hsound.barred failed hfailed (hclock.trans hlate)
  · exact hsound.counted
  · exact hsound.aware
  · intro other
    have hok := hsound.stages other
    cases hstage : system.stage other with
    | probing =>
      rw [hstage] at hok
      exact ⟨hok.1, hok.2.1.wait hclock rfl, hok.2.2⟩
    | probeFailed now =>
      rw [hstage] at hok
      exact ⟨hok.1, hok.2.1.wait hclock rfl, hok.2.2⟩
    | probeSucceeded =>
      rw [hstage] at hok
      exact ⟨hok.1, hok.2.wait hclock rfl⟩
    | releasing answer =>
      rw [hstage] at hok
      cases answer with
      | true => exact ⟨hok.1, hok.2.wait hclock rfl⟩
      | false => exact hok
    | _ =>
      rw [hstage] at hok
      exact hok.of_free rfl
  · exact hsound.each

/-! ## Steps -/

theorem Sound.read {caller : Caller}
    (hread : system.act cooldown (.read task caller) = some after) : Sound cooldown after := by
  simp only [System.act] at hread
  split at hread
  · cases hread
    have hcount : (system.shared.getD (system.known task)).state = .tripped →
        2 ≤ (system.shared.getD (system.known task)).failCount := by
      cases hshared : system.shared with
      | none => exact hsound.aware task
      | some entry => exact hsound.counted entry hshared
    have haware := hsound.know task hcount
    split
    · rename_i hstate
      exact haware.setStage (hcount hstate)
    · rename_i hstate
      apply haware.answer
      apply hsound.clear
      rintro entry hentry ⟨htripped, -⟩
      rw [Option.mem_def.mp hentry, Option.getD_some] at hstate
      exact hstate htripped
  · cases hread

/-- The breaker is half-open again when all cooldowns are over. -/
theorem Sound.write (horderly : Orderly cooldown system (.write task))
    (hwrite : system.act cooldown (.write task) = some after) : Sound cooldown after := by
  simp only [System.act] at hwrite
  split at hwrite
  · rename_i caller entry hstage
    cases hwrite
    have hclear := hsound.clear horderly
    have hcount := hsound.stages task
    rw [hstage] at hcount
    have hopened : Sound cooldown (system.setShared { entry with state := .halfOpen }) := by
      apply hsound.setShared
      · intro failed hfailed hclock
        exact absurd (hclear failed hfailed) (not_lt.mpr hclock)
      · exact fun _ => hcount
      · exact fun _ _ => hcount
    have hhalf : ({ entry with state := .halfOpen } : Entry).state = .tripped →
        2 ≤ ({ entry with state := .halfOpen } : Entry).failCount := fun _ => hcount
    exact (hopened.know task hhalf).answer hclear task caller .halfOpen
  · cases hwrite

theorem Sound.verdict
    (hverdict : system.act cooldown (.verdict task) = some after) : Sound cooldown after := by
  simp only [System.act] at hverdict
  split at hverdict
  · rename_i now hstage
    cases hverdict
    exact hsound.probeFailed hstage
  · rename_i hstage
    cases hverdict
    have hok := hsound.stages task
    rw [hstage] at hok
    obtain ⟨hholder, hclear⟩ := hok
    have hhealthy : Sound cooldown (system.setShared {}) := by
      apply hsound.setHealthy hclear
      intro other
      by_cases hsame : other = task
      · rw [hsame, hstage]
        exact ⟨by decide, fun now => nofun⟩
      · have hfree := hsound.free hholder hsame
        constructor
        · intro hprobing
          rw [hprobing] at hfree
          cases hfree
        · intro now hfailed
          rw [hfailed] at hfree
          cases hfree
    exact (hhealthy.know task counted_healthy).setStage ⟨hholder, hclear⟩
  · cases hverdict

theorem Sound.release
    (hrelease : system.act cooldown (.release task) = some after) : Sound cooldown after := by
  simp only [System.act] at hrelease
  have hok := hsound.stages task
  split at hrelease
  · rename_i hstage
    cases hrelease
    rw [hstage] at hok
    obtain ⟨hholder, hclear⟩ := hok
    have hlease : Sound cooldown ({ system with holder := none }.setStage task .idle) :=
      hsound.passLease none (fun other hother => hsound.free hholder hother) trivial
    exact hlease.observe (.inr (.inr rfl)) hclear
  · rename_i hstage
    cases hrelease
    rw [hstage] at hok
    exact hsound.passLease none (fun other hother => hsound.free hok hother) trivial
  · cases hrelease

theorem Sound.crash
    (hcrash : system.act cooldown (.crash task) = some after) : Sound cooldown after := by
  unfold System.act at hcrash
  cases hcrash
  split
  · rename_i hholds
    have hholder := (hsound.stages task).holder hholds
    exact hsound.passLease none (fun other hother => hsound.free hholder hother) trivial
  · exact hsound.setStage trivial

theorem Sound.act {action : Action}
    (horderly : Orderly cooldown system action) (hact : system.act cooldown action = some after) :
    Sound cooldown after := by
  cases action with
  | wait seconds =>
    simp only [System.act] at hact
    split at hact
    · rename_i hseconds
      cases hact
      exact hsound.wait hseconds
    · cases hact
  | read task caller => exact hsound.read hact
  | check task =>
    simp only [System.act] at hact
    split at hact
    · rename_i caller entry hstage
      cases hact
      have hok := hsound.stages task
      rw [hstage] at hok
      split
      · exact hsound.setStage hok
      · exact hsound.setStage trivial
    · cases hact
  | write task => exact hsound.write horderly hact
  | acquire task =>
    simp only [System.act] at hact
    split at hact
    · rename_i hstage hholder
      cases hact
      obtain ⟨entry, hentry, hcool, hcount⟩ := horderly hholder
      have hclear : Clear cooldown system := by
        apply hsound.clear
        intro other hother
        rw [Option.mem_unique hother hentry]
        exact hcool
      exact hsound.acquire hholder hclear ⟨entry, hentry, hcount⟩
    · cases hact
      exact hsound.setStage trivial
    · cases hact
  | probe task result =>
    simp only [System.act] at hact
    split at hact
    · rename_i hstage
      cases hact
      have hok := hsound.stages task
      rw [hstage] at hok
      apply hsound.setStage
      cases result with
      | success => exact ⟨hok.1, hok.2.1⟩
      | failure => exact hok
      | cancelled => exact hok.1
    · cases hact
  | verdict task => exact hsound.verdict hact
  | release task => exact hsound.release hact
  | fail task =>
    simp only [System.act] at hact
    split at hact
    · cases hact
      exact hsound.setStage trivial
    · cases hact
  | report task =>
    simp only [System.act] at hact
    split at hact
    · rename_i now hstage
      cases hact
      simp only [Orderly] at horderly
      rw [hstage] at horderly
      have hfailed := hsound.setFailed horderly
      exact (hfailed.know task counted_recordFailure).setStage trivial
    · cases hact
  | succeed task =>
    obtain ⟨hholder, hcool⟩ := horderly
    simp only [System.act] at hact
    split at hact
    · cases hact
      have hhealthy : Sound cooldown (system.setShared {}) := by
        apply hsound.setHealthy (hsound.clear hcool)
        intro other
        have hfree := hsound.free_of_none hholder other
        constructor
        · intro hprobing
          rw [hprobing] at hfree
          cases hfree
        · intro now hfailed
          rw [hfailed] at hfree
          cases hfree
      exact hhealthy.know task counted_healthy
    · cases hact
  | crash task => exact hsound.crash hact

omit hsound

end Cooldowns

/-- In an orderly run nothing is let through or tried before the cooldowns of the failed
probes are over. -/
theorem each_afterCooldown {cooldown : ℚ} {actions : List Action} {system : System}
    (hrun : StepRun (System.act cooldown) (Orderly cooldown) {} actions system) :
    EachAfter (AfterCooldown cooldown) system.history := by
  have hsound : Sound cooldown system := by
    apply hrun.invariant
    · intro state action next hstate horderly hact
      exact hstate.act horderly hact
    · exact sound_start
  exact hsound.each

/-- Three failures trip the breaker, and the cooldown passes. -/
def tripped : List Action :=
  [.fail 0, .report 0, .fail 0, .report 0, .fail 0, .report 0, .wait 301]

/-- One task probes after the cooldown, fails, waits and probes again. -/
def oneTask : List Action :=
  tripped ++
    [.read 0 .available, .check 0, .write 0, .acquire 0, .probe 0 .failure, .verdict 0,
      .release 0, .read 0 .available, .check 0, .wait 301, .read 0 .available, .check 0,
      .write 0, .acquire 0, .probe 0 .success, .verdict 0, .release 0]

theorem oneTask_runs :
    (replay (System.act 300) (fun state action => decide (Orderly 300 state action)) {}
      oneTask).isSome = true := by
  decide +kernel

theorem each_afterCooldown_oneTask :
    EachAfter (AfterCooldown 300) ((replay (System.act 300)
      (fun state action => decide (Orderly 300 state action)) {} oneTask).get
        oneTask_runs).history :=
  each_afterCooldown (stepRun_get oneTask_runs)

/-- While one task probes, another one reads that the breaker is half-open. -/
def twoTasks : List Action :=
  tripped ++
    [.read 0 .available, .check 0, .write 0, .read 1 .available, .acquire 0,
      .probe 0 .failure, .verdict 0, .release 0, .acquire 1]

theorem twoTasks_runs :
    (replay (System.act 300) (fun _ _ => decide True) {} twoTasks).isSome = true := by
  decide +kernel

/-- The second task gets the lease once the first one has failed, and probes at once. -/
theorem probe_within_cooldown :
    ∃ actions system, StepRun (System.act 300) (fun _ _ => True) {} actions system ∧
      ¬EachAfter (AfterCooldown 300) system.history := by
  refine ⟨twoTasks, _, stepRun_get twoTasks_runs, ?_⟩
  have hhistory : ((replay (System.act 300) (fun _ _ => decide True) {} twoTasks).get
      twoTasks_runs).history =
        [.sawHalfOpen 301, .sawHalfOpen 301, .probeStarted 301, .probeFailed 301] ++
          [.probeStarted 301] := by
    decide +kernel
  rw [hhistory]
  intro heach
  have hafter := heach _ _ [] rfl 301 (by decide)
  norm_num at hafter

end SignPulse.ProxyBreaker
