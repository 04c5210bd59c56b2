import Mathlib.Data.List.Perm.Subperm
import Mathlib.Tactic.Linarith
import SignPulse.Semantic.SemanticService

/-!
# Call budgets

How many client calls a run makes before it is finished, as long as its counter is not dropped, and
how many the service makes within a minute, as long as no call starts later than it was consumed.
-/

namespace SignPulse.SemanticCalls

open Foundation

/-! ## What an evaluation does to the budgets -/

def countFrom (first : ℚ) (times : List ℚ) : ℕ :=
  times.countP fun time => first ≤ time

namespace SemanticService

/-- What a check leaves as it is. -/
structure Checked (service next : SemanticService) (now : ℚ) : Prop where
  perRun : next.maxCallsPerRun = service.maxCallsPerRun
  perMinute : next.maxCallsPerMinute = service.maxCallsPerMinute
  counts : next.runCallCounts = service.runCallCounts
  /-- The last minute. -/
  window : ∀ first, now < first + 60 →
    countFrom first service.minuteWindow ≤ countFrom first next.minuteWindow

variable {service next : SemanticService} {runId reasonCode : String}
variable {now deadline checked compared consumed : ℚ}

theorem Checked.refl : service.Checked service now :=
  ⟨rfl, rfl, rfl, fun _ _ => le_rfl⟩

/-- What came within the minute before is not dropped. -/
theorem countFrom_recent {times : List ℚ} {first : ℚ} (hnow : now < first + 60) :
    countFrom first times ≤ countFrom first (times.filter fun time => now - time < 60) := by
  unfold countFrom
  rw [List.countP_filter]
  apply List.countP_mono_left
  intro time _ htime
  rw [decide_eq_true_eq] at htime
  rw [Bool.and_eq_true, decide_eq_true_eq, decide_eq_true_eq]
  constructor
  · exact htime
  · linarith

theorem checkRateLimits_spec : service.Checked (service.checkRateLimits runId now).1 now ∧
      ((service.checkRateLimits runId now).2 = none →
        (0 < service.maxCallsPerRun → (service.runCalls runId : ℤ) < service.maxCallsPerRun) ∧
          (0 < service.maxCallsPerMinute →
            ((service.checkRateLimits runId now).1.minuteWindow.length : ℤ) <
              service.maxCallsPerMinute)) := by
  unfold checkRateLimits
  split
  · exact ⟨.refl, nofun⟩
  next hrun =>
    have hcalls : 0 < service.maxCallsPerRun →
        (service.runCalls runId : ℤ) < service.maxCallsPerRun := by
      intro hpositive
      by_contra hmany
      exact hrun ⟨hpositive, not_lt.mp hmany⟩
    split
    · refine ⟨⟨rfl, rfl, rfl, fun first hfirst => countFrom_recent hfirst⟩, ?_⟩
      dsimp only
      intro hnone
      refine ⟨hcalls, fun _ => ?_⟩
      split at hnone
      · cases hnone
      next hfew => exact not_le.mp hfew
    next hminute => exact ⟨.refl, fun _ => ⟨hcalls, fun hpositive => absurd hpositive hminute⟩⟩

theorem beginCall_refused (hbegin : service.beginCall runId deadline checked compared consumed =
    (next, some reasonCode)) : service.Checked next checked := by
  have hspec : service.Checked (service.checkRateLimits runId checked).1 checked :=
    service.checkRateLimits_spec.1
  unfold beginCall at hbegin
  split at hbegin
  next hcheck =>
    rw [hcheck] at hspec
    cases hbegin
    exact hspec
  next hcheck =>
    rw [hcheck] at hspec
    split at hbegin
    · cases hbegin
      exact hspec
    · cases hbegin

theorem beginCall_consumed (hbegin : service.beginCall runId deadline checked compared consumed =
    (next, none)) :
    ∃ left : SemanticService, service.Checked left checked ∧ next = left.consumeCall runId consumed ∧
      (service.checkRateLimits runId checked).2 = none ∧ compared < deadline ∧
      (0 < service.maxCallsPerRun → (service.runCalls runId : ℤ) < service.maxCallsPerRun) ∧
      (0 < service.maxCallsPerMinute →
        (left.minuteWindow.length : ℤ) < service.maxCallsPerMinute) := by
  have hspec : service.Checked (service.checkRateLimits runId checked).1 checked ∧ _ :=
    service.checkRateLimits_spec
  unfold beginCall at hbegin
  split at hbegin
  · cases hbegin
  next hcheck =>
    rw [hcheck] at hspec
    split at hbegin
    · cases hbegin
    next hdeadline =>
      cases hbegin
      obtain ⟨hkept, hfew⟩ := hspec
      obtain ⟨hrun, hminute⟩ := hfew rfl
      exact ⟨_, hkept, rfl, congrArg Prod.snd hcheck, not_le.mp hdeadline, hrun, hminute⟩

end SemanticService

/-! ## The evaluations that wait -/

/-- The run of an evaluation that waits, and when its call was consumed. -/
def Waiter.entry (waiter : Waiter) : String × ℚ :=
  (waiter.runId, waiter.consumed)

theorem entries_grantFirst {waiters granted : List Waiter}
    (hgrant : grantFirst waiters = some granted) :
    granted.map Waiter.entry = waiters.map Waiter.entry := by
  induction waiters generalizing granted with
  | nil => cases hgrant
  | cons waiter rest ih =>
    unfold grantFirst at hgrant
    split at hgrant
    · obtain ⟨others, hothers, rfl⟩ := Option.map_eq_some_iff.mp hgrant
      rw [List.map_cons, List.map_cons, ih hothers]
    · cases hgrant
      rfl

namespace Semaphore

def waiting (semaphore : Semaphore) : List (String × ℚ) :=
  semaphore.waiters.map Waiter.entry

variable {semaphore : Semaphore} {index : ℕ} {waiter : Waiter}

theorem waiting_wakeUpNext : semaphore.wakeUpNext.waiting = semaphore.waiting := by
  unfold wakeUpNext
  split
  next hgrant => exact entries_grantFirst hgrant
  · rfl

theorem waiting_release : semaphore.release.waiting = semaphore.waiting :=
  waiting_wakeUpNext

theorem waiting_iterate (count : ℕ) : (wakeUpNext^[count] semaphore).waiting = semaphore.waiting := by
  induction count generalizing semaphore with
  | zero => rfl
  | succ count ih => rw [Function.iterate_succ_apply, ih, waiting_wakeUpNext]

theorem waiting_leave (returned : ℕ) (hwaiter : semaphore.waiters[index]? = some waiter) :
    List.Perm (waiter.entry :: (semaphore.leave index returned).waiting) semaphore.waiting := by
  obtain ⟨hlt, rfl⟩ := List.getElem?_eq_some_iff.mp hwaiter
  simp only [leave]
  rw [waiting_iterate]
  exact (List.getElem_cons_eraseIdx_perm hlt).map Waiter.entry

end Semaphore

/-! ## Calls of a run -/

namespace System

/-- The calls that a run has consumed since it was last finished, but for those that were
cancelled. -/
def outstanding (system : System) (runId : String) : ℕ :=
  callsSinceFinish runId system.events +
    system.semaphore.waiting.countP fun entry => entry.1 = runId

def KeepsCounter (system : System) : Action → Prop
  | .evaluate runId deadline checked compared _ =>
    (system.service.checkRateLimits runId checked).2 = none → compared < deadline →
      system.outstanding runId = 0 ∨ system.service.keptCounts.hasKey runId = true
  | .finishRun runId => ∀ entry ∈ system.semaphore.waiting, entry.1 ≠ runId
  | .resume _ _ | .cancel _ | .answered => True

instance (system : System) : (action : Action) → Decidable (system.KeepsCounter action)
  | .evaluate _ _ _ _ _ => inferInstanceAs (Decidable (_ → _ → _ ∨ _))
  | .finishRun runId =>
    inferInstanceAs (Decidable (∀ entry ∈ system.semaphore.waiting, entry.1 ≠ runId))
  | .resume _ _ | .cancel _ | .answered => instDecidableTrue

def StartsInTime (system : System) : Action → Prop
  | .resume index time => ∀ waiter ∈ system.semaphore.waiters[index]?, time = waiter.consumed
  | .evaluate .. | .cancel _ | .answered | .finishRun _ => True

instance (system : System) : (action : Action) → Decidable (system.StartsInTime action)
  | .resume index time =>
    inferInstanceAs
      (Decidable (∀ waiter ∈ system.semaphore.waiters[index]?, time = waiter.consumed))
  | .evaluate _ _ _ _ _ | .cancel _ | .answered | .finishRun _ => instDecidableTrue

variable {system next : System} {runId other : String} {time : ℚ}

theorem outstanding_call : (system.call runId time).outstanding other =
    system.outstanding other + if runId = other then 1 else 0 := by
  simp only [outstanding, call]
  rw [callsSinceFinish]
  split
  · omega
  · rfl

theorem outstanding_acquire : (system.acquire runId time).outstanding other =
    system.outstanding other + if runId = other then 1 else 0 := by
  unfold acquire
  split
  · rw [outstanding_call]
    rfl
  · unfold outstanding Semaphore.waiting
    rw [List.map_append, List.countP_append]
    simp only [List.map_cons, List.map_nil, Waiter.entry, List.countP_singleton, decide_eq_true_eq]
    omega

theorem service_acquire : (system.acquire runId time).service = system.service := by
  unfold acquire
  split <;> rfl

theorem outstanding_leave {index returned : ℕ} {waiter : Waiter}
    (hwaiter : system.semaphore.waiters[index]? = some waiter) :
    { system with semaphore := system.semaphore.leave index returned }.outstanding other +
        (if waiter.runId = other then 1 else 0) = system.outstanding other := by
  have hperm := (Semaphore.waiting_leave returned hwaiter).countP_eq
    (fun entry => decide (entry.1 = other))
  unfold outstanding
  rw [← hperm, List.countP_cons, Waiter.entry]
  simp only [decide_eq_true_eq]
  omega

/-- The counters are those of the runs, and no run has more calls than its budget. -/
structure Counted (limit : ℤ) (system : System) : Prop where
  perRun : system.service.maxCallsPerRun = limit
  nodup : system.service.runCallCounts.keyList.Nodup
  counted : ∀ (runId : String) (count : ℕ),
    system.service.runCallCounts.getItem runId = some count → system.outstanding runId ≤ count
  few : ∀ runId : String, (system.outstanding runId : ℤ) ≤ limit

theorem Counted.congr {limit : ℤ} (hcounted : Counted limit system)
    (hperRun : next.service.maxCallsPerRun = system.service.maxCallsPerRun)
    (hcounts : next.service.runCallCounts = system.service.runCallCounts)
    (houtstanding : ∀ runId, next.outstanding runId ≤ system.outstanding runId) :
    Counted limit next where
  perRun := hperRun.trans hcounted.perRun
  nodup := hcounts ▸ hcounted.nodup
  counted runId count hget :=
    (houtstanding runId).trans (hcounted.counted runId count (hcounts ▸ hget))
  few runId := (Int.ofNat_le.mpr (houtstanding runId)).trans (hcounted.few runId)

end System

namespace SemanticService

variable {service : SemanticService} {runId : String} {count : ℕ}

theorem keptCounts_sublist : service.keptCounts.Sublist service.runCallCounts := by
  unfold keptCounts
  split
  · exact List.drop_sublist _ _
  · exact List.Sublist.refl _

theorem nodup_keptCounts (hnodup : service.runCallCounts.keyList.Nodup) :
    service.keptCounts.keyList.Nodup :=
  hnodup.sublist (keptCounts_sublist.map Prod.fst)

theorem getItem_of_kept (hnodup : service.runCallCounts.keyList.Nodup)
    (hget : service.keptCounts.getItem runId = some count) :
    service.runCallCounts.getItem runId = some count :=
  Dict.getItem_of_mem hnodup (keptCounts_sublist.subset (Dict.mem_of_getItem hget))

end SemanticService

namespace System

variable {system next : System} {runId : String} {action : Action} {limit : ℤ}

theorem Counted.evaluate {deadline checked compared consumed : ℚ} {service : SemanticService}
    (hpositive : 0 < limit) (hcounted : Counted limit system)
    (hkeeps : system.KeepsCounter (.evaluate runId deadline checked compared consumed))
    (hbegin : system.service.beginCall runId deadline checked compared consumed = (service, none)) :
    Counted limit ({ system with service }.acquire runId consumed) := by
  obtain ⟨left, hchecked, rfl, hnone, hdeadline, hrun, -⟩ :=
    SemanticService.beginCall_consumed hbegin
  have hkept : left.keptCounts = system.service.keptCounts := by
    unfold SemanticService.keptCounts
    rw [hchecked.counts]
  have hlimit : 0 < left.maxCallsPerRun := by
    rwa [hchecked.perRun, hcounted.perRun]
  have hcounts : (left.consumeCall runId consumed).runCallCounts =
      system.service.keptCounts.setItem runId
        ((system.service.keptCounts.getItem runId).getD 0 + 1) := by
    simp only [SemanticService.consumeCall]
    rw [if_pos hlimit, hkept]
  -- the run has no more calls than its counter says before it is increased
  have hcount : system.outstanding runId ≤ (system.service.keptCounts.getItem runId).getD 0 ∧
      (system.outstanding runId : ℤ) < limit := by
    rcases hkeeps hnone hdeadline with hzero | hkey
    · rw [hzero]
      exact ⟨Nat.zero_le _, hpositive⟩
    · obtain ⟨count, hget⟩ := Option.isSome_iff_exists.mp hkey
      have hfound := SemanticService.getItem_of_kept hcounted.nodup hget
      have hle := hcounted.counted runId count hfound
      have hcalls := hrun (hcounted.perRun ▸ hpositive)
      unfold SemanticService.runCalls at hcalls
      rw [hfound, Option.getD_some, hcounted.perRun] at hcalls
      rw [hget, Option.getD_some]
      exact ⟨hle, (Int.ofNat_le.mpr hle).trans_lt hcalls⟩
  refine ⟨?_, ?_, ?_, ?_⟩
  · rw [service_acquire]
    exact hchecked.perRun.trans hcounted.perRun
  · rw [service_acquire]
    rw [hcounts]
    exact Dict.nodup_setItem _ _ (SemanticService.nodup_keptCounts hcounted.nodup)
  · intro other count hget
    rw [service_acquire] at hget
    rw [hcounts] at hget
    rw [outstanding_acquire]
    change system.outstanding other + _ ≤ count
    by_cases hother : runId = other
    · subst hother
      rw [Dict.getItem_setItem_self] at hget
      cases hget
      rw [if_pos rfl]
      exact Nat.succ_le_succ hcount.1
    · rw [Dict.getItem_setItem_of_ne _ _ (Ne.symm hother)] at hget
      rw [if_neg hother]
      exact hcounted.counted other count (SemanticService.getItem_of_kept hcounted.nodup hget)
  · intro other
    rw [outstanding_acquire]
    change ((system.outstanding other + _ : ℕ) : ℤ) ≤ limit
    by_cases hother : runId = other
    · subst hother
      rw [if_pos rfl]
      omega
    · rw [if_neg hother]
      exact hcounted.few other

theorem Counted.finishRun (hcounted : Counted limit system)
    (hkeeps : system.KeepsCounter (.finishRun runId)) :
    Counted limit
      { system with
        service := system.service.finishRun runId
        events := .finished runId :: system.events } := by
  have houtstanding : ∀ other : String,
      { system with
        service := system.service.finishRun runId
        events := .finished runId :: system.events }.outstanding other =
        if runId = other then 0 else system.outstanding other := by
    intro other
    simp only [outstanding]
    rw [callsSinceFinish]
    split
    next hother =>
      rw [Nat.zero_add, List.countP_eq_zero]
      intro entry hentry
      rw [decide_eq_true_eq, ← hother]
      exact hkeeps entry hentry
    · rfl
  refine ⟨hcounted.perRun, Dict.nodup_popItem runId hcounted.nodup, ?_, ?_⟩
  · intro other count hget
    rw [houtstanding]
    split
    · exact Nat.zero_le count
    next hother =>
      refine hcounted.counted other count ?_
      rwa [← Dict.getItem_popItem_of_ne system.service.runCallCounts (Ne.symm hother)]
  · intro other
    rw [houtstanding]
    split
    · exact (Nat.cast_nonneg _).trans (hcounted.few other)
    · exact hcounted.few other

theorem Counted.step (hpositive : 0 < limit) (hcounted : Counted limit system)
    (hkeeps : system.KeepsCounter action) (hstep : system.step action = some next) :
    Counted limit next := by
  cases action with
  | evaluate runId deadline checked compared consumed =>
    simp only [System.step] at hstep
    split at hstep
    · split at hstep
      next hbegin =>
        cases hstep
        have hchecked := SemanticService.beginCall_refused hbegin
        exact hcounted.congr hchecked.perRun hchecked.counts fun _ => le_rfl
      next hbegin =>
        cases hstep
        exact hcounted.evaluate hpositive hkeeps hbegin
    · cases hstep
  | resume index time =>
    simp only [System.step] at hstep
    split at hstep
    next waiter hwaiter =>
      split at hstep
      · cases hstep
        refine hcounted.congr rfl rfl fun runId => ?_
        rw [outstanding_call]
        exact (outstanding_leave hwaiter).le
      · cases hstep
    · cases hstep
  | cancel index =>
    simp only [System.step] at hstep
    split at hstep
    next waiter hwaiter =>
      cases hstep
      exact hcounted.congr rfl rfl fun runId =>
        (Nat.le_add_right _ _).trans (outstanding_leave hwaiter).le
    · cases hstep
  | answered =>
    simp only [System.step] at hstep
    split at hstep
    · cases hstep
      refine hcounted.congr rfl rfl fun runId => ?_
      unfold outstanding
      rw [Semaphore.waiting_release]
    · cases hstep
  | finishRun finished =>
    cases hstep
    exact hcounted.finishRun hkeeps

/-! ## Calls of a minute -/

def inMinute (first : ℚ) (times : List ℚ) : List ℚ :=
  times.filter fun time => first ≤ time ∧ time < first + 60

/-- The times at which calls were consumed that have started or still wait. -/
def startTimes (system : System) : List ℚ :=
  system.events.filterMap Event.callTime? ++ system.semaphore.waiting.map Prod.snd

/-- Of the calls that were ever consumed, a minute has no more than its budget, and the last minute
is remembered. -/
structure Windowed (limit : ℤ) (consumed : List ℚ) (system : System) : Prop where
  perMinute : system.service.maxCallsPerMinute = limit
  started : system.startTimes.Subperm consumed
  past : ∀ time ∈ consumed, time ≤ system.clock
  window : ∀ first, system.clock < first + 60 →
    countFrom first consumed ≤ countFrom first system.service.minuteWindow
  few : ∀ first, ((inMinute first consumed).length : ℤ) ≤ limit

variable {consumed : List ℚ} {first time clock : ℚ} {service : SemanticService}

theorem Windowed.congr (hwindowed : Windowed limit consumed system)
    (hservice : next.service = system.service) (hclock : system.clock ≤ next.clock)
    (hstarted : next.startTimes.Subperm system.startTimes) : Windowed limit consumed next where
  perMinute := hservice ▸ hwindowed.perMinute
  started := hstarted.trans hwindowed.started
  past time hmem := (hwindowed.past time hmem).trans hclock
  window first hfirst := hservice ▸ hwindowed.window first (hclock.trans_lt hfirst)
  few := hwindowed.few

theorem Windowed.refused {checked : ℚ} (hwindowed : Windowed limit consumed system)
    (hchecked : system.service.Checked service checked) (hfirst : system.clock ≤ checked)
    (hlast : checked ≤ clock) : Windowed limit consumed { system with service, clock } where
  perMinute := hchecked.perMinute.trans hwindowed.perMinute
  started := hwindowed.started
  past time hmem := (hwindowed.past time hmem).trans (hfirst.trans hlast)
  window first hbefore :=
    (hwindowed.window first ((hfirst.trans hlast).trans_lt hbefore)).trans
      (hchecked.window first (hlast.trans_lt hbefore))
  few := hwindowed.few

theorem startTimes_acquire {runId : String} :
    (system.acquire runId time).startTimes.Perm (time :: system.startTimes) := by
  unfold acquire startTimes
  split
  · exact List.Perm.refl _
  · rw [Semaphore.waiting, List.map_append, List.map_append, ← List.append_assoc]
    exact List.perm_append_singleton _ _

theorem startTimes_leave {index : ℕ} {waiter : Waiter} (returned : ℕ)
    (hwaiter : system.semaphore.waiters[index]? = some waiter) :
    List.Perm
      (waiter.consumed ::
        { system with semaphore := system.semaphore.leave index returned }.startTimes)
      system.startTimes := by
  have hperm := (Semaphore.waiting_leave returned hwaiter).map Prod.snd
  exact List.perm_middle.symm.trans (hperm.append_left _)

theorem clock_acquire {runId : String} : (system.acquire runId time).clock = time := by
  unfold acquire
  split <;> rfl

theorem Windowed.consume {runId : String} (hpositive : 0 < limit)
    (hwindowed : Windowed limit consumed { system with service, clock }) (hclock : clock ≤ time)
    (hfew : (service.minuteWindow.length : ℤ) < limit) :
    Windowed limit (time :: consumed)
      ({ system with service := service.consumeCall runId time }.acquire runId time) := by
  have hlimit : 0 < service.maxCallsPerMinute := hwindowed.perMinute ▸ hpositive
  have hwindow : (service.consumeCall runId time).minuteWindow = service.minuteWindow ++ [time] :=
    if_pos hlimit
  refine ⟨?_, ?_, ?_, ?_, ?_⟩
  · rw [service_acquire]
    exact hwindowed.perMinute
  · refine startTimes_acquire.subperm.trans ?_
    exact (List.subperm_cons time).mpr hwindowed.started
  · intro earlier hmem
    rw [clock_acquire]
    rcases List.mem_cons.mp hmem with rfl | hmem
    · exact le_rfl
    · exact (hwindowed.past earlier hmem).trans hclock
  · intro first hfirst
    rw [clock_acquire] at hfirst
    rw [service_acquire]
    change _ ≤ countFrom first (service.consumeCall runId time).minuteWindow
    have hearlier := hwindowed.window first (hclock.trans_lt hfirst)
    unfold countFrom at hearlier ⊢
    rw [hwindow, List.countP_append, List.countP_cons, List.countP_singleton]
    exact Nat.add_le_add_right hearlier _
  · intro first
    by_cases hinside : first ≤ time ∧ time < first + 60
    · -- every earlier call of the minute is still in the window
      have hearlier := hwindowed.window first (hclock.trans_lt hinside.2)
      have hminute : (inMinute first consumed).length ≤ countFrom first consumed := by
        rw [inMinute, countFrom, ← List.countP_eq_length_filter]
        apply List.countP_mono_left
        intro earlier _ hboth
        rw [decide_eq_true_eq] at hboth
        exact decide_eq_true hboth.1
      have hlength := (hminute.trans hearlier).trans List.countP_le_length
      have hadded : inMinute first (time :: consumed) = time :: inMinute first consumed :=
        List.filter_cons_of_pos (decide_eq_true hinside)
      dsimp only at hlength
      rw [hadded, List.length_cons]
      omega
    · have hsame : inMinute first (time :: consumed) = inMinute first consumed :=
        List.filter_cons_of_neg (by rwa [decide_eq_true_eq])
      rw [hsame]
      exact hwindowed.few first

theorem Windowed.step (hpositive : 0 < limit) (hwindowed : Windowed limit consumed system)
    (htime : system.StartsInTime action) (hstep : system.step action = some next) :
    ∃ consumed, Windowed limit consumed next := by
  cases action with
  | evaluate runId deadline checked compared time =>
    simp only [System.step] at hstep
    split at hstep
    next hclock =>
      obtain ⟨hchecked, hcompared, htime⟩ := hclock
      split at hstep
      next hbegin =>
        cases hstep
        exact ⟨consumed, hwindowed.refused (SemanticService.beginCall_refused hbegin) hchecked
          (hcompared.trans htime)⟩
      next hbegin =>
        cases hstep
        obtain ⟨left, hleft, rfl, -, -, -, hminute⟩ := SemanticService.beginCall_consumed hbegin
        have hfew := hminute (hwindowed.perMinute ▸ hpositive)
        rw [hwindowed.perMinute] at hfew
        exact ⟨time :: consumed, (hwindowed.refused hleft hchecked le_rfl).consume hpositive
          (hcompared.trans htime) hfew⟩
    · cases hstep
  | resume index time =>
    simp only [System.step] at hstep
    split at hstep
    next waiter hwaiter =>
      split at hstep
      next hgranted =>
        cases hstep
        refine ⟨consumed, hwindowed.congr rfl hgranted.2 ?_⟩
        obtain rfl := htime waiter (Option.mem_def.mpr hwaiter)
        exact (startTimes_leave 0 hwaiter).subperm
      · cases hstep
    · cases hstep
  | cancel index =>
    simp only [System.step] at hstep
    split at hstep
    next waiter hwaiter =>
      cases hstep
      refine ⟨consumed, hwindowed.congr rfl le_rfl ?_⟩
      exact (List.sublist_cons_self _ _).subperm.trans (startTimes_leave _ hwaiter).subperm
    · cases hstep
  | answered =>
    simp only [System.step] at hstep
    split at hstep
    · cases hstep
      refine ⟨consumed, hwindowed.congr rfl le_rfl ?_⟩
      unfold startTimes
      rw [Semaphore.waiting_release]
    · cases hstep
  | finishRun runId =>
    cases hstep
    exact ⟨consumed, hwindowed.perMinute, hwindowed.started, hwindowed.past, hwindowed.window,
      hwindowed.few⟩

/-! ## Runs of the service -/

section Runs

variable {maxConcurrency : ℕ} {perRun perMinute : ℤ} {last : System} {actions : List Action}

theorem counted_fresh (hpositive : 0 < perRun) :
    Counted perRun (fresh maxConcurrency perRun perMinute clock) :=
  ⟨rfl, List.nodup_nil, nofun, fun _ => hpositive.le⟩

theorem windowed_fresh (hpositive : 0 < perMinute) :
    Windowed perMinute [] (fresh maxConcurrency perRun perMinute clock) :=
  ⟨rfl, List.Subperm.refl _, nofun, fun _ _ => le_rfl, fun _ => hpositive.le⟩

/-- As long as no counter starts anew, a run has no more client calls than its budget before it is
finished; as long as no call starts later than it was consumed, neither has a minute. -/
theorem budgets_of_run :
    (StepRun step KeepsCounter (fresh maxConcurrency perRun perMinute clock) actions last →
      0 < perRun → ∀ runId, (callsSinceFinish runId last.events : ℤ) ≤ perRun) ∧
    (StepRun step StartsInTime (fresh maxConcurrency perRun perMinute clock) actions last →
      0 < perMinute → ∀ first, ((last.callsInMinute first).length : ℤ) ≤ perMinute) := by
  constructor
  · intro hrun hpositive runId
    have hcounted : Counted perRun last :=
      hrun.invariant _ (fun _ _ _ => Counted.step hpositive) (counted_fresh hpositive)
    have hfew := hcounted.few runId
    unfold outstanding at hfew
    omega
  · intro hrun hpositive first
    obtain ⟨consumed, hwindowed⟩ : ∃ consumed, Windowed perMinute consumed last :=
      hrun.invariant (fun system => ∃ consumed, Windowed perMinute consumed system)
        (fun _ _ _ hinv => hinv.elim fun _ hwindowed => hwindowed.step hpositive)
        ⟨[], windowed_fresh hpositive⟩
    have hcalls : (last.callsInMinute first).length ≤ (inMinute first last.startTimes).length := by
      unfold callsInMinute startTimes
      exact ((List.sublist_append_left _ _).filter _).length_le
    have hstarted := (hwindowed.started.filter fun time => first ≤ time ∧ time < first + 60).length_le
    have hfew := hwindowed.few first
    unfold inMinute at hcalls hfew
    omega

/-- Two runs share the only slot, and one of them is finished and called once more. -/
def sharedSlot : List Action :=
  [.evaluate "first" 9 1 1 1, .evaluate "second" 9 1 1 1, .answered, .resume 0 1,
    .finishRun "first", .answered, .evaluate "first" 9 2 2 2]

theorem budgets_of_sharedSlot :
    (∀ runId, (callsSinceFinish runId
      (stateAfter step (fresh 1 1 3 0) sharedSlot).events : ℤ) ≤ 1) ∧
      ∀ first, (((stateAfter step (fresh 1 1 3 0) sharedSlot).callsInMinute first).length : ℤ) ≤
        3 := by
  have hkeeps : StepRun step KeepsCounter (fresh 1 1 3 0) sharedSlot _ :=
    stepRun_stateAfter (by decide +kernel)
  have hstarts : StepRun step StartsInTime (fresh 1 1 3 0) sharedSlot _ :=
    stepRun_stateAfter (by decide +kernel)
  exact ⟨budgets_of_run.1 hkeeps (by decide), budgets_of_run.2 hstarts (by decide)⟩

/-! ## A counter that starts anew -/

def runName (index : ℕ) : String :=
  String.ofList (List.replicate index 'r')

theorem runName_injective {left right : ℕ} (heq : runName left = runName right) : left = right := by
  have hlength := congrArg (fun name : String => name.toList.length) heq
  simpa [runName] using hlength

/-- A service with one call for each run, none of which is running. -/
def quiet (counts : Dict String ℕ) (events : List Event) : System where
  service := { maxCallsPerRun := 1, maxCallsPerMinute := 0, runCallCounts := counts }
  semaphore := { value := 1 }
  clock := 0
  events := events

def oneCall (runId : String) : List Action :=
  [.evaluate runId 1 0 0 0, .answered]

variable {counts : Dict String ℕ} {runId : String} {count : ℕ}

theorem not_mem_of_getItem (hnew : counts.getItem runId = none) : runId ∉ counts.keyList := by
  rw [← Dict.hasKey_iff_mem_keyList, Dict.hasKey, hnew]
  exact Bool.false_ne_true

theorem quiet_counts (events : List Event) (hnew : counts.getItem runId = none) :
    ((quiet counts events).service.consumeCall runId 0).runCallCounts =
      (quiet counts events).service.keptCounts.setItem runId 1 := by
  have hlost : (quiet counts events).service.keptCounts.getItem runId = none := by
    have hkeys : runId ∉ (quiet counts events).service.keptCounts.keyList := fun hmem =>
      not_mem_of_getItem hnew ((SemanticService.keptCounts_sublist.map Prod.fst).subset hmem)
    rwa [← Dict.hasKey_iff_mem_keyList, Dict.hasKey, Bool.not_eq_true,
      Option.isSome_eq_false_iff, Option.isNone_iff_eq_none] at hkeys
  have hlimit : 0 < (quiet counts events).service.maxCallsPerRun := Int.one_pos
  simp only [SemanticService.consumeCall]
  rw [if_pos hlimit, hlost, Option.getD_none]

theorem quiet_keptCounts (events : List Event) (hmany : 2000 < counts.length) :
    (quiet counts events).service.keptCounts = counts.drop (counts.length - 1000) :=
  if_pos hmany

theorem quiet_oneCall (events : List Event) (hnew : counts.getItem runId = none) :
    StepRun step (fun _ _ => True) (quiet counts events) (oneCall runId)
      (quiet ((quiet counts events).service.keptCounts.setItem runId 1)
        (.called runId 0 :: events)) := by
  rw [← quiet_counts events hnew]
  have hcalls : (quiet counts events).service.runCalls runId = 0 := by
    simp only [SemanticService.runCalls, quiet]
    rw [hnew, Option.getD_none]
  have hbegin : (quiet counts events).service.beginCall runId 1 0 0 0 =
      ((quiet counts events).service.consumeCall runId 0, none) := by
    have hcheck : (quiet counts events).service.checkRateLimits runId 0 =
        ((quiet counts events).service, none) := by
      rw [SemanticService.checkRateLimits, hcalls]
      rfl
    rw [SemanticService.beginCall, hcheck]
    exact if_neg (by decide)
  refine .act trivial (?_ : step _ _ = some ({ quiet counts events with
    service := (quiet counts events).service.consumeCall runId 0 }.acquire runId 0)) ?_
  · unfold step
    dsimp only
    rw [hbegin]
    exact if_pos ⟨le_rfl, le_rfl, le_rfl⟩
  · exact .act trivial rfl (.done _)

/-- The counters of as many runs. -/
def crowdCounts (count : ℕ) : Dict String ℕ :=
  (List.range count).map fun index => (runName index, 1)

def crowdEvents : ℕ → List Event
  | 0 => []
  | count + 1 => .called (runName count) 0 :: crowdEvents count

theorem getItem_crowdCounts {index : ℕ} (dropped : ℕ) (hindex : index < dropped ∨ count ≤ index) :
    Dict.getItem ((crowdCounts count).drop dropped) (runName index) = none := by
  have hkeys : runName index ∉ Dict.keyList ((crowdCounts count).drop dropped) := by
    intro hmem
    rw [crowdCounts, Dict.keyList, ← List.map_drop, List.map_map] at hmem
    obtain ⟨other, hother, hname⟩ := List.mem_map.mp hmem
    obtain rfl := runName_injective hname
    obtain ⟨position, hposition, heq⟩ := List.mem_drop_iff_getElem.mp hother
    rw [List.getElem_range] at heq
    rw [List.length_range] at hposition
    omega
  rwa [← Dict.hasKey_iff_mem_keyList, Dict.hasKey, Bool.not_eq_true,
    Option.isSome_eq_false_iff, Option.isNone_iff_eq_none] at hkeys

theorem length_crowdCounts (count : ℕ) : (crowdCounts count).length = count := by
  rw [crowdCounts, List.length_map, List.length_range]

theorem crowd_run (hcount : count ≤ 2001) : StepRun step (fun _ _ => True) (fresh 1 1 0 0)
      ((List.range count).flatMap fun index => oneCall (runName index))
      (quiet (crowdCounts count) (crowdEvents count)) := by
  induction count with
  | zero => exact .done _
  | succ count ih =>
    have hnew : Dict.getItem (crowdCounts count) (runName count) = none :=
      getItem_crowdCounts 0 (Or.inr le_rfl)
    have hkept : (quiet (crowdCounts count) (crowdEvents count)).service.keptCounts =
        crowdCounts count := by
      refine if_neg (?_ : ¬2000 < (crowdCounts count).length)
      rw [length_crowdCounts]
      omega
    have hcounts : (crowdCounts count).setItem (runName count) 1 = crowdCounts (count + 1) := by
      rw [Dict.setItem_of_not_mem 1 (not_mem_of_getItem hnew)]
      unfold crowdCounts
      rw [List.range_succ, List.map_append]
      rfl
    rw [List.range_succ, List.flatMap_append, List.flatMap_singleton]
    have hcall := quiet_oneCall (crowdEvents count) hnew
    rw [hkept, hcounts] at hcall
    exact (ih (Nat.le_of_succ_le hcount)).append hcall

theorem calls_crowdEvents (count : ℕ) :
    callsSinceFinish (runName 0) (crowdEvents (count + 1)) = 1 := by
  induction count with
  | zero => exact if_pos rfl
  | succ count ih =>
    rw [crowdEvents, callsSinceFinish, if_neg fun heq => ?_, ih]
    exact absurd (runName_injective heq) (Nat.succ_ne_zero count)

/-- Another two calls: the first drops the counter of the first run. -/
def droppingActions (count : ℕ) : List Action :=
  ((List.range count).flatMap fun index => oneCall (runName index)) ++
    (oneCall (runName count) ++ oneCall (runName 0))

theorem dropping_run (hcount : count = 2000) : ∃ last : System,
    StepRun step (fun _ _ => True) (fresh 1 1 0 0) (droppingActions (count + 1)) last ∧
      callsSinceFinish (runName 0) last.events = 2 := by
  have hdropping := quiet_oneCall (crowdEvents (count + 1))
    (getItem_crowdCounts 0 (Or.inr (le_refl (count + 1))))
  have hkept : (quiet (crowdCounts (count + 1)) (crowdEvents (count + 1))).service.keptCounts =
      (crowdCounts (count + 1)).drop (count + 1 - 1000) := by
    have hmany : 2000 < (crowdCounts (count + 1)).length := by
      rw [length_crowdCounts]
      omega
    rw [quiet_keptCounts _ hmany, length_crowdCounts]
  have hother : runName 0 ≠ runName (count + 1) := fun heq =>
    absurd (runName_injective heq) (Nat.succ_ne_zero count).symm
  have hnew : Dict.getItem
      (Dict.setItem ((crowdCounts (count + 1)).drop (count + 1 - 1000)) (runName (count + 1)) 1)
      (runName 0) = none := by
    rw [Dict.getItem_setItem_of_ne _ _ hother]
    exact getItem_crowdCounts _ (Or.inl (by omega))
  rw [List.drop_zero, hkept] at hdropping
  refine ⟨_, (crowd_run (by omega)).append (hdropping.append (quiet_oneCall _ hnew)), ?_⟩
  have hevents : ∀ counts : Dict String ℕ, (quiet counts (.called (runName 0) 0 ::
      .called (runName (count + 1)) 0 :: crowdEvents (count + 1))).events =
        .called (runName 0) 0 :: .called (runName (count + 1)) 0 :: crowdEvents (count + 1) :=
    fun _ => rfl
  rw [hevents, callsSinceFinish, if_pos rfl, callsSinceFinish, if_neg hother.symm,
    calls_crowdEvents]

/-- Two calls that were consumed at once start a minute later, with one that waited longer. -/
def lateStarts : List Action :=
  [.evaluate "first" 99 0 0 0, .evaluate "second" 99 0 0 0, .answered, .resume 0 59,
    .evaluate "third" 99 60 60 60, .evaluate "fourth" 99 60 60 60, .answered, .resume 0 60,
    .answered, .resume 0 60]

theorem budgets_of_crowd :
    (¬ ∀ (maxConcurrency : ℕ) (perRun perMinute : ℤ) (clock : ℚ) (actions : List Action)
      (last : System),
      StepRun step (fun _ _ => True) (fresh maxConcurrency perRun perMinute clock) actions last →
      0 < perRun → ∀ runId, (callsSinceFinish runId last.events : ℤ) ≤ perRun) ∧
    ¬ ∀ (maxConcurrency : ℕ) (perRun perMinute : ℤ) (clock : ℚ) (actions : List Action)
      (last : System),
      StepRun step (fun _ _ => True) (fresh maxConcurrency perRun perMinute clock) actions last →
      0 < perMinute → ∀ first, ((last.callsInMinute first).length : ℤ) ≤ perMinute := by
  constructor
  · intro hclaim
    obtain ⟨last, hrun, hcalls⟩ := dropping_run rfl
    have hfew := hclaim _ _ _ _ _ last hrun Int.one_pos (runName 0)
    rw [hcalls] at hfew
    exact absurd hfew (by decide)
  · intro hclaim
    have hrun : StepRun step (fun _ _ => True) (fresh 1 6 2 0) lateStarts _ :=
      stepRun_stateAfter (by decide +kernel)
    have hfew := hclaim _ _ _ _ _ _ hrun (by decide) 59
    revert hfew
    decide +kernel

end Runs

end System

end SignPulse.SemanticCalls
