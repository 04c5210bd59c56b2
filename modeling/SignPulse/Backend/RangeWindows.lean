import Mathlib.Tactic.Linarith
import SignPulse.Backend.JobIsolation

/-!
# Windows of range tasks

The window of an instant is not empty and no longer than a day.  Where the instant lies in its
window, the times that are picked for a run lie between the instant and the end of the window.
-/

namespace SignPulse.Scheduling

open Foundation
open TaskConfigs (TaskInfo)

/-! ## Clock times -/

theorem lt_of_clockField {bound value : ℕ} {digits : List Char}
    (hfield : clockField bound digits = some value) : value < bound := by
  unfold clockField at hfield
  split at hfield
  · dsimp only at hfield
    split at hfield
    · next hlt =>
      cases hfield
      exact hlt
    · cases hfield
  · cases hfield

theorem lt_of_parseClockTime {value : String} {seconds : ℕ}
    (hparse : parseClockTime value = some seconds) : seconds < 86400 := by
  unfold parseClockTime at hparse
  split at hparse
  · obtain ⟨hour, hhour, hparse⟩ := Option.bind_eq_some_iff.mp hparse
    obtain ⟨minute, hminute, hparse⟩ := Option.bind_eq_some_iff.mp hparse
    obtain ⟨second, hsecond, hparse⟩ := Option.bind_eq_some_iff.mp hparse
    cases hparse
    have hhours := lt_of_clockField hhour
    have hminutes := lt_of_clockField hminute
    have hseconds := lt_of_clockField hsecond
    omega
  · obtain ⟨hour, hhour, hparse⟩ := Option.bind_eq_some_iff.mp hparse
    obtain ⟨minute, hminute, hparse⟩ := Option.bind_eq_some_iff.mp hparse
    cases hparse
    have hhours := lt_of_clockField hhour
    have hminutes := lt_of_clockField hminute
    omega
  · cases hparse

theorem getRangeWindow_of_clockTimes {rangeStart rangeEnd : String} {startTime endTime : ℕ}
    (hstart : parseClockTime rangeStart = some startTime)
    (hend : parseClockTime rangeEnd = some endTime) (now : ℚ) :
    ∃ start stop, getRangeWindow (.str rangeStart) (.str rangeEnd) now = some (start, stop) ∧
      start < stop ∧ stop - start ≤ daySeconds := by
  have hday : daySeconds = 86400 := rfl
  have hstartDay : (startTime : ℚ) < 86400 := by exact_mod_cast lt_of_parseClockTime hstart
  have hendDay : (endTime : ℚ) < 86400 := by exact_mod_cast lt_of_parseClockTime hend
  have hendZero : (0 : ℚ) ≤ endTime := Nat.cast_nonneg _
  simp only [getRangeWindow, clockTimeOf]
  rw [hstart, hend]
  dsimp only
  -- the days before cancel out
  generalize ((now / daySeconds).floor : ℚ) * daySeconds = midnight
  split
  · split
    · exact ⟨_, _, rfl, by linarith, by linarith⟩
    · exact ⟨_, _, rfl, by linarith, by linarith⟩
  · exact ⟨_, _, rfl, by linarith, by linarith⟩

/-! ## Times that are picked -/

/-- What `random.uniform` returns lies within its bounds. -/
def Surroundings.DrawsWithin (surroundings : Surroundings) : Prop :=
  0 ≤ surroundings.draw ∧ surroundings.draw ≤ 1

section Picks

variable {surroundings : Surroundings} {scheduler : Scheduler} {info : TaskInfo}
variable {accountName taskName : String} {start stop : ℚ}

theorem compensationTime_between (hdraw : surroundings.DrawsWithin)
    (hopen : surroundings.now < stop) :
    surroundings.now ≤ Scheduler.compensationTime surroundings stop ∧
      Scheduler.compensationTime surroundings stop ≤ stop := by
  have hremaining : max 0 (stop - surroundings.now) = stop - surroundings.now :=
    max_eq_right (sub_nonneg.mpr hopen.le)
  rw [Scheduler.compensationTime, hremaining]
  dsimp only
  split
  · have hmin : min 2 (stop - surroundings.now) ≤ stop - surroundings.now := min_le_right _ _
    have hzero : 0 ≤ min 2 (stop - surroundings.now) := le_min (by norm_num) (by linarith)
    exact ⟨by linarith, by linarith⟩
  · next hlong =>
    rw [not_le] at hlong
    have hmax : max 5 (stop - surroundings.now - 5) = stop - surroundings.now - 5 :=
      max_eq_right (by linarith)
    have hroom : 0 ≤ stop - surroundings.now - 5 - 5 := by linarith
    have hlow := mul_nonneg hdraw.1 hroom
    have hhigh := mul_le_of_le_one_left hroom hdraw.2
    rw [hmax]
    exact ⟨by linarith, by linarith⟩

theorem rangeDelay_between (hdraw : surroundings.DrawsWithin) (hlt : start < stop)
    (hopen : surroundings.now < stop) :
    0 ≤ Scheduler.rangeDelay surroundings start stop ∧
      surroundings.now + Scheduler.rangeDelay surroundings start stop ≤ stop := by
  have hremaining : max 0 (stop - surroundings.now) = stop - surroundings.now :=
    max_eq_right (sub_nonneg.mpr hopen.le)
  have hmin : Scheduler.rangeDelay surroundings start stop ≤ stop - surroundings.now := by
    rw [← hremaining]
    exact min_le_right _ _
  refine ⟨le_min (mul_nonneg hdraw.1 (by linarith)) (le_max_left _ _), by linarith⟩

theorem compensation_between (hdraw : surroundings.DrawsWithin)
    (hwindow : getRangeWindow info.rangeStart info.rangeEnd surroundings.now = some (start, stop))
    (hopen : surroundings.now < stop) {runAt : ℚ}
    (hrun : scheduler.computeRangeTaskCompensation surroundings info = some runAt) :
    surroundings.now ≤ runAt ∧ runAt ≤ stop := by
  unfold Scheduler.computeRangeTaskCompensation at hrun
  split at hrun
  · cases hrun
  split at hrun
  · cases hrun
  rw [hwindow] at hrun
  dsimp only at hrun
  split at hrun
  · cases hrun
  split at hrun
  · cases hrun
  split at hrun
  · cases hrun
  cases hrun
  exact compensationTime_between hdraw hopen

theorem date_of_scheduleOnce {delay runAt : ℚ} {jobId : String} {job : Job}
    (hjob : (scheduler.scheduleOnce surroundings accountName taskName delay).getJob jobId =
      some job) (hdate : job.trigger = .date runAt) :
    (jobId, job) ∈ scheduler.jobs ∨ runAt = surroundings.now + delay := by
  have hmem := Dict.mem_of_getItem hjob
  rcases Dict.mem_of_mem_setItem hmem with hnew | hold
  · right
    obtain ⟨-, rfl⟩ := hnew
    exact (Trigger.date.inj hdate).symm
  · exact .inl (List.mem_filter.mp hold).1

theorem runInRange_between (hdraw : surroundings.DrawsWithin)
    (hwindow : getRangeWindow info.rangeStart info.rangeEnd surroundings.now = some (start, stop))
    (hlt : start < stop) (hopen : surroundings.now < stop) {after : Scheduler}
    {outcome : Scheduler.Outcome}
    (hrun : scheduler.runInRange surroundings accountName taskName info = (after, outcome)) :
    (∀ delay, outcome = .runs delay → 0 ≤ delay ∧ surroundings.now + delay ≤ stop) ∧
      ∀ jobId job runAt, after.getJob jobId = some job → job.trigger = .date runAt →
        (jobId, job) ∈ scheduler.jobs ∨ surroundings.now ≤ runAt ∧ runAt ≤ stop := by
  have hdelay := rangeDelay_between hdraw hlt hopen
  have hnow : 0 ≤ (0 : ℚ) ∧ surroundings.now + 0 ≤ stop := ⟨le_rfl, by linarith⟩
  have hsame : ∀ jobId job runAt, scheduler.getJob jobId = some job → job.trigger = .date runAt →
      (jobId, job) ∈ scheduler.jobs ∨ surroundings.now ≤ runAt ∧ runAt ≤ stop :=
    fun jobId job runAt hjob _ => .inl (Dict.mem_of_getItem hjob)
  unfold Scheduler.runInRange at hrun
  split at hrun
  · obtain ⟨rfl, rfl⟩ := Prod.mk.inj hrun
    exact ⟨fun delay heq => Scheduler.Outcome.runs.inj heq ▸ hnow, hsame⟩
  rw [hwindow] at hrun
  dsimp only at hrun
  rw [if_neg (not_not.mpr (sub_pos.mpr hlt))] at hrun
  split at hrun
  · obtain ⟨rfl, rfl⟩ := Prod.mk.inj hrun
    refine ⟨fun delay heq => ?_, fun jobId job runAt hjob hdate => ?_⟩
    · cases heq
    refine (date_of_scheduleOnce hjob hdate).imp_right fun heq => ?_
    exact ⟨by linarith, by linarith⟩
  · obtain ⟨rfl, rfl⟩ := Prod.mk.inj hrun
    exact ⟨fun delay heq => Scheduler.Outcome.runs.inj heq ▸ hdelay, hsame⟩

end Picks

/-- What `_job_run_sign_task` picks: a run begins, or a one-shot job runs, in the rest of the
window. -/
theorem jobRun_between {surroundings : Surroundings} {scheduler after : Scheduler}
    {info : TaskInfo} {accountName taskName : String} {isDirect : Bool}
    {outcome : Scheduler.Outcome} {start stop : ℚ} (hdraw : surroundings.DrawsWithin)
    (hwindow : getRangeWindow info.rangeStart info.rangeEnd surroundings.now = some (start, stop))
    (hlt : start < stop) (hopen : surroundings.now < stop)
    (hinfo : surroundings.getTask accountName taskName = .ok (some info))
    (hrun : scheduler.jobRunSignTask surroundings accountName taskName isDirect =
      (after, outcome)) :
    (∀ delay, outcome = .runs delay → 0 ≤ delay ∧ surroundings.now + delay ≤ stop) ∧
      ∀ jobId job runAt, after.getJob jobId = some job → job.trigger = .date runAt →
        (jobId, job) ∈ scheduler.jobs ∨ surroundings.now ≤ runAt ∧ runAt ≤ stop := by
  have hnow : 0 ≤ (0 : ℚ) ∧ surroundings.now + 0 ≤ stop := ⟨le_rfl, by linarith⟩
  have hsame : ∀ other : Scheduler, other.jobs = scheduler.jobs → ∀ jobId job runAt,
      other.getJob jobId = some job → job.trigger = .date runAt →
        (jobId, job) ∈ scheduler.jobs ∨ surroundings.now ≤ runAt ∧ runAt ≤ stop := by
    intro other hjobs jobId job runAt hjob _
    rw [← hjobs]
    exact .inl (Dict.mem_of_getItem hjob)
  rw [Scheduler.jobRunSignTask, hinfo] at hrun
  dsimp only at hrun
  split at hrun
  · obtain ⟨rfl, rfl⟩ := Prod.mk.inj hrun
    refine ⟨fun delay heq => ?_, hsame _ rfl⟩
    cases heq
  split at hrun
  · split at hrun
    · obtain ⟨rfl, rfl⟩ := Prod.mk.inj hrun
      refine ⟨fun delay heq => Scheduler.Outcome.runs.inj heq ▸ hnow, hsame _ ?_⟩
      split
      · rfl
      · rfl
    · obtain ⟨hdelay, hdates⟩ := runInRange_between hdraw hwindow hlt hopen hrun
      refine ⟨hdelay, fun jobId job runAt hjob hdate => ?_⟩
      have hold := hdates jobId job runAt hjob hdate
      split at hold
      · exact hold
      · exact hold
  · obtain ⟨rfl, rfl⟩ := Prod.mk.inj hrun
    refine ⟨fun delay heq => Scheduler.Outcome.runs.inj heq ▸ hnow, hsame _ ?_⟩
    unfold Scheduler.popAdaptive
    split
    · rfl
    · rfl

/-- Every window of clock times, and every time that is picked at an instant in it. -/
theorem picks_in_window {surroundings : Surroundings} (hdraw : surroundings.DrawsWithin)
    {rangeStart rangeEnd : String} {startTime endTime : ℕ}
    (hstart : parseClockTime rangeStart = some startTime)
    (hend : parseClockTime rangeEnd = some endTime) :
    ∃ start stop,
      getRangeWindow (.str rangeStart) (.str rangeEnd) surroundings.now = some (start, stop) ∧
      start < stop ∧ stop - start ≤ daySeconds ∧
      (start ≤ surroundings.now → surroundings.now < stop →
        ∀ (scheduler : Scheduler) (accountName taskName : String) (info : TaskInfo),
          info.rangeStart = .str rangeStart → info.rangeEnd = .str rangeEnd →
          (∀ runAt, scheduler.computeRangeTaskCompensation surroundings info = some runAt →
            surroundings.now ≤ runAt ∧ runAt ≤ stop) ∧
          (∀ isDirect, surroundings.getTask accountName taskName = .ok (some info) →
            (∀ delay, (scheduler.jobRunSignTask surroundings accountName taskName isDirect).2 =
                .runs delay → 0 ≤ delay ∧ surroundings.now + delay ≤ stop) ∧
            ∀ jobId job runAt,
              (scheduler.jobRunSignTask surroundings accountName taskName isDirect).1.getJob jobId =
                some job → job.trigger = .date runAt →
              (jobId, job) ∈ scheduler.jobs ∨ surroundings.now ≤ runAt ∧ runAt ≤ stop)) := by
  obtain ⟨start, stop, hwindow, hlt, hday⟩ :=
    getRangeWindow_of_clockTimes hstart hend surroundings.now
  refine ⟨start, stop, hwindow, hlt, hday, ?_⟩
  intro _ hopen scheduler accountName taskName info hinfoStart hinfoEnd
  rw [← hinfoStart, ← hinfoEnd] at hwindow
  refine ⟨fun runAt hrun => compensation_between hdraw hwindow hopen hrun, ?_⟩
  intro isDirect hinfo
  exact jobRun_between hdraw hwindow hlt hopen hinfo rfl

/-- A task from midnight to eleven in the evening, at midnight: its one-shot run is at half past
eleven in the morning. -/
theorem picks_in_window_day : ∃ start stop,
      getRangeWindow (.str "00:00") (.str "23:00") atNoon.now = some (start, stop) ∧ start < stop ∧
        ∀ jobId job runAt,
          (({} : Scheduler).jobRunSignTask atNoon "alice" "daily" false).1.getJob jobId =
            some job → job.trigger = .date runAt →
          (jobId, job) ∈ ({} : Scheduler).jobs ∨ atNoon.now ≤ runAt ∧ runAt ≤ stop := by
  obtain ⟨start, stop, hwindow, hlt, -, hpicks⟩ :=
    @picks_in_window atNoon ⟨by decide +kernel, by decide +kernel⟩ "00:00" "23:00" 0 82800
      (by decide) (by decide)
  have heq : getRangeWindow (.str "00:00") (.str "23:00") atNoon.now = some (0, 82800) := by
    decide +kernel
  have hbounds := hwindow
  rw [heq] at hbounds
  obtain ⟨rfl, rfl⟩ := Prod.mk.inj (Option.some.inj hbounds)
  have hruns := hpicks (by decide +kernel) (by decide +kernel) {} "alice" "daily"
    (rangeTask "alice" "daily") rfl rfl
  exact ⟨_, _, hwindow, hlt, (hruns.2 false rfl).2⟩

end SignPulse.Scheduling
