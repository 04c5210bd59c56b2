import SignPulse.Backend.JobIsolation

/-!
# Synchronizing jobs with tasks

`sync_jobs` of `backend/scheduler/__init__.py`, for the tasks that are listed.  In the process
that holds the lock it leaves exactly the jobs of the enabled tasks that do not listen, unless
the ids of jobs collide; the time at which a job runs next is computed anew every time.
-/

namespace SignPulse.Scheduling

open Foundation
open TaskConfigs (TaskInfo)

/-- What `_sync_auto_backup_job` has to do, if it gets so far. -/
inductive AutoBackup where
  | register (hours : ℤ)
  | remove
  | failed
  deriving DecidableEq, Repr

def jobIdOf (info : TaskInfo) : Option String :=
  if pyStrip info.accountName = "" ∨ pyStrip info.name = "" then none
  else some (signJobId (pyStrip info.accountName) (pyStrip info.name))

def isListen (info : TaskInfo) : Bool :=
  info.executionMode.eq (.str "listen")

def Surroundings.cronTriggerOf (surroundings : Surroundings) (jitter : ℤ) : PyValue → Option Trigger
  | .str cronStr => surroundings.createCronTrigger cronStr jitter
  | _ => none

def Surroundings.triggerOf (surroundings : Surroundings) (info : TaskInfo) : Option Trigger :=
  match surroundings.cronTriggerOf info.jitterSeconds info.signAt with
  | none => none
  | some trigger =>
    if Scheduler.isRange info ∧ ChainedRuns.isTrue info.rangeStart then
      surroundings.cronTriggerOf 0 info.rangeStart
    else some trigger

namespace Scheduler

/-- `_sync_auto_backup_job`. -/
def syncAutoBackupJob (scheduler : Scheduler) (surroundings : Surroundings) : AutoBackup → Scheduler
  | .register hours =>
    scheduler.addJob surroundings "system-auto-backup" .autoBackup (.interval hours)
  | .remove => scheduler.removeJob "system-auto-backup"
  | .failed => scheduler

/-- `reschedule_job`, or none if there is no such job. -/
def rescheduleJob (scheduler : Scheduler) (surroundings : Surroundings) (jobId : String)
    (trigger : Trigger) : Option Scheduler :=
  match scheduler.getJob jobId with
  | none => none
  | some job =>
    some
      { scheduler with
        jobs := scheduler.jobs.setItem jobId
          { job with trigger, nextRunTime := surroundings.nextFire trigger } }

/-- An adaptive or compensating run of a task goes before the next regular one. -/
def planNextRun (scheduler : Scheduler) (surroundings : Surroundings) (info : TaskInfo)
    (jobId : String) : Scheduler :=
  match scheduler.adaptiveNextRuns.getItem jobId with
  | some target =>
    if surroundings.now < target then scheduler.modifyNextRun jobId target
    else scheduler.popAdaptive jobId
  | none =>
    if ¬isRange info then scheduler
    else if scheduler.hasJobWithPrefix
        (oneshotPrefix (pyStrip info.accountName) (pyStrip info.name)) then scheduler
    else
      match scheduler.rangeCompensationRuns.getItem jobId with
      | some target =>
        if surroundings.now < target then scheduler.modifyNextRun jobId target
        else scheduler.popCompensation jobId
      | none => scheduler.compensate surroundings jobId info

/-- The job of an enabled task is rescheduled or added. -/
def scheduleTask (scheduler : Scheduler) (surroundings : Surroundings)
    (existingIds : List String) (info : TaskInfo) (jobId : String) : Scheduler :=
  match surroundings.triggerOf info with
  | none => scheduler
  | some trigger =>
    if jobId ∈ existingIds then
      match scheduler.rescheduleJob surroundings jobId trigger with
      | none => scheduler
      | some placed => placed.planNextRun surroundings info jobId
    else
      (scheduler.addJob surroundings jobId
        (.runSignTask (pyStrip info.accountName) (pyStrip info.name) false)
          trigger).planNextRun surroundings info jobId

/-- One turn of the loop over the tasks. -/
def syncTask (surroundings : Surroundings) (existingIds : List String) (scheduler : Scheduler)
    (info : TaskInfo) : Scheduler :=
  match jobIdOf info with
  | none => scheduler
  | some jobId =>
    if ¬ChainedRuns.isTrue info.enabled then
      if jobId ∈ existingIds then scheduler.removeJob jobId else scheduler
    else if isListen info then
      if jobId ∈ existingIds then scheduler.removeJob jobId else scheduler
    else scheduler.scheduleTask surroundings existingIds info jobId

/-- The jobs of tasks, by their ids. -/
def existingIds (scheduler : Scheduler) : List String :=
  scheduler.jobs.keyList.filter fun jobId => startsWith jobId "sign-"

/-- Jobs of tasks that are not listed any more are removed. -/
def removeObsolete (scheduler : Scheduler) (existingIds desiredIds : List String) : Scheduler :=
  { scheduler with
    jobs := scheduler.jobs.filter fun entry =>
      ¬(entry.1 ∈ existingIds ∧ entry.1 ∉ desiredIds) }

/-- One-shot jobs are removed unless an enabled range task has them. -/
def removeStrayOneshots (scheduler : Scheduler) (tasks : List TaskInfo) : Scheduler :=
  let active := (tasks.filter fun info => ChainedRuns.isTrue info.enabled && isRange info).map
    fun info => oneshotPrefix info.accountName info.name
  { scheduler with
    jobs := scheduler.jobs.filter fun entry =>
      !startsWith entry.1 "range-oneshot-" || active.any (startsWith entry.1) }

/-- `sync_jobs`. -/
def syncJobs (scheduler : Scheduler) (surroundings : Surroundings) (autoBackup : AutoBackup)
    (tasks : List TaskInfo) : Scheduler :=
  if ¬surroundings.hasLock then scheduler.removeJobsWithPrefix "sign-"
  else
    let backed := scheduler.syncAutoBackupJob surroundings autoBackup
    let existingIds := backed.existingIds
    let synced := tasks.foldl (syncTask surroundings existingIds) backed
    (synced.removeObsolete existingIds (tasks.filterMap jobIdOf)).removeStrayOneshots tasks

end Scheduler

/-! ## What is expected -/

/-- What a job does, and when: all of it but its next run. -/
def Job.plan (job : Job) : JobFunction × Trigger :=
  (job.function, job.trigger)

def IsScheduled (info : TaskInfo) (jobId : String) : Prop :=
  jobIdOf info = some jobId ∧ ChainedRuns.isTrue info.enabled = true ∧ isListen info = false

def regularFunction (info : TaskInfo) : JobFunction :=
  .runSignTask (pyStrip info.accountName) (pyStrip info.name) false

def IsWanted (surroundings : Surroundings) (tasks : List TaskInfo) (jobId : String)
    (plan : JobFunction × Trigger) : Prop :=
  ∃ info ∈ tasks, IsScheduled info jobId ∧ plan.1 = regularFunction info ∧
    surroundings.triggerOf info = some plan.2

/-- The jobs of tasks are exactly the wanted ones. -/
def JobsExact (surroundings : Surroundings) (tasks : List TaskInfo) (scheduler : Scheduler) :
    Prop :=
  ∀ jobId, startsWith jobId "sign-" = true → ∀ plan,
    (scheduler.getJob jobId).map Job.plan = some plan ↔ IsWanted surroundings tasks jobId plan

/-- The other jobs are as the rest of `sync_jobs` leaves them. -/
def OthersKept (surroundings : Surroundings) (autoBackup : AutoBackup) (tasks : List TaskInfo)
    (scheduler after : Scheduler) : Prop :=
  ∀ jobId, startsWith jobId "sign-" = false → after.getJob jobId =
    ((scheduler.syncAutoBackupJob surroundings autoBackup).removeStrayOneshots tasks).getJob jobId

/-- Enabled tasks have valid schedules and ids of their own. -/
structure Fit (surroundings : Surroundings) (tasks : List TaskInfo) : Prop where
  valid : ∀ info ∈ tasks, ChainedRuns.isTrue info.enabled = true →
    (surroundings.triggerOf info).isSome = true
  distinct : (tasks.filter fun info => ChainedRuns.isTrue info.enabled).Pairwise
    fun left right => ∀ jobId, jobIdOf left = some jobId → jobIdOf right ≠ some jobId

/-! ## The parts of `sync_jobs` -/

section Parts

variable {scheduler : Scheduler} {surroundings : Surroundings} {existing : List String}
variable {info : TaskInfo} {jobId other : String}

theorem startsWith_signJobId (accountName taskName : String) :
    startsWith (signJobId accountName taskName) "sign-" = true := by
  rw [startsWith_iff, toList_signJobId]
  exact List.prefix_append _ _

theorem startsWith_of_jobIdOf (hid : jobIdOf info = some jobId) :
    startsWith jobId "sign-" = true := by
  unfold jobIdOf at hid
  split at hid
  · cases hid
  · cases hid
    exact startsWith_signJobId _ _

theorem getJob_removeJob (hne : other ≠ jobId) :
    (scheduler.removeJob jobId).getJob other = scheduler.getJob other :=
  Dict.getItem_popItem_of_ne _ hne

theorem getJob_removeJob_self : (scheduler.removeJob jobId).getJob jobId = none :=
  Dict.getItem_popItem_self _ _

theorem getJob_addJob (function : JobFunction) (trigger : Trigger) (hne : other ≠ jobId) :
    (scheduler.addJob surroundings jobId function trigger).getJob other = scheduler.getJob other :=
  Dict.getItem_setItem_of_ne _ _ hne

theorem getJob_modifyNextRun (runAt : ℚ) (hne : other ≠ jobId) :
    (scheduler.modifyNextRun jobId runAt).getJob other = scheduler.getJob other := by
  unfold Scheduler.modifyNextRun
  split
  · exact Dict.getItem_setItem_of_ne _ _ hne
  · rfl

theorem plan_modifyNextRun (runAt : ℚ) :
    ((scheduler.modifyNextRun jobId runAt).getJob jobId).map Job.plan =
      (scheduler.getJob jobId).map Job.plan := by
  unfold Scheduler.modifyNextRun
  split
  · rename_i job hjob
    have hself : Scheduler.getJob { scheduler with
        jobs := scheduler.jobs.setItem jobId { job with nextRunTime := some runAt } } jobId =
          some { job with nextRunTime := some runAt } := Dict.getItem_setItem_self _ _ _
    rw [hself, hjob]
    rfl
  · rfl

theorem getJob_planNextRun (hne : other ≠ jobId) :
    (scheduler.planNextRun surroundings info jobId).getJob other = scheduler.getJob other := by
  unfold Scheduler.planNextRun
  split
  · split
    · exact getJob_modifyNextRun _ hne
    · rfl
  · split
    · rfl
    · split
      · rfl
      · split
        · split
          · exact getJob_modifyNextRun _ hne
          · rfl
        · unfold Scheduler.compensate
          split
          · exact getJob_modifyNextRun _ hne
          · rfl

theorem plan_planNextRun :
    ((scheduler.planNextRun surroundings info jobId).getJob jobId).map Job.plan =
      (scheduler.getJob jobId).map Job.plan := by
  unfold Scheduler.planNextRun
  split
  · split
    · exact plan_modifyNextRun _
    · rfl
  · split
    · rfl
    · split
      · rfl
      · split
        · split
          · exact plan_modifyNextRun _
          · rfl
        · unfold Scheduler.compensate
          split
          · exact plan_modifyNextRun _
          · rfl

theorem getJob_scheduleTask (hne : other ≠ jobId) :
    (scheduler.scheduleTask surroundings existing info jobId).getJob other =
      scheduler.getJob other := by
  unfold Scheduler.scheduleTask
  split
  · rfl
  · rename_i trigger _
    split
    · unfold Scheduler.rescheduleJob
      cases scheduler.getJob jobId with
      | none => rfl
      | some job =>
        rw [getJob_planNextRun hne]
        exact Dict.getItem_setItem_of_ne _ _ hne
    · rw [getJob_planNextRun hne]
      exact getJob_addJob _ _ hne

theorem getJob_syncTask (hne : jobIdOf info ≠ some other) :
    (scheduler.syncTask surroundings existing info).getJob other = scheduler.getJob other := by
  unfold Scheduler.syncTask
  cases hid : jobIdOf info with
  | none => rfl
  | some jobId =>
    have hother : other ≠ jobId := by
      rintro rfl
      exact hne hid
    dsimp only
    split
    · split
      · exact getJob_removeJob hother
      · rfl
    · split
      · split
        · exact getJob_removeJob hother
        · rfl
      · exact getJob_scheduleTask hother

theorem getJob_syncTask_unscheduled (hid : jobIdOf info = some jobId)
    (hnot : ¬IsScheduled info jobId) :
    (scheduler.syncTask surroundings existing info).getJob jobId =
      if jobId ∈ existing then none else scheduler.getJob jobId := by
  rw [Scheduler.syncTask, hid]
  dsimp only
  have hremoved : (if jobId ∈ existing then scheduler.removeJob jobId else scheduler).getJob jobId =
      if jobId ∈ existing then none else scheduler.getJob jobId := by
    split
    · exact getJob_removeJob_self
    · rfl
  split
  · exact hremoved
  · rename_i henabled
    split
    · exact hremoved
    · rename_i hlisten
      exact absurd ⟨hid, not_not.mp henabled, Bool.eq_false_iff.mpr hlisten⟩ hnot

theorem plan_syncTask {trigger : Trigger} (hscheduled : IsScheduled info jobId)
    (htrigger : surroundings.triggerOf info = some trigger)
    (hexisting : jobId ∈ existing ↔ (scheduler.getJob jobId).isSome = true)
    (howner : ∀ job, scheduler.getJob jobId = some job → job.function = regularFunction info) :
    ((scheduler.syncTask surroundings existing info).getJob jobId).map Job.plan =
      some (regularFunction info, trigger) := by
  obtain ⟨hid, henabled, hlisten⟩ := hscheduled
  rw [Scheduler.syncTask, hid]
  dsimp only
  rw [if_neg (not_not.mpr henabled), if_neg (Bool.eq_false_iff.mp hlisten)]
  rw [Scheduler.scheduleTask, htrigger]
  dsimp only
  split
  · rename_i hin
    obtain ⟨job, hjob⟩ := Option.isSome_iff_exists.mp (hexisting.mp hin)
    rw [Scheduler.rescheduleJob, hjob]
    dsimp only
    rw [plan_planNextRun]
    have hself : Scheduler.getJob { scheduler with
        jobs := scheduler.jobs.setItem jobId
          { job with trigger, nextRunTime := surroundings.nextFire trigger } } jobId =
        some { job with trigger, nextRunTime := surroundings.nextFire trigger } :=
      Dict.getItem_setItem_self _ _ _
    rw [hself, ← howner job hjob]
    rfl
  · rw [plan_planNextRun]
    have hself : (scheduler.addJob surroundings jobId
        (.runSignTask (pyStrip info.accountName) (pyStrip info.name) false) trigger).getJob
          jobId = some ⟨regularFunction info, trigger, surroundings.nextFire trigger⟩ :=
      Dict.getItem_setItem_self _ _ _
    rw [hself]
    rfl

/-! ### The loop -/

theorem getJob_foldl (tasks : List TaskInfo) (scheduler : Scheduler)
    (hne : ∀ info ∈ tasks, jobIdOf info ≠ some other) :
    (tasks.foldl (Scheduler.syncTask surroundings existing) scheduler).getJob other =
      scheduler.getJob other := by
  induction tasks generalizing scheduler with
  | nil => rfl
  | cons info rest ih =>
    rw [List.foldl_cons, ih _ fun later hlater => hne later (List.mem_cons_of_mem _ hlater)]
    exact getJob_syncTask (hne info List.mem_cons_self)

theorem getJob_foldl_unscheduled (tasks : List TaskInfo) (scheduler : Scheduler)
    (hnot : ∀ info ∈ tasks, ¬IsScheduled info jobId) :
    (tasks.foldl (Scheduler.syncTask surroundings existing) scheduler).getJob jobId = none ∨
      (tasks.foldl (Scheduler.syncTask surroundings existing) scheduler).getJob jobId =
          scheduler.getJob jobId ∧
        (jobId ∈ existing → ∀ info ∈ tasks, jobIdOf info ≠ some jobId) := by
  induction tasks generalizing scheduler with
  | nil => exact .inr ⟨rfl, fun _ info hinfo => nomatch hinfo⟩
  | cons info rest ih =>
    have hrest := ih (scheduler.syncTask surroundings existing info)
      fun later hlater => hnot later (List.mem_cons_of_mem _ hlater)
    rw [List.foldl_cons]
    rcases hrest with hnone | ⟨hkept, hothers⟩
    · exact .inl hnone
    · rw [hkept]
      by_cases hid : jobIdOf info = some jobId
      · by_cases hexisting : jobId ∈ existing
        · exact .inl ((getJob_syncTask_unscheduled hid (hnot info List.mem_cons_self)).trans (if_pos hexisting))
        · right
          refine ⟨?_, fun hin => absurd hin hexisting⟩
          exact (getJob_syncTask_unscheduled hid (hnot info List.mem_cons_self)).trans (if_neg hexisting)
      · right
        refine ⟨getJob_syncTask hid, fun hin later hlater => ?_⟩
        rcases List.mem_cons.mp hlater with rfl | hlater
        · exact hid
        · exact hothers hin later hlater

theorem plan_foldl {trigger : Trigger} (before after : List TaskInfo) (scheduler : Scheduler)
    (hbefore : ∀ other ∈ before, jobIdOf other ≠ some jobId)
    (hafter : ∀ other ∈ after, jobIdOf other ≠ some jobId)
    (hscheduled : IsScheduled info jobId)
    (htrigger : surroundings.triggerOf info = some trigger)
    (hexisting : jobId ∈ existing ↔ (scheduler.getJob jobId).isSome = true)
    (howner : ∀ job, scheduler.getJob jobId = some job → job.function = regularFunction info) :
    (((before ++ info :: after).foldl (Scheduler.syncTask surroundings existing)
      scheduler).getJob jobId).map Job.plan = some (regularFunction info, trigger) := by
  have hsame := @getJob_foldl surroundings existing jobId before scheduler hbefore
  rw [List.foldl_append, List.foldl_cons, getJob_foldl after _ hafter]
  apply plan_syncTask hscheduled htrigger
  · rw [hsame]
    exact hexisting
  · rw [hsame]
    exact howner

/-! ### The rest -/

theorem mem_existingIds : jobId ∈ scheduler.existingIds ↔
      startsWith jobId "sign-" = true ∧ (scheduler.getJob jobId).isSome = true := by
  rw [Scheduler.existingIds, List.mem_filter, ← Dict.hasKey_iff_mem_keyList, and_comm]
  rfl

theorem getJob_removeObsolete (desired : List String) :
    (scheduler.removeObsolete existing desired).getJob jobId =
      if jobId ∈ existing ∧ jobId ∉ desired then none else scheduler.getJob jobId := by
  have hfiltered := Dict.getItem_filter_key
    (fun key => decide ¬(key ∈ existing ∧ key ∉ desired)) scheduler.jobs jobId
  rw [Scheduler.getJob, Scheduler.removeObsolete, hfiltered]
  by_cases hobsolete : jobId ∈ existing ∧ jobId ∉ desired
  · simp only [hobsolete, not_true, decide_false, Bool.false_eq_true, if_false, if_true,
      not_false_eq_true, and_self]
  · rw [if_pos (decide_eq_true hobsolete), if_neg hobsolete]
    rfl

theorem getJob_removeStrayOneshots (tasks : List TaskInfo) {left right : Scheduler}
    (hsame : left.getJob jobId = right.getJob jobId) :
    (left.removeStrayOneshots tasks).getJob jobId =
      (right.removeStrayOneshots tasks).getJob jobId := by
  unfold Scheduler.getJob at hsame
  simp only [Scheduler.getJob, Scheduler.removeStrayOneshots]
  rw [Dict.getItem_filter_key
    (fun key => !startsWith key "range-oneshot-" || List.any _ (startsWith key)),
    Dict.getItem_filter_key
      (fun key => !startsWith key "range-oneshot-" || List.any _ (startsWith key)), hsame]

theorem getJob_removeStrayOneshots_regular (tasks : List TaskInfo)
    (hsign : startsWith jobId "sign-" = true) :
    (scheduler.removeStrayOneshots tasks).getJob jobId = scheduler.getJob jobId := by
  have hnot : startsWith jobId "range-oneshot-" = false := by
    rw [Bool.eq_false_iff]
    intro honeshot
    rw [startsWith_iff] at hsign honeshot
    rcases List.prefix_or_prefix_of_prefix hsign honeshot with hstarts | hstarts
    · revert hstarts
      decide
    · revert hstarts
      decide
  simp only [Scheduler.getJob, Scheduler.removeStrayOneshots]
  rw [Dict.getItem_filter_key
    (fun key => !startsWith key "range-oneshot-" || List.any _ (startsWith key)), hnot]
  rfl

theorem getJob_syncAutoBackupJob (autoBackup : AutoBackup)
    (hsign : startsWith jobId "sign-" = true) :
    (scheduler.syncAutoBackupJob surroundings autoBackup).getJob jobId =
      scheduler.getJob jobId := by
  have hne : jobId ≠ "system-auto-backup" := by
    rintro rfl
    revert hsign
    decide
  cases autoBackup with
  | register hours => exact getJob_addJob _ _ hne
  | remove => exact getJob_removeJob hne
  | failed => rfl

end Parts

/-! ## The jobs after `sync_jobs` -/

section Sync

variable {surroundings again : Surroundings} {autoBackup backupAgain : AutoBackup}
variable {tasks : List TaskInfo} {scheduler : Scheduler}

/-- No disabled or listening task shares its job id with a scheduled one. -/
def IdsApart (tasks : List TaskInfo) : Prop :=
  ∀ info ∈ tasks, ∀ jobId, IsScheduled info jobId →
    ∀ other ∈ tasks, jobIdOf other = some jobId → IsScheduled other jobId

def OwnJobs (tasks : List TaskInfo) (scheduler : Scheduler) : Prop :=
  ∀ info ∈ tasks, ∀ jobId, IsScheduled info jobId →
    ∀ job, scheduler.getJob jobId = some job → job.function = regularFunction info

theorem exists_split (hfit : Fit surroundings tasks) (hapart : IdsApart tasks) {info : TaskInfo}
    (hinfo : info ∈ tasks) {jobId : String} (hscheduled : IsScheduled info jobId) :
    ∃ before after, tasks = before ++ info :: after ∧
      (∀ other ∈ before, jobIdOf other ≠ some jobId) ∧
      ∀ other ∈ after, jobIdOf other ≠ some jobId := by
  obtain ⟨before, after, rfl⟩ := List.append_of_mem hinfo
  have hdistinct := hfit.distinct
  rw [List.filter_append, List.filter_cons, if_pos hscheduled.2.1, List.pairwise_append,
    List.pairwise_cons] at hdistinct
  obtain ⟨-, ⟨hafter, -⟩, hbefore⟩ := hdistinct
  refine ⟨before, after, rfl, ?_, ?_⟩
  · intro other hother hid
    have hboth := hapart info hinfo jobId hscheduled other (List.mem_append_left _ hother) hid
    exact hbefore other (List.mem_filter.mpr ⟨hother, hboth.2.1⟩) info List.mem_cons_self jobId
      hid hscheduled.1
  · intro other hother hid
    have hmem := List.mem_append_right before (List.mem_cons_of_mem info hother)
    have hboth := hapart info hinfo jobId hscheduled other hmem hid
    exact hafter other (List.mem_filter.mpr ⟨hother, hboth.2.1⟩) jobId hscheduled.1 hid

variable (hlock : surroundings.hasLock = true)

include hlock

theorem plan_syncJobs (hfit : Fit surroundings tasks)
    (hapart : IdsApart tasks) (hown : OwnJobs tasks scheduler) {info : TaskInfo}
    (hinfo : info ∈ tasks) {jobId : String} (hscheduled : IsScheduled info jobId)
    {trigger : Trigger} (htrigger : surroundings.triggerOf info = some trigger) :
    ((scheduler.syncJobs surroundings autoBackup tasks).getJob jobId).map Job.plan =
      some (regularFunction info, trigger) := by
  have hsign := startsWith_of_jobIdOf hscheduled.1
  obtain ⟨before, after, htasks, hbefore, hafter⟩ := exists_split hfit hapart hinfo hscheduled
  have hdesired : jobId ∈ tasks.filterMap jobIdOf :=
    List.mem_filterMap.mpr ⟨info, hinfo, hscheduled.1⟩
  rw [Scheduler.syncJobs, if_neg (not_not.mpr hlock)]
  rw [getJob_removeStrayOneshots_regular _ hsign, getJob_removeObsolete,
    if_neg fun hobsolete => hobsolete.2 hdesired, htasks]
  apply plan_foldl before after _ hbefore hafter hscheduled htrigger
  · rw [mem_existingIds]
    exact ⟨And.right, fun hsome => ⟨hsign, hsome⟩⟩
  · intro job hjob
    rw [getJob_syncAutoBackupJob autoBackup hsign] at hjob
    exact hown info hinfo jobId hscheduled job hjob

theorem getJob_syncJobs_unscheduled {jobId : String} (hsign : startsWith jobId "sign-" = true)
    (hnot : ∀ info ∈ tasks, ¬IsScheduled info jobId) :
    (scheduler.syncJobs surroundings autoBackup tasks).getJob jobId = none := by
  rw [Scheduler.syncJobs, if_neg (not_not.mpr hlock)]
  rw [getJob_removeStrayOneshots_regular _ hsign, getJob_removeObsolete]
  split
  · rfl
  · rename_i hkept
    rcases @getJob_foldl_unscheduled surroundings _ jobId tasks _ hnot with
      hnone | ⟨hsame, hothers⟩
    · exact hnone
    · rw [hsame]
      by_contra hsome
      have hexisting := mem_existingIds.mpr ⟨hsign, Option.ne_none_iff_isSome.mp hsome⟩
      apply hkept
      refine ⟨hexisting, fun hdesired => ?_⟩
      obtain ⟨info, hinfo, hid⟩ := List.mem_filterMap.mp hdesired
      exact hothers hexisting info hinfo hid

theorem jobsExact_syncJobs
    (hfit : Fit surroundings tasks) (hapart : IdsApart tasks) (hown : OwnJobs tasks scheduler) :
    JobsExact surroundings tasks (scheduler.syncJobs surroundings autoBackup tasks) := by
  intro jobId hsign plan
  constructor
  · intro hplan
    by_cases hnot : ∀ info ∈ tasks, ¬IsScheduled info jobId
    · rw [getJob_syncJobs_unscheduled hlock hsign hnot] at hplan
      cases hplan
    · push Not at hnot
      obtain ⟨info, hinfo, hscheduled⟩ := hnot
      obtain ⟨trigger, htrigger⟩ :=
        Option.isSome_iff_exists.mp (hfit.valid info hinfo hscheduled.2.1)
      rw [plan_syncJobs hlock hfit hapart hown hinfo hscheduled htrigger] at hplan
      cases hplan
      exact ⟨info, hinfo, hscheduled, rfl, htrigger⟩
  · rintro ⟨info, hinfo, hscheduled, hfunction, htrigger⟩
    rw [plan_syncJobs hlock hfit hapart hown hinfo hscheduled htrigger, ← hfunction]

theorem othersKept_syncJobs : OthersKept surroundings autoBackup tasks scheduler
      (scheduler.syncJobs surroundings autoBackup tasks) := by
  intro jobId hother
  rw [Scheduler.syncJobs, if_neg (not_not.mpr hlock)]
  apply getJob_removeStrayOneshots
  have hids : ∀ info ∈ tasks, jobIdOf info ≠ some jobId := by
    intro info _ hid
    rw [startsWith_of_jobIdOf hid] at hother
    cases hother
  rw [getJob_removeObsolete, if_neg, getJob_foldl tasks _ hids]
  rintro ⟨hexisting, -⟩
  rw [(mem_existingIds.mp hexisting).1] at hother
  cases hother

omit hlock

/-- In the process that holds the lock, and as long as the ids of jobs do not collide,
`sync_jobs` leaves exactly the jobs of the enabled tasks that do not listen and keeps the
others; another `sync_jobs` keeps what the jobs do, and their triggers. -/
theorem syncJobs_exact (hlock : surroundings.hasLock = true) (hfit : Fit surroundings tasks)
    (hapart : IdsApart tasks) (hown : OwnJobs tasks scheduler) :
    JobsExact surroundings tasks (scheduler.syncJobs surroundings autoBackup tasks) ∧
      OthersKept surroundings autoBackup tasks scheduler
        (scheduler.syncJobs surroundings autoBackup tasks) ∧
      ∀ again backupAgain, again.hasLock = true →
        (∀ info ∈ tasks, again.triggerOf info = surroundings.triggerOf info) →
        ∀ jobId, startsWith jobId "sign-" = true →
          (((scheduler.syncJobs surroundings autoBackup tasks).syncJobs again backupAgain
            tasks).getJob jobId).map Job.plan =
          ((scheduler.syncJobs surroundings autoBackup tasks).getJob jobId).map Job.plan := by
  have hexact := @jobsExact_syncJobs surroundings autoBackup tasks scheduler hlock hfit hapart hown
  refine ⟨hexact, othersKept_syncJobs hlock, ?_⟩
  intro again backupAgain hlockAgain hsame jobId hsign
  have hfitAgain : Fit again tasks := by
    refine ⟨fun info hinfo henabled => ?_, hfit.distinct⟩
    rw [hsame info hinfo]
    exact hfit.valid info hinfo henabled
  have hownAgain : OwnJobs tasks (scheduler.syncJobs surroundings autoBackup tasks) := by
    intro info hinfo jobId hscheduled job hjob
    obtain ⟨trigger, htrigger⟩ :=
      Option.isSome_iff_exists.mp (hfit.valid info hinfo hscheduled.2.1)
    have hplan := @plan_syncJobs surroundings autoBackup tasks scheduler hlock hfit hapart hown
      info hinfo jobId hscheduled trigger htrigger
    rw [hjob] at hplan
    exact congrArg Prod.fst (Option.some.inj hplan)
  have hexactAgain := @jobsExact_syncJobs again backupAgain tasks _ hlockAgain hfitAgain hapart
    hownAgain
  apply Option.ext
  intro plan
  rw [hexactAgain jobId hsign plan, hexact jobId hsign plan]
  constructor
  · rintro ⟨info, hinfo, hscheduled, hfunction, htrigger⟩
    exact ⟨info, hinfo, hscheduled, hfunction, hsame info hinfo ▸ htrigger⟩
  · rintro ⟨info, hinfo, hscheduled, hfunction, htrigger⟩
    exact ⟨info, hinfo, hscheduled, hfunction, (hsame info hinfo).trans htrigger⟩

end Sync

/-! ## Runs of `sync_jobs` -/

/-- A task that runs every morning. -/
def dailyTask (accountName taskName : String) (enabled : Bool) : TaskInfo :=
  { rangeTask accountName taskName with
    executionMode := .str "fixed"
    signAt := .str "0 8 * * *"
    enabled := .bool enabled }

def eveningJob (accountName taskName : String) : Job where
  function := .runSignTask accountName taskName false
  trigger := .cron ["0", "0", "20", "*", "*", "*"] none none
  nextRunTime := some 72000

def morning : Trigger :=
  .cron ["0", "0", "8", "*", "*", "*"] none none

/-- `first` has a job for the evening, and a task that is gone has one too. -/
def twoJobs : Scheduler :=
  { jobs :=
      [("sign-first-daily", eveningJob "first" "daily"),
        ("sign-second-old", eveningJob "second" "old")] }

theorem fit_single {surroundings : Surroundings} {info : TaskInfo}
    (hvalid : (surroundings.triggerOf info).isSome = true) : Fit surroundings [info] where
  valid := by
    intro other hother _
    obtain rfl := List.mem_singleton.mp hother
    exact hvalid
  distinct := (List.pairwise_singleton _ info).sublist List.filter_sublist

theorem idsApart_single (info : TaskInfo) : IdsApart [info] := by
  intro other hother jobId hscheduled third hthird _
  obtain rfl := List.mem_singleton.mp hother
  obtain rfl := List.mem_singleton.mp hthird
  exact hscheduled

theorem ownJobs_twoJobs : OwnJobs [dailyTask "first" "daily" true] twoJobs := by
  intro info hinfo jobId hscheduled job hjob
  obtain rfl := List.mem_singleton.mp hinfo
  have hid : jobIdOf (dailyTask "first" "daily" true) = some "sign-first-daily" := by
    decide
  obtain rfl := Option.some.inj (hid.symm.trans hscheduled.1)
  have hdaily : twoJobs.getJob "sign-first-daily" = some (eveningJob "first" "daily") := by
    decide
  obtain rfl := Option.some.inj (hdaily.symm.trans hjob)
  decide

/-- The job of `first` is rescheduled, and the other one is removed. -/
theorem syncJobs_twoJobs : JobsExact {} [dailyTask "first" "daily" true]
      (twoJobs.syncJobs {} .failed [dailyTask "first" "daily" true]) :=
  (@syncJobs_exact {} .failed [dailyTask "first" "daily" true] twoJobs rfl
    (fit_single (by decide)) (idsApart_single _) ownJobs_twoJobs).1

theorem not_jobsExact {surroundings : Surroundings} {tasks : List TaskInfo}
    {scheduler : Scheduler} {jobId : String} {plan : JobFunction × Trigger}
    (hwanted : IsWanted surroundings tasks jobId plan)
    (hsign : startsWith jobId "sign-" = true)
    (hplan : (scheduler.getJob jobId).map Job.plan ≠ some plan) :
    ¬JobsExact surroundings tasks scheduler :=
  fun hexact => hplan ((hexact jobId hsign plan).mpr hwanted)

/-- Of an enabled and a disabled task with one job id. -/
def collidingTasks : List TaskInfo :=
  [dailyTask "a" "b-c" true, dailyTask "a-b" "c" false]

/-- Without the lock every job is removed; a disabled task removes the job of another one with
its job id; a job of another task that has the id stays with that task; and the next run of a
job is computed anew. -/
theorem syncJobs_not_exact :
    (Fit { hasLock := false } [dailyTask "a" "b" true] ∧
      ¬JobsExact { hasLock := false } [dailyTask "a" "b" true]
        (({} : Scheduler).syncJobs { hasLock := false } .failed [dailyTask "a" "b" true])) ∧
    (Fit {} collidingTasks ∧ ¬JobsExact {} collidingTasks
        (({ jobs := [("sign-a-b-c", eveningJob "a" "b-c")] } : Scheduler).syncJobs {} .failed
          collidingTasks)) ∧
    (Fit {} [dailyTask "a" "b-c" true] ∧ ¬JobsExact {} [dailyTask "a" "b-c" true]
        (({ jobs := [("sign-a-b-c", eveningJob "a-b" "c")] } : Scheduler).syncJobs {} .failed
          [dailyTask "a" "b-c" true])) ∧
    (Fit {} [dailyTask "a" "b" true] ∧
      ((({} : Scheduler).syncJobs { nextFire := fun _ => some 28800 } .failed
        [dailyTask "a" "b" true]).syncJobs { nextFire := fun _ => some 115200 } .failed
          [dailyTask "a" "b" true]).getJob "sign-a-b" ≠
      (({} : Scheduler).syncJobs { nextFire := fun _ => some 28800 } .failed
        [dailyTask "a" "b" true]).getJob "sign-a-b") := by
  have hwanted : ∀ surroundings : Surroundings, ∀ tasks info jobId,
      surroundings.triggerOf info = some morning → info ∈ tasks →
      IsScheduled info jobId → IsWanted surroundings tasks jobId (regularFunction info, morning) :=
    fun _ _ info _ htrigger hinfo hscheduled => ⟨info, hinfo, hscheduled, rfl, htrigger⟩
  refine ⟨⟨fit_single (by decide), ?_⟩, ⟨⟨?_, ?_⟩, ?_⟩,
    ⟨fit_single (by decide), ?_⟩, fit_single (by decide), by decide⟩
  · exact not_jobsExact (hwanted _ _ (dailyTask "a" "b" true) "sign-a-b" (by decide)
      List.mem_cons_self ⟨by decide, by decide, by decide⟩)
      (by decide) (by decide)
  · intro info hinfo henabled
    rcases List.mem_pair.mp hinfo with rfl | rfl
    · decide
    · cases henabled
  · exact List.pairwise_singleton _ _
  · exact not_jobsExact (hwanted _ _ (dailyTask "a" "b-c" true) "sign-a-b-c" (by decide)
      List.mem_cons_self ⟨by decide, by decide, by decide⟩)
      (by decide) (by decide)
  · exact not_jobsExact (hwanted _ _ (dailyTask "a" "b-c" true) "sign-a-b-c" (by decide)
      List.mem_cons_self ⟨by decide, by decide, by decide⟩)
      (by decide) (by decide)

end SignPulse.Scheduling
