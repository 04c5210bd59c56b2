import SignPulse.Backend.SchedulerJobs

/-!
# Jobs of different tasks

The operations on one task leave the jobs of another one alone, and come to the same without
them, exactly if `account-task-` of the one is not how that of the other begins: the ids of
jobs are joined texts, and one-shot runs are found by how their ids begin.
-/

namespace SignPulse.Scheduling

open Foundation
open ChainedRuns (validateStorageName)
open TaskConfigs (TaskInfo)

/-- The names of an account and of a task. -/
abbrev Pair := String × String

inductive Operation where
  | addOrUpdate (cronExpression : String) (enabled : Bool) (jitter : ℤ)
  | remove
  | run (isDirect : Bool)
  | adjust (runAt : ℚ)
  | query
  /-- Whether the task would be compensated. -/
  | compensation

/-- What an operation returns. -/
inductive Answer where
  | done
  | outcome (outcome : Scheduler.Outcome)
  | found (answer : Bool)
  | planned (runAt : Option ℚ)
  deriving DecidableEq, Repr

inductive Action where
  | perform (surroundings : Surroundings) (pair : Pair) (operation : Operation)
  | fire (surroundings : Surroundings) (jobId : String)

namespace Scheduler

def perform (scheduler : Scheduler) (surroundings : Surroundings) (pair : Pair) :
    Operation → Scheduler × Answer
  | .addOrUpdate cronExpression enabled jitter =>
    (scheduler.addOrUpdateSignTaskJob surroundings pair.1 pair.2 cronExpression enabled jitter,
      .done)
  | .remove => (scheduler.removeSignTaskJob surroundings pair.1 pair.2, .done)
  | .run isDirect =>
    let (after, outcome) := scheduler.jobRunSignTask surroundings pair.1 pair.2 isDirect
    (after, .outcome outcome)
  | .adjust runAt =>
    let (after, found) := scheduler.rescheduleSignTaskOnce pair.1 pair.2 runAt
    (after, .found found)
  | .query => (scheduler, .found (scheduler.hasSignTaskJob surroundings pair.1 pair.2))
  | .compensation =>
    match surroundings.getTask pair.1 pair.2 with
    | .ok (some info) =>
      (scheduler, .planned (scheduler.computeRangeTaskCompensation surroundings info))
    | _ => (scheduler, .planned none)

def act (scheduler : Scheduler) : Action → Option Scheduler
  | .perform surroundings pair operation =>
    some (scheduler.perform surroundings pair operation).1
  | .fire surroundings jobId => some (scheduler.fire surroundings jobId)

/-- `init_scheduler`, without the jobs that `sync_jobs` adds. -/
def initScheduler (surroundings : Surroundings) : Scheduler :=
  (({} : Scheduler).addJob surroundings "system-maintenance" .maintenance
    (.cron ["0", "0", "4", "*", "*", "*"] none none)).addJob surroundings
      "system-device-keepalive" .deviceKeepalive (.cron ["0", "30", "3", "*", "*", "*"] none none)

end Scheduler

def Job.isOf (pair : Pair) (job : Job) : Bool :=
  match job.function with
  | .runSignTask accountName taskName _ => (accountName, taskName) = pair
  | _ => false

namespace Scheduler

def jobsOf (scheduler : Scheduler) (pair : Pair) : Dict String Job :=
  scheduler.jobs.filter fun entry => entry.2.isOf pair

def without (scheduler : Scheduler) (pair : Pair) : Scheduler :=
  { scheduler with jobs := scheduler.jobs.filter fun entry => !entry.2.isOf pair }

/-- Operations on the pair keep the jobs of the other, and come to the same without them. -/
def LeavesAlone (scheduler : Scheduler) (pair other : Pair) : Prop :=
  ∀ surroundings operation,
    (scheduler.perform surroundings pair operation).1.jobsOf other = scheduler.jobsOf other ∧
    (scheduler.without other).perform surroundings pair operation =
      ((scheduler.perform surroundings pair operation).1.without other,
        (scheduler.perform surroundings pair operation).2)

end Scheduler

/-! ## Ids -/

theorem startsWith_iff {text start : String} :
    startsWith text start = true ↔ start.toList <+: text.toList :=
  List.isPrefixOf_iff_prefix

theorem toList_dash : "-".toList = ['-'] := rfl

section

variable (accountName taskName : String)

theorem toList_signJobId : (signJobId accountName taskName).toList =
      "sign-".toList ++ (accountName.toList ++ '-' :: taskName.toList) := by
  simp only [signJobId, String.toList_append, List.append_assoc, toList_dash, List.singleton_append]

theorem oneshotPrefix_eq : oneshotPrefix accountName taskName =
      "range-oneshot-" ++ accountName ++ "-" ++ taskName ++ "-" := rfl

theorem toList_oneshotPrefix : (oneshotPrefix accountName taskName).toList =
      ("range-oneshot-".toList ++ (accountName.toList ++ '-' :: taskName.toList)) ++ ['-'] := by
  simp only [oneshotPrefix_eq, String.toList_append, List.append_assoc, toList_dash,
    List.singleton_append]

theorem startsWith_oneshotId (timestamp : ℕ) :
    startsWith (oneshotId accountName taskName timestamp) (oneshotPrefix accountName taskName) =
      true := by
  rw [startsWith_iff, oneshotId, String.toList_append]
  exact List.prefix_append _ _

end

theorem startsWith_of_oneshotId {accountName taskName otherAccount otherTask : String}
    {timestamp : ℕ}
    (hstarts : startsWith (oneshotId otherAccount otherTask timestamp)
      (oneshotPrefix accountName taskName) = true) :
    startsWith (oneshotPrefix otherAccount otherTask) (oneshotPrefix accountName taskName) =
      true := by
  rw [startsWith_iff, toList_oneshotPrefix] at hstarts ⊢
  rw [oneshotId, String.toList_append] at hstarts
  apply prefix_of_concat_prefix hstarts
  intro hdash
  rw [Nat.toString_eq_repr, Nat.repr_eq_ofList_toDigits, String.toList_ofList] at hdash
  have hdigit := Nat.isDigit_of_mem_toDigits (by decide) (by decide) hdash
  revert hdigit
  decide

theorem not_startsWith_signJobId (accountName taskName otherAccount otherTask : String) :
    startsWith (signJobId otherAccount otherTask) (oneshotPrefix accountName taskName) = false := by
  rw [Bool.eq_false_iff]
  intro hstarts
  rw [startsWith_iff, toList_oneshotPrefix, toList_signJobId] at hstarts
  obtain ⟨rest, hrest⟩ := hstarts
  have hhead := congrArg List.head? hrest
  rw [List.append_assoc, List.append_assoc, List.head?_append_of_ne_nil _ (by decide),
    List.head?_append_of_ne_nil _ (by decide)] at hhead
  revert hhead
  decide

/-- Equal regular ids come with equal beginnings of one-shot ids. -/
theorem oneshotPrefix_of_signJobId {accountName taskName otherAccount otherTask : String}
    (hsame : signJobId accountName taskName = signJobId otherAccount otherTask) :
    oneshotPrefix accountName taskName = oneshotPrefix otherAccount otherTask := by
  rw [← String.toList_inj, toList_signJobId, toList_signJobId] at hsame
  rw [← String.toList_inj, toList_oneshotPrefix, toList_oneshotPrefix,
    List.append_cancel_left hsame]

/-! ## Operations without the jobs of another task -/

section Hiding

variable {pair other : Pair} {kept : Dict String Job} {whole part : Scheduler}

/-- `part` is `whole` without the jobs of a pair, and these are `kept`. -/
structure Hides (other : Pair) (kept : Dict String Job) (whole part : Scheduler) : Prop where
  jobs : whole.jobsOf other = kept
  part_eq : part = whole.without other

/-- No job of the list has an id that the pair's operations select. -/
structure Foreign (pair : Pair) (kept : Dict String Job) : Prop where
  regular : ∀ entry ∈ kept, entry.1 ≠ signJobId pair.1 pair.2
  oneshot : ∀ entry ∈ kept, startsWith entry.1 (oneshotPrefix pair.1 pair.2) = false

theorem Foreign.oneshotId (hforeign : Foreign pair kept) (timestamp : ℕ) :
    ∀ entry ∈ kept, entry.1 ≠ oneshotId pair.1 pair.2 timestamp := by
  rintro entry hentry heq
  have hnot := hforeign.oneshot entry hentry
  rw [heq, startsWith_oneshotId] at hnot
  cases hnot

section

variable (hhides : Hides other kept whole part) {jobId : String}
  (hid : ∀ entry ∈ kept, entry.1 ≠ jobId)

include hhides hid

theorem Hides.not_isOf {job : Job} (hjob : (jobId, job) ∈ whole.jobs) : job.isOf other = false := by
  rw [Bool.eq_false_iff]
  intro hof
  have hmem : (jobId, job) ∈ whole.jobsOf other := List.mem_filter.mpr ⟨hjob, hof⟩
  rw [hhides.jobs] at hmem
  exact hid _ hmem rfl

theorem Hides.getJob : part.getJob jobId = whole.getJob jobId := by
  rw [hhides.part_eq]
  apply Dict.getItem_filter
  intro job hjob
  rw [hhides.not_isOf hid hjob]
  rfl

theorem Hides.setJob {job : Job} (hjob : job.isOf other = false) :
    Hides other kept { whole with jobs := whole.jobs.setItem jobId job }
      { part with jobs := part.jobs.setItem jobId job } := by
  constructor
  · rw [← hhides.jobs]
    apply Dict.filter_setItem_of_dropped
    · exact fun found hfound => hhides.not_isOf hid hfound
    · exact hjob
  · rw [hhides.part_eq]
    simp only [Scheduler.without]
    rw [Dict.filter_setItem]
    · intro found hfound
      rw [hhides.not_isOf hid hfound]
      rfl
    · rw [hjob]
      rfl

end

theorem isOf_runSignTask (hne : pair ≠ other) (isDirect : Bool) (trigger : Trigger)
    (nextRunTime : Option ℚ) :
    (Job.mk (.runSignTask pair.1 pair.2 isDirect) trigger nextRunTime).isOf other = false :=
  decide_eq_false hne

variable (hhides : Hides other kept whole part)

include hhides

theorem Hides.filter {keep : String × Job → Bool} (hkeep : ∀ entry ∈ kept, keep entry = true) :
    Hides other kept { whole with jobs := whole.jobs.filter keep }
      { part with jobs := part.jobs.filter keep } := by
  constructor
  · have hjobs := hhides.jobs
    unfold Scheduler.jobsOf at hjobs ⊢
    rw [List.filter_comm, hjobs]
    exact List.filter_eq_self.mpr hkeep
  · rw [hhides.part_eq]
    simp only [Scheduler.without]
    rw [List.filter_comm]

theorem Hides.removeJob {jobId : String} (hid : ∀ entry ∈ kept, entry.1 ≠ jobId) :
    Hides other kept (whole.removeJob jobId) (part.removeJob jobId) :=
  hhides.filter fun entry hentry => decide_eq_true (hid entry hentry)

section

variable {start : String} (hstart : ∀ entry ∈ kept, startsWith entry.1 start = false)

include hstart

theorem Hides.removeJobsWithPrefix :
    Hides other kept (whole.removeJobsWithPrefix start) (part.removeJobsWithPrefix start) := by
  apply hhides.filter
  intro entry hentry
  rw [hstart entry hentry]
  rfl

theorem Hides.hasJobWithPrefix : part.hasJobWithPrefix start = whole.hasJobWithPrefix start := by
  rw [hhides.part_eq]
  simp only [Scheduler.hasJobWithPrefix, Scheduler.without]
  rw [List.any_filter, Bool.eq_iff_iff, List.any_eq_true, List.any_eq_true]
  constructor
  · rintro ⟨entry, hentry, hboth⟩
    exact ⟨entry, hentry, (Bool.and_eq_true_iff.mp hboth).2⟩
  · rintro ⟨entry, hentry, hstarts⟩
    refine ⟨entry, hentry, Bool.and_eq_true_iff.mpr ⟨?_, hstarts⟩⟩
    cases hof : entry.2.isOf other with
    | false => rfl
    | true =>
      have hmem : entry ∈ whole.jobsOf other := List.mem_filter.mpr ⟨hentry, hof⟩
      rw [hhides.jobs] at hmem
      rw [hstart entry hmem] at hstarts
      cases hstarts

end

theorem Hides.modifyNextRun {jobId : String} (hid : ∀ entry ∈ kept, entry.1 ≠ jobId) (runAt : ℚ) :
    Hides other kept (whole.modifyNextRun jobId runAt) (part.modifyNextRun jobId runAt) := by
  unfold Scheduler.modifyNextRun
  rw [hhides.getJob hid]
  cases hjob : whole.getJob jobId with
  | none => exact hhides
  | some job =>
    have hof : job.isOf other = false := hhides.not_isOf hid (Dict.mem_of_getItem hjob)
    exact hhides.setJob hid hof

theorem Hides.setMaps (change : Scheduler → Scheduler)
    (hjobs : ∀ scheduler, (change scheduler).jobsOf other = scheduler.jobsOf other)
    (hwithout : ∀ scheduler, change (scheduler.without other) = (change scheduler).without other) :
    Hides other kept (change whole) (change part) :=
  ⟨(hjobs whole).trans hhides.jobs, by rw [hhides.part_eq, hwithout]⟩

theorem Hides.popAdaptive (jobId : String) :
    Hides other kept (whole.popAdaptive jobId) (part.popAdaptive jobId) :=
  hhides.setMaps (·.popAdaptive jobId) (fun _ => rfl) fun _ => rfl

theorem Hides.popCompensation (jobId : String) :
    Hides other kept (whole.popCompensation jobId) (part.popCompensation jobId) :=
  hhides.setMaps (·.popCompensation jobId) (fun _ => rfl) fun _ => rfl

theorem Hides.setAdaptive (jobId : String) (runAt : ℚ) :
    Hides other kept (whole.setAdaptive jobId runAt) (part.setAdaptive jobId runAt) :=
  hhides.setMaps (·.setAdaptive jobId runAt) (fun _ => rfl) fun _ => rfl

theorem Hides.setCompensation (jobId : String) (runAt : ℚ) :
    Hides other kept (whole.setCompensation jobId runAt) (part.setCompensation jobId runAt) :=
  hhides.setMaps (·.setCompensation jobId runAt) (fun _ => rfl) fun _ => rfl

omit hhides

/-! ### Operations -/

variable {surroundings : Surroundings}

theorem Hides.addJob (hhides : Hides other kept whole part) (hne : pair ≠ other)
    {jobId : String} (hid : ∀ entry ∈ kept, entry.1 ≠ jobId) (isDirect : Bool)
    (trigger : Trigger) :
    Hides other kept (whole.addJob surroundings jobId (.runSignTask pair.1 pair.2 isDirect) trigger)
      (part.addJob surroundings jobId (.runSignTask pair.1 pair.2 isDirect) trigger) :=
  hhides.setJob hid (isOf_runSignTask hne isDirect trigger _)

theorem Hides.computeRangeTaskCompensation (hhides : Hides other kept whole part)
    (hforeign : Foreign pair kept) {info : TaskInfo}
    (haccount : pyStrip info.accountName = pair.1) (hname : pyStrip info.name = pair.2) :
    part.computeRangeTaskCompensation surroundings info =
      whole.computeRangeTaskCompensation surroundings info := by
  simp only [Scheduler.computeRangeTaskCompensation]
  rw [haccount, hname, hhides.hasJobWithPrefix hforeign.oneshot]

theorem Hides.compensate (hhides : Hides other kept whole part) (hforeign : Foreign pair kept)
    {info : TaskInfo} (haccount : pyStrip info.accountName = pair.1)
    (hname : pyStrip info.name = pair.2) :
    Hides other kept (whole.compensate surroundings (signJobId pair.1 pair.2) info)
      (part.compensate surroundings (signJobId pair.1 pair.2) info) := by
  unfold Scheduler.compensate
  rw [hhides.computeRangeTaskCompensation hforeign haccount hname]
  cases whole.computeRangeTaskCompensation surroundings info with
  | none => exact hhides
  | some runAt => exact (hhides.setCompensation _ runAt).modifyNextRun hforeign.regular runAt

theorem Hides.removeSignTaskJob (hhides : Hides other kept whole part)
    (hforeign : Foreign pair kept) :
    Hides other kept (whole.removeSignTaskJob surroundings pair.1 pair.2)
      (part.removeSignTaskJob surroundings pair.1 pair.2) := by
  unfold Scheduler.removeSignTaskJob
  split
  · exact hhides
  · have hpopped := (hhides.popAdaptive (signJobId pair.1 pair.2)).popCompensation
      (signJobId pair.1 pair.2)
    exact (hpopped.removeJob hforeign.regular).removeJobsWithPrefix hforeign.oneshot

theorem Hides.addOrUpdateSignTaskJob (hhides : Hides other kept whole part)
    (hforeign : Foreign pair kept) (hne : pair ≠ other)
    (haccount : pyStrip pair.1 = pair.1) (hname : pyStrip pair.2 = pair.2)
    (cronExpression : String) (enabled : Bool) (jitter : ℤ) :
    Hides other kept
      (whole.addOrUpdateSignTaskJob surroundings pair.1 pair.2 cronExpression enabled jitter)
      (part.addOrUpdateSignTaskJob surroundings pair.1 pair.2 cronExpression enabled jitter) := by
  unfold Scheduler.addOrUpdateSignTaskJob
  split
  · exact hhides
  · split
    · exact hhides.removeSignTaskJob hforeign
    · split
      · exact hhides
      · rename_i trigger _
        have hadded := @Hides.addJob pair other kept whole part surroundings hhides hne _
          hforeign.regular false trigger
        split
        · rename_i info hinfo
          obtain ⟨hinfoAccount, hinfoName⟩ := surroundings.named _ _ _ hinfo
          split
          · apply hadded.compensate hforeign
            · rw [hinfoAccount, haccount]
            · rw [hinfoName, hname]
          · exact hadded
        · exact hadded

theorem Hides.hasSignTaskJob (hhides : Hides other kept whole part) (hforeign : Foreign pair kept) :
    part.hasSignTaskJob surroundings pair.1 pair.2 =
      whole.hasSignTaskJob surroundings pair.1 pair.2 := by
  unfold Scheduler.hasSignTaskJob
  rw [hhides.getJob hforeign.regular, hhides.hasJobWithPrefix hforeign.oneshot]

theorem Hides.runInRange (hhides : Hides other kept whole part) (hforeign : Foreign pair kept)
    (hne : pair ≠ other) (info : TaskInfo) :
    Hides other kept (whole.runInRange surroundings pair.1 pair.2 info).1
        (part.runInRange surroundings pair.1 pair.2 info).1 ∧
      (part.runInRange surroundings pair.1 pair.2 info).2 =
        (whole.runInRange surroundings pair.1 pair.2 info).2 := by
  unfold Scheduler.runInRange
  split
  · exact ⟨hhides, rfl⟩
  · split
    · exact ⟨hhides, rfl⟩
    · dsimp only
      split
      · exact ⟨hhides, rfl⟩
      · split
        · have hfreed := hhides.removeJobsWithPrefix hforeign.oneshot
          exact ⟨hfreed.addJob hne (hforeign.oneshotId _) true _, rfl⟩
        · exact ⟨hhides, rfl⟩

theorem Hides.jobRunSignTask (hhides : Hides other kept whole part)
    (hforeign : Foreign pair kept) (hne : pair ≠ other) (isDirect : Bool) :
    Hides other kept (whole.jobRunSignTask surroundings pair.1 pair.2 isDirect).1
        (part.jobRunSignTask surroundings pair.1 pair.2 isDirect).1 ∧
      (part.jobRunSignTask surroundings pair.1 pair.2 isDirect).2 =
        (whole.jobRunSignTask surroundings pair.1 pair.2 isDirect).2 := by
  have hmaps : part.rangeCompensationRuns = whole.rangeCompensationRuns := by
    rw [hhides.part_eq]
    rfl
  have hpopped := hhides.popCompensation (signJobId pair.1 pair.2)
  have hopened : Hides other kept
      (if whole.rangeCompensationRuns.hasKey (signJobId pair.1 pair.2) then
        whole.popCompensation (signJobId pair.1 pair.2) else whole)
      (if whole.rangeCompensationRuns.hasKey (signJobId pair.1 pair.2) then
        part.popCompensation (signJobId pair.1 pair.2) else part) := by
    split
    · exact hpopped
    · exact hhides
  unfold Scheduler.jobRunSignTask
  rw [hmaps]
  split
  · exact ⟨hhides, rfl⟩
  · exact ⟨hpopped, rfl⟩
  · rename_i info _
    cases ChainedRuns.isTrue info.enabled with
    | false => exact ⟨hpopped, rfl⟩
    | true =>
      cases Scheduler.isRange info with
      | false => exact ⟨hopened.popAdaptive _, rfl⟩
      | true =>
        by_cases hnow : whole.rangeCompensationRuns.hasKey (signJobId pair.1 pair.2) = true ∨
              isDirect = true
        · simp only [hnow, if_true]
          exact ⟨hopened, rfl⟩
        · simp only [hnow, if_true, if_false]
          exact hopened.runInRange hforeign hne info

/-- An operation does the same without the jobs of another pair, whose ids it does not
select. -/
theorem Hides.perform (hhides : Hides other kept whole part) (hforeign : Foreign pair kept)
    (hne : pair ≠ other) (haccount : pyStrip pair.1 = pair.1)
    (hname : pyStrip pair.2 = pair.2) (operation : Operation) :
    Hides other kept (whole.perform surroundings pair operation).1
        (part.perform surroundings pair operation).1 ∧
      (part.perform surroundings pair operation).2 =
        (whole.perform surroundings pair operation).2 := by
  cases operation with
  | addOrUpdate cronExpression enabled jitter =>
    exact ⟨hhides.addOrUpdateSignTaskJob hforeign hne haccount hname cronExpression enabled
      jitter, rfl⟩
  | remove => exact ⟨hhides.removeSignTaskJob hforeign, rfl⟩
  | run isDirect =>
    obtain ⟨hafter, houtcome⟩ := hhides.jobRunSignTask hforeign hne isDirect
    exact ⟨hafter, congrArg Answer.outcome houtcome⟩
  | adjust runAt =>
    have hadjusted := (hhides.setAdaptive (signJobId pair.1 pair.2) runAt).modifyNextRun
      hforeign.regular runAt
    have hfound := hhides.getJob hforeign.regular
    simp only [Scheduler.perform, Scheduler.rescheduleSignTaskOnce]
    rw [hfound]
    exact ⟨hadjusted, rfl⟩
  | query => exact ⟨hhides, congrArg Answer.found (hhides.hasSignTaskJob hforeign)⟩
  | compensation =>
    simp only [Scheduler.perform]
    split
    · rename_i info hinfo
      obtain ⟨hinfoAccount, hinfoName⟩ := surroundings.named _ _ _ hinfo
      refine ⟨hhides, congrArg Answer.planned ?_⟩
      apply hhides.computeRangeTaskCompensation hforeign
      · rw [hinfoAccount, haccount]
      · rw [hinfoName, hname]
    · exact ⟨hhides, rfl⟩

end Hiding

/-! ## The ids of jobs -/

section OwnIds

variable {scheduler : Scheduler} {surroundings : Surroundings}

/-- The id is made from the names of the task that the job runs, if it runs one. -/
def OwnId (jobId : String) (job : Job) : Prop :=
  ∀ accountName taskName isDirect, job.function = .runSignTask accountName taskName isDirect →
      jobId = signJobId accountName taskName ∨
        ∃ timestamp, jobId = oneshotId accountName taskName timestamp

def OwnIds (scheduler : Scheduler) : Prop :=
  ∀ jobId job, (jobId, job) ∈ scheduler.jobs → OwnId jobId job

theorem ownId_regular (accountName taskName : String) (isDirect : Bool) (trigger : Trigger)
    (nextRunTime : Option ℚ) :
    OwnId (signJobId accountName taskName)
      ⟨.runSignTask accountName taskName isDirect, trigger, nextRunTime⟩ := by
  intro _ _ _ hfunction
  obtain ⟨rfl, rfl, -⟩ := JobFunction.runSignTask.inj hfunction
  exact .inl rfl

theorem ownId_oneshot (accountName taskName : String) (timestamp : ℕ) (isDirect : Bool)
    (trigger : Trigger) (nextRunTime : Option ℚ) :
    OwnId (oneshotId accountName taskName timestamp)
      ⟨.runSignTask accountName taskName isDirect, trigger, nextRunTime⟩ := by
  intro _ _ _ hfunction
  obtain ⟨rfl, rfl, -⟩ := JobFunction.runSignTask.inj hfunction
  exact .inr ⟨timestamp, rfl⟩

variable (hown : OwnIds scheduler)

include hown

theorem OwnIds.setJob {jobId : String} {job : Job} (hjob : OwnId jobId job) :
    OwnIds { scheduler with jobs := scheduler.jobs.setItem jobId job } := by
  intro otherId other hother
  rcases Dict.mem_of_mem_setItem hother with ⟨rfl, rfl⟩ | hold
  · exact hjob
  · exact hown otherId other hold

theorem OwnIds.filter (keep : String × Job → Bool) :
    OwnIds { scheduler with jobs := scheduler.jobs.filter keep } :=
  fun jobId job hjob => hown jobId job (List.mem_of_mem_filter hjob)

theorem OwnIds.modifyNextRun (jobId : String) (runAt : ℚ) :
    OwnIds (scheduler.modifyNextRun jobId runAt) := by
  unfold Scheduler.modifyNextRun
  cases hjob : scheduler.getJob jobId with
  | none => exact hown
  | some job =>
    have hold : OwnId jobId job := hown jobId job (Dict.mem_of_getItem hjob)
    exact hown.setJob hold

theorem OwnIds.compensate (jobId : String) (info : TaskInfo) :
    OwnIds (scheduler.compensate surroundings jobId info) := by
  have hset : ∀ runAt, OwnIds (scheduler.setCompensation jobId runAt) := fun _ => hown
  unfold Scheduler.compensate
  split
  · exact (hset _).modifyNextRun jobId _
  · exact hown

theorem OwnIds.removeSignTaskJob (accountName taskName : String) :
    OwnIds (scheduler.removeSignTaskJob surroundings accountName taskName) := by
  unfold Scheduler.removeSignTaskJob
  split
  · exact hown
  · have hremoved : OwnIds (((scheduler.popAdaptive (signJobId accountName taskName)).popCompensation
        (signJobId accountName taskName)).removeJob (signJobId accountName taskName)) :=
      hown.filter _
    exact hremoved.filter _

theorem OwnIds.addOrUpdateSignTaskJob
    (accountName taskName cronExpression : String) (enabled : Bool) (jitter : ℤ) :
    OwnIds (scheduler.addOrUpdateSignTaskJob surroundings accountName taskName cronExpression
      enabled jitter) := by
  unfold Scheduler.addOrUpdateSignTaskJob
  split
  · exact hown
  · split
    · exact hown.removeSignTaskJob accountName taskName
    · split
      · exact hown
      · rename_i trigger _
        have hadded : OwnIds (scheduler.addJob surroundings (signJobId accountName taskName)
            (.runSignTask accountName taskName false) trigger) :=
          hown.setJob (ownId_regular accountName taskName false trigger _)
        split
        · split
          · exact hadded.compensate _ _
          · exact hadded
        · exact hadded

theorem OwnIds.runInRange (accountName taskName : String) (info : TaskInfo) :
    OwnIds (scheduler.runInRange surroundings accountName taskName info).1 := by
  unfold Scheduler.runInRange
  split
  · exact hown
  · split
    · exact hown
    · dsimp only
      split
      · exact hown
      · split
        · have hfreed : OwnIds
              (scheduler.removeJobsWithPrefix (oneshotPrefix accountName taskName)) :=
            hown.filter _
          exact hfreed.setJob (ownId_oneshot accountName taskName _ true _ _)
        · exact hown

theorem OwnIds.jobRunSignTask (accountName taskName : String) (isDirect : Bool) :
    OwnIds (scheduler.jobRunSignTask surroundings accountName taskName isDirect).1 := by
  have hopened : OwnIds
      (if scheduler.rangeCompensationRuns.hasKey (signJobId accountName taskName) then
        scheduler.popCompensation (signJobId accountName taskName) else scheduler) := by
    split
    · exact hown
    · exact hown
  simp only [Scheduler.jobRunSignTask]
  split
  · exact hown
  · exact hown
  · rename_i info _
    cases ChainedRuns.isTrue info.enabled with
    | false => exact hown
    | true =>
      cases Scheduler.isRange info with
      | false => exact hopened
      | true =>
        by_cases hnow :
            scheduler.rangeCompensationRuns.hasKey (signJobId accountName taskName) = true ∨
              isDirect = true
        · simp only [hnow, if_true]
          exact hopened
        · simp only [hnow, if_true, if_false]
          exact hopened.runInRange accountName taskName info

theorem OwnIds.perform (pair : Pair) (operation : Operation) :
    OwnIds (scheduler.perform surroundings pair operation).1 := by
  cases operation with
  | addOrUpdate cronExpression enabled jitter =>
    exact hown.addOrUpdateSignTaskJob pair.1 pair.2 cronExpression enabled jitter
  | remove => exact hown.removeSignTaskJob pair.1 pair.2
  | run isDirect => exact hown.jobRunSignTask pair.1 pair.2 isDirect
  | adjust runAt =>
    have hset : OwnIds (scheduler.setAdaptive (signJobId pair.1 pair.2) runAt) := hown
    exact hset.modifyNextRun _ runAt
  | query => exact hown
  | compensation =>
    simp only [Scheduler.perform]
    split
    · exact hown
    · exact hown

theorem OwnIds.fire (jobId : String) : OwnIds (scheduler.fire surroundings jobId) := by
  unfold Scheduler.fire
  split
  · exact hown
  · split
    · exact hown.filter _
    · exact hown.filter _
    · exact hown.modifyNextRun jobId _

omit hown

theorem ownIds_initScheduler (surroundings : Surroundings) :
    OwnIds (Scheduler.initScheduler surroundings) := by
  have hempty : OwnIds {} := by
    intro jobId job hjob
    cases hjob
  have hmaintenance : OwnIds (({} : Scheduler).addJob surroundings "system-maintenance"
      .maintenance (.cron ["0", "0", "4", "*", "*", "*"] none none)) :=
    hempty.setJob fun _ _ _ => nofun
  exact hmaintenance.setJob fun _ _ _ => nofun

end OwnIds

abbrev Run (surroundings : Surroundings) (actions : List Action) (scheduler : Scheduler) : Prop :=
  StepRun Scheduler.act (fun _ _ => True) (Scheduler.initScheduler surroundings) actions scheduler

variable {scheduler : Scheduler} {pair : Pair}

theorem Run.ownIds {surroundings : Surroundings} {actions : List Action}
    (hrun : Run surroundings actions scheduler) : OwnIds scheduler := by
  apply hrun.invariant
  · intro state action next hstate _ hact
    cases action with
    | perform surroundings pair operation =>
      cases hact
      exact hstate.perform pair operation
    | fire surroundings jobId =>
      cases hact
      exact hstate.fire jobId
  · exact ownIds_initScheduler surroundings

/-! ## Isolation -/

theorem startsWith_self (text : String) : startsWith text text = true :=
  startsWith_iff.mpr (List.prefix_refl _)

theorem function_of_isOf {job : Job} (hof : job.isOf pair = true) :
    ∃ isDirect, job.function = .runSignTask pair.1 pair.2 isDirect := by
  unfold Job.isOf at hof
  split at hof
  · rename_i isDirect hfunction
    obtain rfl := of_decide_eq_true hof
    exact ⟨isDirect, hfunction⟩
  · cases hof

theorem foreign_jobsOf (hown : OwnIds scheduler) {other : Pair}
    (hapart : startsWith (oneshotPrefix other.1 other.2) (oneshotPrefix pair.1 pair.2) = false) :
    Foreign pair (scheduler.jobsOf other) := by
  have hid : ∀ entry ∈ scheduler.jobsOf other, entry.1 = signJobId other.1 other.2 ∨
      ∃ timestamp, entry.1 = oneshotId other.1 other.2 timestamp := by
    intro entry hentry
    obtain ⟨hmem, hof⟩ := List.mem_filter.mp hentry
    obtain ⟨isDirect, hfunction⟩ := function_of_isOf hof
    exact hown entry.1 entry.2 hmem _ _ isDirect hfunction
  constructor
  · intro entry hentry hsame
    rcases hid entry hentry with hregular | ⟨timestamp, honeshot⟩
    · rw [hregular] at hsame
      rw [oneshotPrefix_of_signJobId hsame, startsWith_self] at hapart
      cases hapart
    · have hstarts := startsWith_oneshotId other.1 other.2 timestamp
      rw [← honeshot, hsame, not_startsWith_signJobId] at hstarts
      cases hstarts
  · intro entry hentry
    rcases hid entry hentry with hregular | ⟨timestamp, honeshot⟩
    · rw [hregular, not_startsWith_signJobId]
    · rw [honeshot, Bool.eq_false_iff]
      intro hstarts
      rw [startsWith_of_oneshotId hstarts] at hapart
      cases hapart

theorem leavesAlone_of_apart (hown : OwnIds scheduler) {other : Pair}
    (haccount : pyStrip pair.1 = pair.1) (hname : pyStrip pair.2 = pair.2)
    (hapart : startsWith (oneshotPrefix other.1 other.2) (oneshotPrefix pair.1 pair.2) = false) :
    scheduler.LeavesAlone pair other := by
  have hne : pair ≠ other := by
    rintro rfl
    rw [startsWith_self] at hapart
    cases hapart
  intro surroundings operation
  have hhides : Hides other (scheduler.jobsOf other) scheduler (scheduler.without other) :=
    ⟨rfl, rfl⟩
  obtain ⟨hafter, hanswer⟩ := @Hides.perform pair other _ _ _ surroundings hhides
    (foreign_jobsOf hown hapart) hne haccount hname operation
  exact ⟨hafter.jobs, Prod.ext hafter.part_eq hanswer⟩

/-- A task that runs at a random time of the day. -/
def rangeTask (accountName taskName : String) : TaskInfo where
  name := taskName
  accountName := accountName
  accountNames := [accountName]
  signAt := .str "00:00"
  randomSeconds := .int 0
  jitterSeconds := 0
  signInterval := .int 1
  chats := .list []
  enabled := .bool true
  lastRun := .none
  executionMode := .str "range"
  rangeStart := .str "00:00"
  rangeEnd := .str "23:00"
  notifyOnFailure := .bool true
  notifyOnSuccess := .bool true
  taskGroupId := ""
  lastRunAccountName := accountName
  retryCount := 3
  tags := []
  adaptiveScheduleEnabled := false
  adaptiveSchedulePatterns := []
  adaptiveSchedulePaddingSeconds := 30
  nextTaskOnSuccess := ""
  nextTaskDelaySeconds := 2
  revision := ""
  executionEngine := .none

/-- Every task runs at a random time, half through the day. -/
def atNoon : Surroundings where
  draw := 1 / 2
  getTask := fun accountName taskName => .ok (some (rangeTask accountName taskName))
  named := by
    intro accountName taskName info hinfo
    obtain rfl := Option.some.inj (Except.ok.inj hinfo)
    exact ⟨rfl, rfl⟩

theorem mem_scheduleOnce (scheduler : Scheduler) (surroundings : Surroundings) (pair : Pair)
    (delay : ℚ) :
    ∃ timestamp job, (oneshotId pair.1 pair.2 timestamp, job) ∈
      (scheduler.scheduleOnce surroundings pair.1 pair.2 delay).jobsOf pair :=
  ⟨_, _, List.mem_filter.mpr
    ⟨Dict.mem_of_getItem (Dict.getItem_setItem_self _ _ _), decide_eq_true rfl⟩⟩

theorem runInRange_of_window {surroundings : Surroundings} {accountName taskName : String}
    {info : TaskInfo} {start stop : ℚ}
    (htimes : ChainedRuns.isTrue info.rangeStart ∧ ChainedRuns.isTrue info.rangeEnd)
    (hwindow : getRangeWindow info.rangeStart info.rangeEnd surroundings.now =
      some (start, stop)) (hopen : 0 < stop - start)
    (hdelay : 45 < Scheduler.rangeDelay surroundings start stop) :
    scheduler.runInRange surroundings accountName taskName info =
      (scheduler.scheduleOnce surroundings accountName taskName
        (Scheduler.rangeDelay surroundings start stop), .postponed) := by
  rw [Scheduler.runInRange, if_neg (not_not.mpr htimes), hwindow]
  dsimp only
  rw [if_neg (not_not.mpr hopen), if_pos hdelay]

theorem runInRange_atNoon (scheduler : Scheduler) (accountName taskName : String) :
    scheduler.runInRange atNoon accountName taskName (rangeTask accountName taskName) =
      (scheduler.scheduleOnce atNoon accountName taskName 41400, .postponed) := by
  have hwindow : getRangeWindow (.str "00:00") (.str "23:00") 0 = some (0, 82800) := by
    decide +kernel
  have hdelay : Scheduler.rangeDelay atNoon 0 82800 = 41400 := by decide +kernel
  have htimes : ChainedRuns.isTrue (.str "00:00") = true ∧
      ChainedRuns.isTrue (.str "23:00") = true := by decide
  have hlong : 45 < Scheduler.rangeDelay atNoon 0 82800 := by
    rw [hdelay]
    decide +kernel
  rw [← hdelay]
  exact runInRange_of_window htimes hwindow (by decide +kernel) hlong

theorem exists_oneshot (pair : Pair) :
    ∃ scheduler timestamp job, Run atNoon [.perform atNoon pair (.run false)] scheduler ∧
      (oneshotId pair.1 pair.2 timestamp, job) ∈ scheduler.jobsOf pair := by
  have hpostponed : (Scheduler.initScheduler atNoon).jobRunSignTask atNoon pair.1 pair.2 false =
      (Scheduler.initScheduler atNoon).runInRange atNoon pair.1 pair.2
        (rangeTask pair.1 pair.2) := rfl
  rw [runInRange_atNoon] at hpostponed
  have hact : (Scheduler.initScheduler atNoon).act (.perform atNoon pair (.run false)) =
      some ((Scheduler.initScheduler atNoon).scheduleOnce atNoon pair.1 pair.2 41400) :=
    congrArg (fun result : Scheduler × Scheduler.Outcome => some result.1) hpostponed
  obtain ⟨timestamp, job, hmem⟩ :=
    mem_scheduleOnce (Scheduler.initScheduler atNoon) atNoon pair 41400
  exact ⟨_, timestamp, job, .act trivial hact (.done _), hmem⟩

/-- Removing the job of the pair takes the one-shot job of the other with it. -/
theorem exists_not_leavesAlone {pair other : Pair}
    (hstarts : startsWith (oneshotPrefix other.1 other.2) (oneshotPrefix pair.1 pair.2) = true) :
    ∃ surroundings actions scheduler, Run surroundings actions scheduler ∧
      ¬scheduler.LeavesAlone pair other := by
  obtain ⟨scheduler, timestamp, job, hrun, hjob⟩ := exists_oneshot other
  refine ⟨_, _, scheduler, hrun, fun halone => ?_⟩
  have hselected : startsWith (oneshotId other.1 other.2 timestamp)
      (oneshotPrefix pair.1 pair.2) = true := by
    rw [startsWith_iff] at hstarts ⊢
    rw [oneshotId, String.toList_append]
    exact hstarts.trans (List.prefix_append _ _)
  have hkept := (halone {} .remove).1
  rw [← hkept] at hjob
  have hleft := (List.mem_filter.mp (List.mem_filter.mp hjob).1).2
  rw [hselected] at hleft
  cases hleft

/-- Whatever is scheduled, the operations on an accepted pair leave the jobs of the other one
alone exactly if the ids of their one-shot runs begin differently. -/
theorem leavesAlone_iff {isRejected : Char → Bool} {pair other : Pair}
    (haccount : validateStorageName isRejected pair.1 "account_name" = .ok pair.1)
    (hname : validateStorageName isRejected pair.2 "task_name" = .ok pair.2) :
    (∀ surroundings actions scheduler, Run surroundings actions scheduler →
        scheduler.LeavesAlone pair other) ↔
      startsWith (oneshotPrefix other.1 other.2) (oneshotPrefix pair.1 pair.2) = false := by
  constructor
  · intro halone
    rw [Bool.eq_false_iff]
    intro hstarts
    obtain ⟨surroundings, actions, scheduler, hrun, hnot⟩ := exists_not_leavesAlone hstarts
    exact hnot (halone surroundings actions scheduler hrun)
  · intro hapart surroundings actions scheduler hrun
    exact leavesAlone_of_apart hrun.ownIds (ChainedRuns.validateStorageName_ok haccount).1.symm
      (ChainedRuns.validateStorageName_ok hname).1.symm hapart

theorem leavesAlone_accounts :
    startsWith (oneshotPrefix "second" "daily") (oneshotPrefix "first" "daily") = false ∧
      ∀ surroundings actions scheduler, Run surroundings actions scheduler →
        scheduler.LeavesAlone ("first", "daily") ("second", "daily") :=
  ⟨by decide, (@leavesAlone_iff (fun _ => false) ("first", "daily") ("second", "daily")
    (by decide) (by decide)).mpr (by decide)⟩

/-- The one-shot job of `daily-late` is removed together with the job of `daily`. -/
theorem oneshot_of_other_task_removed :
    ¬∀ (isRejected : Char → Bool) (pair other : Pair), pair ≠ other →
      validateStorageName isRejected pair.1 "account_name" = .ok pair.1 →
      validateStorageName isRejected pair.2 "task_name" = .ok pair.2 →
      validateStorageName isRejected other.1 "account_name" = .ok other.1 →
      validateStorageName isRejected other.2 "task_name" = .ok other.2 →
      ∀ surroundings actions scheduler, Run surroundings actions scheduler →
        scheduler.LeavesAlone pair other := by
  intro hall
  have hstarts : startsWith (oneshotPrefix "account" "daily-late")
      (oneshotPrefix "account" "daily") = true := by decide
  obtain ⟨surroundings, actions, scheduler, hrun, hnot⟩ :=
    @exists_not_leavesAlone ("account", "daily") ("account", "daily-late") hstarts
  exact hnot (hall (fun _ => false) ("account", "daily") ("account", "daily-late") (by decide)
    (by decide) (by decide) (by decide) (by decide) surroundings actions scheduler hrun)

end SignPulse.Scheduling
