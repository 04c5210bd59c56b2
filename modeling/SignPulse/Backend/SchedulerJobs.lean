import Mathlib.Algebra.Order.Field.Rat
import SignPulse.Backend.TaskInfos
import SignPulse.Foundation.StepRun

/-!
# The jobs of the scheduler

`backend/scheduler/__init__.py` without `sync_jobs`: the job store with the jobs of sign
tasks, their one-shot runs and the maps of planned runs, and the operations on one task.  Times
are seconds on the clock of the scheduler's time zone; the scheduler runs.
-/

namespace SignPulse.Scheduling

open Foundation
open FlowModels (PyError)
open ChainedRuns (Config getEntry)
open TaskConfigs (TaskInfo)

/-! ## Triggers -/

inductive Trigger where
  /-- The six fields of a cron expression, from seconds to weekdays. -/
  | cron (fields : List String) (timezone : Option String) (jitter : Option ℕ)
  | interval (hours : ℤ)
  | date (runDate : ℚ)
  deriving DecidableEq, Repr

/-- What a call finds outside of the scheduler. -/
structure Surroundings where
  /-- `has_scheduler_lock()`. -/
  hasLock : Bool := true
  now : ℚ := 0
  utcOffset : ℚ := 0
  /-- How far into its interval `random.uniform` comes to lie, from 0 to 1. -/
  draw : ℚ := 0
  /-- The configured time zone, if there is such a zone. -/
  timezone : Option String := none
  intOfText : String → Option ℤ := fun _ => none
  /-- `CronTrigger` takes the fields. -/
  accepts : List String → Bool := fun _ => true
  /-- The next time at which a trigger fires. -/
  nextFire : Trigger → Option ℚ := fun _ => none
  /-- `get_task`. -/
  getTask : (accountName taskName : String) → Except PyError (Option TaskInfo) :=
    fun _ _ => .ok none
  /-- Configurations of an account and a task name them. -/
  named : ∀ accountName taskName info, getTask accountName taskName = .ok (some info) →
    info.accountName = accountName ∧ info.name = taskName := by
      intro _ _ _ h
      cases h
  /-- `_get_last_run_info`. -/
  lastRunInfo : (accountName taskName : String) → Option Config := fun _ _ => none
  /-- `datetime.fromisoformat`, on the clock of the scheduler. -/
  fromIsoFormat : String → Option ℚ := fun _ => none
  strOf : PyValue → String := fun _ => ""

/-- `text.split()`. -/
def pySplit (text : String) : List String :=
  ((text.toList.splitOnP isPySpace).filter (· ≠ [])).map String.ofList

/-- `text.split(separator)`, for one character. -/
def splitAt (separator : Char) (text : String) : List String :=
  (text.toList.splitOn separator).map String.ofList

namespace Surroundings

variable (surroundings : Surroundings)

/-- The cron expression of a time of day; other texts are left alone. -/
def cronOfClock (cronStr : String) : String :=
  if ':' ∈ cronStr.toList then
    match (splitAt ':' cronStr).mapM surroundings.intOfText with
    | some [hour, minute] => s!"0 {minute} {hour} * * *"
    | some [hour, minute, second] => s!"{second} {minute} {hour} * * *"
    | _ => cronStr
  else cronStr

/-- `create_cron_trigger`, or none if it raises. -/
def createCronTrigger (cronStr : String) (jitter : ℤ := 0) : Option Trigger :=
  let parts := pySplit (surroundings.cronOfClock cronStr)
  let fields := if parts.length = 6 then parts else "0" :: parts
  if fields.length = 6 ∧ surroundings.accepts fields then
    some (.cron fields surroundings.timezone (if 0 < jitter then some jitter.toNat else none))
  else none

end Surroundings

/-! ## Time windows -/

/-- One or two digits of a number below the bound. -/
def clockField (bound : ℕ) (digits : List Char) : Option ℕ :=
  if digits.all Char.isDigit ∧ 0 < digits.length ∧ digits.length ≤ 2 then
    let value := digits.foldl (fun acc digit => 10 * acc + (digit.toNat - '0'.toNat)) 0
    if value < bound then some value else none
  else none

/-- `_parse_clock_time`, in seconds. -/
def parseClockTime (value : String) : Option ℕ :=
  match value.toList.splitOn ':' with
  | [hour, minute, second] => do
    return 3600 * (← clockField 24 hour) + 60 * (← clockField 60 minute) + (← clockField 60 second)
  | [hour, minute] => do
    return 3600 * (← clockField 24 hour) + 60 * (← clockField 60 minute)
  | _ => none

def clockTimeOf : PyValue → Option ℕ
  | .str value => parseClockTime value
  | _ => none

def daySeconds : ℚ := 86400

/-- `_get_range_window`. -/
def getRangeWindow (rangeStart rangeEnd : PyValue) (now : ℚ) : Option (ℚ × ℚ) :=
  match clockTimeOf rangeStart, clockTimeOf rangeEnd with
  | some startTime, some endTime =>
    let midnight := (now / daySeconds).floor * daySeconds
    let start := midnight + startTime
    let stop := midnight + endTime
    if stop ≤ start then
      if now < stop then some (start - daySeconds, stop) else some (start, stop + daySeconds)
    else some (start, stop)
  | _, _ => none

/-! ## The job store -/

inductive JobFunction where
  | runSignTask (accountName taskName : String) (isDirect : Bool)
  | maintenance
  | deviceKeepalive
  | autoBackup
  deriving DecidableEq, Repr

structure Job where
  function : JobFunction
  trigger : Trigger
  /-- None while the job is paused. -/
  nextRunTime : Option ℚ
  deriving DecidableEq, Repr

structure Scheduler where
  jobs : Dict String Job := []
  /-- `_ADAPTIVE_NEXT_RUNS`. -/
  adaptiveNextRuns : Dict String ℚ := []
  /-- `_RANGE_COMPENSATION_RUNS`. -/
  rangeCompensationRuns : Dict String ℚ := []
  deriving DecidableEq

def signJobId (accountName taskName : String) : String :=
  "sign-" ++ accountName ++ "-" ++ taskName

def oneshotPrefix (accountName taskName : String) : String :=
  "range-oneshot-" ++ accountName ++ "-" ++ taskName ++ "-"

def oneshotId (accountName taskName : String) (timestamp : ℕ) : String :=
  oneshotPrefix accountName taskName ++ toString timestamp

/-- `text.startswith(start)`. -/
def startsWith (text start : String) : Bool :=
  start.toList.isPrefixOf text.toList

namespace Scheduler

def getJob (scheduler : Scheduler) (jobId : String) : Option Job :=
  scheduler.jobs.getItem jobId

/-- `add_job(…, replace_existing=True)`. -/
def addJob (scheduler : Scheduler) (surroundings : Surroundings) (jobId : String)
    (function : JobFunction) (trigger : Trigger) : Scheduler :=
  { scheduler with
    jobs := scheduler.jobs.setItem jobId
      { function, trigger, nextRunTime := surroundings.nextFire trigger } }

def removeJob (scheduler : Scheduler) (jobId : String) : Scheduler :=
  { scheduler with jobs := scheduler.jobs.popItem jobId }

def removeJobsWithPrefix (scheduler : Scheduler) (start : String) : Scheduler :=
  { scheduler with jobs := scheduler.jobs.filter fun entry => !startsWith entry.1 start }

def hasJobWithPrefix (scheduler : Scheduler) (start : String) : Bool :=
  scheduler.jobs.any fun entry => startsWith entry.1 start

/-- `job.modify(next_run_time=…)`, if there is such a job. -/
def modifyNextRun (scheduler : Scheduler) (jobId : String) (runAt : ℚ) : Scheduler :=
  match scheduler.getJob jobId with
  | some job =>
    { scheduler with
      jobs := scheduler.jobs.setItem jobId { job with nextRunTime := some runAt } }
  | none => scheduler

def popAdaptive (scheduler : Scheduler) (jobId : String) : Scheduler :=
  { scheduler with adaptiveNextRuns := scheduler.adaptiveNextRuns.popItem jobId }

def popCompensation (scheduler : Scheduler) (jobId : String) : Scheduler :=
  { scheduler with rangeCompensationRuns := scheduler.rangeCompensationRuns.popItem jobId }

def setAdaptive (scheduler : Scheduler) (jobId : String) (runAt : ℚ) : Scheduler :=
  { scheduler with adaptiveNextRuns := scheduler.adaptiveNextRuns.setItem jobId runAt }

def setCompensation (scheduler : Scheduler) (jobId : String) (runAt : ℚ) : Scheduler :=
  { scheduler with
    rangeCompensationRuns := scheduler.rangeCompensationRuns.setItem jobId runAt }

/-! ## Compensation -/

/-- `last_run` of a record, or else that of the history. -/
def lastRunOf (surroundings : Surroundings) (info : TaskInfo) : Option Config :=
  match info.lastRun with
  | .dict entry => some entry
  | _ => surroundings.lastRunInfo info.accountName info.name

/-- `text[:-1] + "+00:00"`, where the text ends with `Z`. -/
def withOffset (text : String) : String :=
  if text.toList.getLast? = some 'Z' then String.ofList text.toList.dropLast ++ "+00:00"
  else text

/-- The last run is a success no earlier than `start`. -/
def succeededSince (surroundings : Surroundings) (info : TaskInfo) (start : ℚ) : Bool :=
  match lastRunOf surroundings info with
  | some lastRun =>
    let time := getEntry lastRun "time"
    if ChainedRuns.isTrue time then
      let text := match time with
        | .str text => text
        | value => surroundings.strOf value
      match surroundings.fromIsoFormat (withOffset (pyStrip text)) with
      | some lastRunAt =>
        decide (start ≤ lastRunAt) &&
          (match getEntry lastRun "success" with
          | .bool success => success
          | _ => false)
      | none => false
    else false
  | none => false

def compensationTime (surroundings : Surroundings) (stop : ℚ) : ℚ :=
  let remaining := max 0 (stop - surroundings.now)
  if remaining ≤ 15 then surroundings.now + min 2 remaining
  else
    let maxDelay := max 5 (remaining - 5)
    surroundings.now + (5 + surroundings.draw * (maxDelay - 5))

def isRange (info : TaskInfo) : Bool :=
  info.executionMode.eq (.str "range")

/-- `_compute_range_task_compensation`. -/
def computeRangeTaskCompensation (scheduler : Scheduler) (surroundings : Surroundings)
    (info : TaskInfo) : Option ℚ :=
  if ¬isRange info then none
  else if ¬(ChainedRuns.isTrue info.rangeStart ∧ ChainedRuns.isTrue info.rangeEnd) then none
  else
    match getRangeWindow info.rangeStart info.rangeEnd surroundings.now with
    | none => none
    | some (start, stop) =>
      let taskName := pyStrip info.name
      let accountName := pyStrip info.accountName
      if ¬(start ≤ surroundings.now ∧ surroundings.now < stop) then none
      else if taskName ≠ "" ∧ accountName ≠ "" ∧
          scheduler.hasJobWithPrefix (oneshotPrefix accountName taskName) then none
      else if succeededSince surroundings info start then none
      else some (compensationTime surroundings stop)

/-- The compensation of a range task, if there is one, is its next run. -/
def compensate (scheduler : Scheduler) (surroundings : Surroundings) (jobId : String)
    (info : TaskInfo) : Scheduler :=
  match scheduler.computeRangeTaskCompensation surroundings info with
  | some runAt => (scheduler.setCompensation jobId runAt).modifyNextRun jobId runAt
  | none => scheduler

/-! ## Operations on one task -/

/-- `remove_sign_task_job`. -/
def removeSignTaskJob (scheduler : Scheduler) (surroundings : Surroundings)
    (accountName taskName : String) : Scheduler :=
  if ¬surroundings.hasLock then scheduler
  else
    let jobId := signJobId accountName taskName
    (((scheduler.popAdaptive jobId).popCompensation jobId).removeJob
      jobId).removeJobsWithPrefix (oneshotPrefix accountName taskName)

/-- `add_or_update_sign_task_job`. -/
def addOrUpdateSignTaskJob (scheduler : Scheduler) (surroundings : Surroundings)
    (accountName taskName cronExpression : String) (enabled : Bool) (jitter : ℤ) :
    Scheduler :=
  if ¬surroundings.hasLock then scheduler
  else if ¬enabled then scheduler.removeSignTaskJob surroundings accountName taskName
  else
    match surroundings.createCronTrigger cronExpression jitter with
    | none => scheduler
    | some trigger =>
      let jobId := signJobId accountName taskName
      let added := scheduler.addJob surroundings jobId
        (.runSignTask accountName taskName false) trigger
      match surroundings.getTask accountName taskName with
      | .ok (some info) => if isRange info then added.compensate surroundings jobId info else added
      | _ => added

/-- `has_sign_task_job`. -/
def hasSignTaskJob (scheduler : Scheduler) (surroundings : Surroundings)
    (accountName taskName : String) : Bool :=
  surroundings.hasLock &&
    ((scheduler.getJob (signJobId accountName taskName)).isSome ||
      scheduler.hasJobWithPrefix (oneshotPrefix accountName taskName))

/-- `reschedule_sign_task_once`. -/
def rescheduleSignTaskOnce (scheduler : Scheduler) (accountName taskName : String)
    (runAt : ℚ) : Scheduler × Bool :=
  let jobId := signJobId accountName taskName
  ((scheduler.setAdaptive jobId runAt).modifyNextRun jobId runAt, (scheduler.getJob jobId).isSome)

/-- What `_job_run_sign_task` comes to. -/
inductive Outcome where
  /-- The task is gone or disabled, or its record cannot be read. -/
  | abandoned
  /-- The run is left to a one-shot job. -/
  | postponed
  /-- The task runs after so many seconds. -/
  | runs (delay : ℚ)
  deriving DecidableEq, Repr

/-- The random delay of a range task within its window. -/
def rangeDelay (surroundings : Surroundings) (start stop : ℚ) : ℚ :=
  min (surroundings.draw * (stop - start)) (max 0 (stop - surroundings.now))

/-- A one-shot run in place of those that are pending. -/
def scheduleOnce (scheduler : Scheduler) (surroundings : Surroundings)
    (accountName taskName : String) (delay : ℚ) : Scheduler :=
  let runAt := surroundings.now + delay
  let timestamp := (runAt - surroundings.utcOffset).floor.toNat
  (scheduler.removeJobsWithPrefix (oneshotPrefix accountName taskName)).addJob surroundings
    (oneshotId accountName taskName timestamp) (.runSignTask accountName taskName true)
    (.date runAt)

def runInRange (scheduler : Scheduler) (surroundings : Surroundings)
    (accountName taskName : String) (info : TaskInfo) : Scheduler × Outcome :=
  if ¬(ChainedRuns.isTrue info.rangeStart ∧ ChainedRuns.isTrue info.rangeEnd) then
    (scheduler, .runs 0)
  else
    match getRangeWindow info.rangeStart info.rangeEnd surroundings.now with
    | none => (scheduler, .runs 0)
    | some (start, stop) =>
      let delay := rangeDelay surroundings start stop
      if ¬0 < stop - start then (scheduler, .runs 0)
      else if 45 < delay then
        (scheduler.scheduleOnce surroundings accountName taskName delay, .postponed)
      else (scheduler, .runs delay)

/-- `_job_run_sign_task`, up to the run itself. -/
def jobRunSignTask (scheduler : Scheduler) (surroundings : Surroundings)
    (accountName taskName : String) (isDirect : Bool) : Scheduler × Outcome :=
  let jobId := signJobId accountName taskName
  let isCompensation := scheduler.rangeCompensationRuns.hasKey jobId
  match surroundings.getTask accountName taskName with
  | .error _ => (scheduler, .abandoned)
  | .ok none => (scheduler.popCompensation jobId, .abandoned)
  | .ok (some info) =>
    if ¬ChainedRuns.isTrue info.enabled then
      (scheduler.popCompensation jobId, .abandoned)
    else
      let scheduler := if isCompensation then scheduler.popCompensation jobId else scheduler
      if isRange info then
        if isCompensation ∨ isDirect then (scheduler, .runs 0)
        else scheduler.runInRange surroundings accountName taskName info
      else (scheduler.popAdaptive jobId, .runs 0)

/-- A due job is submitted, and planned again where its trigger has another time. -/
def fire (scheduler : Scheduler) (surroundings : Surroundings) (jobId : String) : Scheduler :=
  match scheduler.getJob jobId with
  | none => scheduler
  | some job =>
    match job.trigger, surroundings.nextFire job.trigger with
    | .date _, _ => scheduler.removeJob jobId
    | _, none => scheduler.removeJob jobId
    | _, some runAt => scheduler.modifyNextRun jobId runAt

end Scheduler

end SignPulse.Scheduling
