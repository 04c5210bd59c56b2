import SignPulse.Foundation.PyValue
import SignPulse.Foundation.StableSort
import SignPulse.Foundation.StepRun

/-!
# Background jobs

`BackgroundJobStore` of `background_job.py`: the jobs of one directory, the tasks attached to them
and the done callbacks of these.  Every call reads the clock once, and whether its write of a job
file succeeds is part of the call.
-/

namespace SignPulse.BackgroundJobs

open Foundation

inductive JobStatus where
  | running
  | canceling
  | completed
  | canceled
  | failed
  deriving DecidableEq

/-- `status in ACTIVE_STATUSES`. -/
def JobStatus.isActive : JobStatus → Bool
  | .running | .canceling => true
  | .completed | .canceled | .failed => false

structure JobLog where
  time : String
  level : String
  message : String
  ref : Option String

structure Job where
  jobId : String
  kind : String
  status : JobStatus
  createdAt : String
  updatedAt : String
  finishedAt : Option String
  progress : Dict String ℤ
  summary : Dict String PyValue
  results : List (Dict String PyValue)
  logs : List JobLog
  error : Option String
  payload : Dict String PyValue

structure StoreOptions where
  maxLogs : ℕ
  maxHistory : ℕ
  restartError : String
  maxLogs_pos : 0 < maxLogs
  maxHistory_pos : 0 < maxHistory

/-- The arguments of `__init__`, bounded as it bounds them. -/
def StoreOptions.ofArguments (maxLogs maxHistory : ℤ) (restartError : String) : StoreOptions where
  maxLogs := (max 1 maxLogs).toNat
  maxHistory := (max 1 maxHistory).toNat
  restartError := restartError
  maxLogs_pos := by omega
  maxHistory_pos := by omega

/-- The jobs and the attached tasks by the id of the job, and the files of the directory. -/
structure BackgroundJobStore where
  options : StoreOptions
  jobs : Dict String Job
  tasks : Dict String ℕ
  files : Dict String Job

/-- Jobs are listed from the newest to the oldest. -/
abbrev Newer (left right : Job) : Prop :=
  right.createdAt ≤ left.createdAt

/-- `value or default`, for a text. -/
def textOr (value default : String) : String :=
  if value = "" then default else value

def Job.withLog (options : StoreOptions) (now level message : String) (ref : Option String)
    (job : Job) : Job :=
  let logs := job.logs ++ [⟨now, textOr level "info", message, ref⟩]
  { job with logs := logs.drop (logs.length - options.maxLogs), updatedAt := now }

/-- The job that `create_job` stores. -/
def newJob (now jobId kind : String) (payload : Option (Dict String PyValue))
    (progress : Option (Dict String ℤ)) : Job where
  jobId := jobId
  kind := textOr kind "generic"
  status := .running
  createdAt := now
  updatedAt := now
  finishedAt := none
  progress :=
    match progress with
    | none | some [] => [("total", 0), ("done", 0)]
    | some progress => progress
  summary := []
  results := []
  logs := []
  error := none
  payload := payload.getD []

def Job.withProgress (now : String) (done total : Option ℤ) (extra : Dict String ℤ)
    (job : Job) : Job :=
  let counted := match done with
    | some done => job.progress.setItem "done" done
    | none => job.progress
  let counted := match total with
    | some total => counted.setItem "total" total
    | none => counted
  { job with progress := counted.update extra, updatedAt := now }

/-- `request_cancel` of a running job. -/
def Job.withRequest (options : StoreOptions) (now : String) (job : Job) : Job :=
  { job with status := .canceling }.withLog options now "info" "收到取消请求" none

def Job.completed (options : StoreOptions) (now : String)
    (summary : Option (Dict String PyValue)) (results : Option (List (Dict String PyValue)))
    (job : Job) : Job :=
  let final := if job.status = .canceling then JobStatus.canceled else .completed
  { job with
    status := final
    finishedAt := some now
    summary := summary.getD job.summary
    results := results.getD job.results }.withLog options now "info"
      (if final = JobStatus.canceled then "任务已取消" else "任务已完成") none

def Job.failed (options : StoreOptions) (now error : String) (job : Job) : Job :=
  { job with
    status := .failed
    error := some (textOr error "unknown error")
    finishedAt := some now }.withLog options now "error" (textOr error "unknown error") none

def Job.interrupted (options : StoreOptions) (now : String) (job : Job) : Job :=
  if job.status.isActive then
    { job with
      status := .failed
      error := some options.restartError
      finishedAt := some now }.withLog options now "error" options.restartError none
  else job

/-- How a task ended. -/
inductive TaskEnd where
  | returned
  | raised (message : String)
  | cancelled
  deriving DecidableEq

namespace BackgroundJobStore

/-- `_write_job`. -/
def writeJob (store : BackgroundJobStore) (job : Job) (written : Bool) : BackgroundJobStore :=
  if written then { store with files := store.files.setItem job.jobId job } else store

/-- The ids that `_trim_history` keeps. -/
def keptIds (store : BackgroundJobStore) : List String :=
  ((store.jobs.valueList.insertionSort Newer).take store.options.maxHistory).map (·.jobId)

/-- `_trim_history`, where some files cannot be removed. -/
def trimHistory (store : BackgroundJobStore) (unlinked : String → Bool) : BackgroundJobStore :=
  if store.jobs.length ≤ store.options.maxHistory then store
  else
    { store with
      jobs := store.jobs.filter fun item => item.1 ∈ store.keptIds
      files := store.files.filter fun file =>
        file.1 ∉ store.jobs.keyList ∨ file.1 ∈ store.keptIds ∨ !unlinked file.1 }

/-- `get_job`. -/
def getJob (store : BackgroundJobStore) (jobId : String) : Option Job :=
  store.jobs.getItem jobId

/-- `create_job`, where `uuid4` draws `jobId`. -/
def createJob (store : BackgroundJobStore) (job : Job) (written : Bool)
    (unlinked : String → Bool) : BackgroundJobStore :=
  let stored := { store with jobs := store.jobs.setItem job.jobId job }
  -- a write that fails raises before the history is trimmed
  if written then (stored.writeJob job written).trimHistory unlinked else stored

def changeJob (store : BackgroundJobStore) (jobId : String) (change : Job → Job)
    (written : Bool) : BackgroundJobStore :=
  match store.jobs.getItem jobId with
  | some job =>
    { store with jobs := store.jobs.setItem jobId (change job) }.writeJob (change job) written
  | none => store

/-- `append_log`. -/
def appendLog (store : BackgroundJobStore) (now jobId level message : String)
    (ref : Option String) (persist written : Bool) : BackgroundJobStore :=
  store.changeJob jobId (Job.withLog store.options now level message ref) (persist && written)

/-- `update_progress`. -/
def updateProgress (store : BackgroundJobStore) (now jobId : String) (done total : Option ℤ)
    (extra : Dict String ℤ) (persist written : Bool) : BackgroundJobStore :=
  store.changeJob jobId (Job.withProgress now done total extra) (persist && written)

/-- `request_cancel`, with the answer and the task to cancel.  A write that fails raises. -/
def requestCancel (store : BackgroundJobStore) (now jobId : String)
    (cancelRunningTask written : Bool) : BackgroundJobStore × Option Bool × Option ℕ :=
  let task := if cancelRunningTask then store.tasks.getItem jobId else none
  match store.jobs.getItem jobId with
  | some job =>
    match job.status with
    | .canceling => (store, some true, task)
    | .running =>
      let requested := store.changeJob jobId (Job.withRequest store.options now) written
      if written then (requested, some true, task) else (requested, none, none)
    | _ => (store, some false, none)
  | none => (store, some false, none)

/-- `mark_completed`. -/
def markCompleted (store : BackgroundJobStore) (now jobId : String)
    (summary : Option (Dict String PyValue)) (results : Option (List (Dict String PyValue)))
    (written : Bool) : BackgroundJobStore :=
  store.changeJob jobId (Job.completed store.options now summary results) written

/-- `mark_failed`. -/
def markFailed (store : BackgroundJobStore) (now jobId error : String) (written : Bool) :
    BackgroundJobStore :=
  store.changeJob jobId (Job.failed store.options now error) written

def forgetTask (store : BackgroundJobStore) (jobId : String) : BackgroundJobStore :=
  { store with tasks := store.tasks.popItem jobId }

/-- `_cleanup` of `attach_task`. -/
def cleanup (store : BackgroundJobStore) (now jobId : String) (done : TaskEnd) (written : Bool) :
    BackgroundJobStore :=
  let forgotten := store.forgetTask jobId
  match store.jobs.getItem jobId with
  | none => forgotten
  | some job =>
    if job.status.isActive then
      match done with
      | .cancelled =>
        if job.status = .canceling then forgotten.markCompleted now jobId none none written
        else forgotten.markFailed now jobId "任务被取消" written
      | .raised message => forgotten.markFailed now jobId message written
      -- a task that returns is trusted to have marked its job
      | .returned => forgotten
    else forgotten

/-- The jobs in the files that can be read, in the order of the directory. -/
def loadedJobs (options : StoreOptions) (files : Dict String Job) (now : String)
    (listed : List String) : List Job :=
  listed.filterMap fun jobId => (files.getItem jobId).map (Job.interrupted options now)

/-- `_load_jobs`. -/
def loadJobs (options : StoreOptions) (files : Dict String Job) (now : String)
    (listed : List String) (written : String → Bool) : BackgroundJobStore where
  options := options
  jobs := Dict.update []
    ((((loadedJobs options files now listed).insertionSort Newer).take options.maxHistory).map
      fun job => (job.jobId, job))
  tasks := []
  files := files.map fun file =>
    if file.1 ∈ listed ∧ written file.1 then (file.1, Job.interrupted options now file.2) else file

end BackgroundJobStore

/-! ## Runs -/

/-- A store, the tasks of the event loop and the done callbacks that have not run. -/
structure World where
  store : BackgroundJobStore
  ended : Dict ℕ TaskEnd := []
  callbacks : List (ℕ × String) := []
  cancelRequested : List ℕ := []
  /-- The ids of all jobs so far. -/
  drawn : List String

inductive Operation where
  | create (now jobId kind : String) (payload : Option (Dict String PyValue))
      (progress : Option (Dict String ℤ)) (written : Bool) (unlinked : String → Bool)
  | attach (jobId : String) (task : ℕ)
  | appendLog (now jobId level message : String) (ref : Option String) (persist written : Bool)
  | updateProgress (now jobId : String) (done total : Option ℤ) (extra : Dict String ℤ)
      (persist written : Bool)
  | requestCancel (now jobId : String) (cancelRunningTask written : Bool)
  | markCompleted (now jobId : String) (summary : Option (Dict String PyValue))
      (results : Option (List (Dict String PyValue))) (written : Bool)
  | markFailed (now jobId error : String) (written : Bool)
  /-- A task ends. -/
  | ends (task : ℕ) (done : TaskEnd)
  /-- The done callback of a task that has ended. -/
  | callback (now : String) (task : ℕ) (jobId : String) (written : Bool)
  /-- The process starts again, with the files that can be read. -/
  | restart (options : StoreOptions) (now : String) (listed : List String) (written : String → Bool)

namespace World

/-- A store over a new directory. -/
def fresh (options : StoreOptions) : World where
  store := { options := options, jobs := [], tasks := [], files := [] }
  drawn := []

/-- The next state, where the operation is possible: a drawn id is new, a task ends once, and its
callbacks run afterwards. -/
def step (world : World) : Operation → Option World
  | .create now jobId kind payload progress written unlinked =>
    if jobId ∈ world.drawn then none
    else some
      { world with
        store := world.store.createJob (newJob now jobId kind payload progress) written unlinked
        drawn := jobId :: world.drawn }
  | .attach jobId task =>
    if jobId ∈ world.drawn then
      some
        { world with
          store := { world.store with tasks := world.store.tasks.setItem jobId task }
          callbacks := world.callbacks ++ [(task, jobId)] }
    else none
  | .appendLog now jobId level message ref persist written =>
    some { world with
      store := world.store.appendLog now jobId level message ref persist written }
  | .updateProgress now jobId done total extra persist written =>
    some { world with
      store := world.store.updateProgress now jobId done total extra persist written }
  | .requestCancel now jobId cancelRunningTask written =>
    let (store, _, task) := world.store.requestCancel now jobId cancelRunningTask written
    some { world with
      store := store
      cancelRequested := world.cancelRequested ++ task.toList }
  | .markCompleted now jobId summary results written =>
    some { world with store := world.store.markCompleted now jobId summary results written }
  | .markFailed now jobId error written =>
    some { world with store := world.store.markFailed now jobId error written }
  | .ends task done =>
    if world.ended.hasKey task then none
    else some { world with ended := world.ended.setItem task done }
  | .callback now task jobId written =>
    if (task, jobId) ∈ world.callbacks then
      (world.ended.getItem task).map fun done =>
        { world with
          store := world.store.cleanup now jobId done written
          callbacks := world.callbacks.erase (task, jobId) }
    else none
  | .restart options now listed written =>
    if listed.Nodup ∧ ∀ jobId ∈ listed, jobId ∈ world.store.files.keyList then
      some
        { store := .loadJobs options world.store.files now listed written
          drawn := world.drawn }
    else none

end World

end SignPulse.BackgroundJobs
