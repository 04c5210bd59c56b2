import SignPulse.Foundation.StepRun
import SignPulse.Flow.FlowModels

/-!
# The run status of a task

`SignTaskService` of `sign_tasks.py` for one account and task: the stored status, the
mark of an active execution and the handle by which a run is cancelled, as
`start_task_run`, `run_task_with_logs` and `cancel_task_run` leave them, with
`execute_sign_task` of `sign_task_runner.py`.  Between two awaits a coroutine runs
without interruption, so an action of the model is what a task does from one await to
the next; which task goes on is open.
-/

namespace SignPulse.TaskRuns

open Foundation
open FlowModels

/-- The values of `state` that are stored. -/
inductive RunState where
  | running | finished | timeout | cancelled
  deriving DecidableEq, Repr

/-- `is_terminal_run_state`. -/
def RunState.isTerminal : RunState → Bool
  | .finished | .cancelled | .timeout => true
  | .running => false

/-- The entries of a run status that decide anything. -/
structure RunStatus where
  runId : String
  state : RunState
  deriving DecidableEq, Repr

/-- What a task runs: the `runner()` of `start_task_run`, or `run_task_with_logs`
called by someone else. -/
inductive Origin where
  | background (runId : String)
  | direct (runId : Option String)
  deriving DecidableEq, Repr

/-- The run id that `execute_sign_task` is given. -/
def Origin.runId : Origin → Option String
  | .background runId => some runId
  | .direct runId => runId

/-- How far a task has got: not begun, active, past the end of its activity, done. -/
inductive Stage where
  | created | executing | finalizing | ended
  deriving DecidableEq, Repr

structure TaskRecord where
  origin : Origin
  stage : Stage := .created
  cancelRequested : Bool := false
  deriving DecidableEq, Repr

/-- The service, as far as one account and task are concerned. -/
structure Service where
  taskName : String := ""
  status : Option RunStatus := none
  active : Bool := false
  /-- The entry of `_background_run_tasks`. -/
  handle : Option ℕ := none
  tasks : List TaskRecord := []
  cleanupPending : Bool := false
  draining : Bool := false
  deriving DecidableEq, Repr

namespace Service

/-! ## The stored status -/

/-- `_set_run_status`. -/
def setRunStatus (service : Service) (runId : String) (state : RunState) : Service :=
  { service with status := some { runId, state } }

/-- `_update_run_phase`. -/
def updateRunPhase (service : Service) (runId : Option String) : Service :=
  match runId with
  | some runId => if runId = "" then service else service.setRunStatus runId .running
  | none => service

/-- `is_task_running`, for a given account. -/
def isTaskRunning (service : Service) (runId : Option String) : Bool :=
  service.active || match service.status with
    | some status =>
      status.state == .running && !(truthy runId && runId == some status.runId)
    | none => false

/-- `is_run_id_mismatch`. -/
def isRunIdMismatch (status : Option RunStatus) (requestedRunId : Option String) : Bool :=
  let want := pyStrip (requestedRunId.getD "")
  match status with
  | some status =>
    let current := pyStrip status.runId
    want != "" && current != "" && current != want
  | none => false

/-! ## Tasks -/

/-- `asyncio.create_task`. -/
def createTask (service : Service) (origin : Origin) : Service :=
  { service with tasks := service.tasks ++ [{ origin }] }

def setStage (service : Service) (task : ℕ) (stage : Stage) : Service :=
  { service with tasks := service.tasks.modify task fun record => { record with stage } }

/-- `task.cancel()`. -/
def requestCancel (service : Service) (task : ℕ) : Service :=
  { service with
    tasks := service.tasks.modify task fun record => { record with cancelRequested := true } }

/-- `_register_background_run`. -/
def registerBackgroundRun (service : Service) (task : ℕ) : Service :=
  { service with handle := some task }

/-- `_unregister_background_run`. -/
def unregisterBackgroundRun (service : Service) (task : ℕ) : Service :=
  if service.handle = some task then { service with handle := none } else service

/-- The handle, if its task is not done. -/
def liveHandle (service : Service) : Option ℕ :=
  service.handle.filter fun task =>
    (service.tasks[task]?).any fun record => record.stage != .ended

/-! ## The three entry points -/

/-- `start_task_run`, with the run id that is drawn and whether the task can be
loaded. -/
def startTaskRun (service : Service) (runId : String) (loaded : Bool) :
    Except PyError RunStatus × Service :=
  if service.draining then
    (.error { name := "RuntimeError", message := "签到任务服务正在停机，暂不接受新任务" }, service)
  else if service.active then
    (.ok (service.status.getD { runId := "", state := .running }), service)
  else if loaded then
    let started := (service.setRunStatus runId .running).createTask (.background runId)
    (.ok { runId, state := .running }, started.registerBackgroundRun service.tasks.length)
  else
    (.error
      { name := "ValueError"
        message := s!"Task {service.taskName} does not exist or cannot be loaded" },
      service)

structure CancelResponse where
  ok : Bool
  error : String
  status : Option RunStatus
  deriving DecidableEq, Repr

/-- `cancel_task_run`. -/
def cancelTaskRun (service : Service) (runId : Option String) : CancelResponse × Service :=
  let status := service.status
  if isRunIdMismatch status runId then
    ({ ok := false, error := "run_id 与当前运行不匹配", status }, service)
  else
    match service.liveHandle with
    | none =>
      if service.active then
        ({ ok := false
           error := "任务正在执行但无可取消的后台句柄（可能为同步调用）"
           status },
          service)
      else ({ ok := false, error := "当前没有进行中的运行", status }, service)
    | some task =>
      let cancelled := (service.requestCancel task).updateRunPhase
        (pyOr runId (status.map RunStatus.runId))
      ({ ok := true, error := "", status := cancelled.status }, cancelled)

/-! ## The steps of a task -/

/-- How the execution of a task ends. -/
inductive Ending where
  | returned (timedOut : Bool)
  | raised (timedOut : Bool)
  | cancelled
  deriving DecidableEq, Repr

/-- The terminal state that `runner()` makes of it. -/
def Ending.runState : Ending → RunState
  | .returned timedOut | .raised timedOut => if timedOut then .timeout else .finished
  | .cancelled => .cancelled

/-- The end of `runner()`: its terminal state is stored where the status is still that
of its run. -/
def settle (service : Service) (origin : Origin) (ending : Ending) : Service :=
  match origin with
  | .background runId =>
    if service.status.any (·.runId == runId) then
      { service.setRunStatus runId ending.runState with cleanupPending := true }
    else service
  | .direct _ => service

/-- A task is done after `run_task_with_logs`. -/
def endTask (service : Service) (task : ℕ) (origin : Origin) (ending : Ending) : Service :=
  ((service.unregisterBackgroundRun task).settle origin ending).setStage task .ended

/-- The first step of a task: a coroutine that is cancelled before it never begins;
else the task is refused, or goes on to its first await. -/
def firstStep (service : Service) (task : ℕ) (record : TaskRecord) : Service :=
  if record.cancelRequested then service.setStage task .ended
  else if service.draining then service.endTask task record.origin (.raised false)
  else
    let registered := service.registerBackgroundRun task
    if registered.isTaskRunning record.origin.runId then
      registered.endTask task record.origin (.returned false)
    else { registered.setStage task .executing with active := true }

/-- The end of `_runner_finalize`, which takes away whatever handle there is. -/
def finalize (service : Service) (task : ℕ) : Service :=
  { service.setStage task .finalizing with active := false, handle := none }

/-- The deferred cleanup of the status. -/
def cleanUp (service : Service) : Service :=
  { service with
    cleanupPending := false
    status := if service.active then service.status else none }

inductive Action where
  | startTaskRun (runId : String) (loaded : Bool)
  | runTaskWithLogs (runId : Option String)
  | cancelTaskRun (runId : Option String)
  /-- Somebody else cancels a task. -/
  | cancel (task : ℕ)
  | firstStep (task : ℕ)
  /-- An active execution notes its phase. -/
  | updateRunPhase (task : ℕ)
  | finalize (task : ℕ)
  | finish (task : ℕ) (ending : Ending)
  | cleanUp
  | beginShutdown
  deriving DecidableEq, Repr

/-- The record of a task that has got as far as `stage`. -/
def taskAt (service : Service) (task : ℕ) (stage : Stage) : Option TaskRecord :=
  (service.tasks[task]?).filter fun record => record.stage == stage

def act (service : Service) : Action → Option Service
  | .startTaskRun runId loaded => some (service.startTaskRun runId loaded).2
  | .runTaskWithLogs runId => some (service.createTask (.direct runId))
  | .cancelTaskRun runId => some (service.cancelTaskRun runId).2
  | .cancel task => some (service.requestCancel task)
  | .firstStep task =>
    (service.taskAt task .created).map fun record => service.firstStep task record
  | .updateRunPhase task =>
    (service.taskAt task .executing).map fun record =>
      service.updateRunPhase record.origin.runId
  | .finalize task => (service.taskAt task .executing).map fun _ => service.finalize task
  | .finish task ending =>
    (service.taskAt task .finalizing).map fun record =>
      service.endTask task record.origin ending
  | .cleanUp => if service.cleanupPending then some service.cleanUp else none
  | .beginShutdown => some { service with draining := true }

/-! ## Runs that free the slot -/

/-- A background task of the run that is not done. -/
def owned (service : Service) (runId : String) : Bool :=
  service.tasks.any fun record =>
    record.origin == .background runId && record.stage != .ended

/-- A mark that some run is running has an owner who will take it away. -/
def mayMark (service : Service) (runId : Option String) : Bool :=
  runId.all fun runId => runId == "" || service.owned runId

/-- The stored status shows the task's own run as running. -/
def showsRun (service : Service) (origin : Origin) : Bool :=
  match origin with
  | .background runId => service.status == some { runId, state := .running }
  | .direct _ => false

def careful (service : Service) : Action → Bool
  | .firstStep task =>
    (service.tasks[task]?).all fun record =>
      !(record.cancelRequested && service.showsRun record.origin)
  | .cancelTaskRun runId =>
    isRunIdMismatch service.status runId || service.liveHandle.isNone ||
      service.mayMark (pyOr runId (service.status.map RunStatus.runId))
  | .updateRunPhase task =>
    (service.tasks[task]?).all fun record => service.mayMark record.origin.runId
  | _ => true

/-- Some task's record satisfies `P`. -/
def HasTask (service : Service) (P : TaskRecord → Prop) : Prop :=
  ∃ (task : ℕ) (record : TaskRecord), service.tasks[task]? = some record ∧ P record

def OwnerOf (runId : String) (record : TaskRecord) : Prop :=
  record.origin = .background runId ∧ record.stage ≠ .ended

/-- What holds in every state between careful actions: an active execution has its
task, and a run that is shown as running has its owner. -/
structure Sound (service : Service) : Prop where
  active : service.active = true → service.HasTask fun record => record.stage = .executing
  owner : ∀ runId, service.status = some { runId, state := .running } →
    service.HasTask (OwnerOf runId)

theorem owned_iff {service : Service} {runId : String} :
    service.owned runId = true ↔ service.HasTask (OwnerOf runId) := by
  simp only [owned, List.any_eq_true, Bool.and_eq_true, beq_iff_eq, bne_iff_ne]
  constructor
  · rintro ⟨record, hrecord, howner⟩
    obtain ⟨task, htask⟩ := List.mem_iff_getElem?.mp hrecord
    exact ⟨task, record, htask, howner⟩
  · rintro ⟨task, record, htask, howner⟩
    exact ⟨record, List.mem_of_getElem? htask, howner⟩

section Keeping

variable {service : Service} {P : TaskRecord → Prop}

theorem hasTask_modify {task : ℕ} {change : TaskRecord → TaskRecord}
    (hkeep : ∀ record, service.tasks[task]? = some record → P record → P (change record))
    (hhas : service.HasTask P) :
    HasTask { service with tasks := service.tasks.modify task change } P := by
  obtain ⟨other, record, hother, hrecord⟩ := hhas
  by_cases hsame : task = other
  · subst hsame
    refine ⟨task, change record, ?_, hkeep record hother hrecord⟩
    simp [hother]
  · refine ⟨other, record, ?_, hrecord⟩
    simp [hsame, hother]

theorem hasTask_createTask (origin : Origin) (hhas : service.HasTask P) :
    (service.createTask origin).HasTask P := by
  obtain ⟨task, record, htask, hrecord⟩ := hhas
  obtain ⟨hlt, -⟩ := List.getElem?_eq_some_iff.mp htask
  refine ⟨task, record, ?_, hrecord⟩
  rw [createTask, List.getElem?_append_left hlt]
  exact htask

theorem hasTask_created (origin : Origin) (hrecord : P { origin }) :
    (service.createTask origin).HasTask P :=
  ⟨service.tasks.length, { origin }, by simp [createTask], hrecord⟩

variable {task : ℕ} {record : TaskRecord} {runId : Option String}

theorem taskAt_eq_some {stage : Stage} (htask : service.taskAt task stage = some record) :
    service.tasks[task]? = some record ∧ record.stage = stage := by
  simpa [taskAt, Option.filter_eq_some_iff] using htask

theorem Sound.congr {after : Service} (hsound : Sound service)
    (hactive : after.active = service.active) (hstatus : after.status = service.status)
    (htasks : after.tasks = service.tasks) : Sound after where
  active := by
    intro hactive'
    rw [hactive] at hactive'
    rw [HasTask, htasks]
    exact hsound.active hactive'
  owner := by
    intro runId hrunning
    rw [hstatus] at hrunning
    rw [HasTask, htasks]
    exact hsound.owner runId hrunning

theorem Sound.createTask (hsound : Sound service) (origin : Origin) :
    Sound (service.createTask origin) where
  active := fun hactive => hasTask_createTask origin (hsound.active hactive)
  owner := fun runId hrunning => hasTask_createTask origin (hsound.owner runId hrunning)

theorem Sound.requestCancel (hsound : Sound service) (task : ℕ) :
    Sound (service.requestCancel task) where
  active := fun hactive => hasTask_modify (fun _ _ hstage => hstage) (hsound.active hactive)
  owner := fun runId hrunning =>
    hasTask_modify (fun _ _ howner => howner) (hsound.owner runId hrunning)

theorem mayMark_requestCancel (hmay : service.mayMark runId = true) (task : ℕ) :
    (service.requestCancel task).mayMark runId = true := by
  cases runId with
  | none => rfl
  | some runId =>
    simp only [mayMark, Option.all_some, Bool.or_eq_true] at hmay ⊢
    apply hmay.imp_right
    intro howned
    exact owned_iff.mpr (hasTask_modify (fun _ _ howner => howner) (owned_iff.mp howned))

theorem Sound.updateRunPhase (hsound : Sound service) (hmay : service.mayMark runId = true) :
    Sound (service.updateRunPhase runId) := by
  unfold Service.updateRunPhase
  split
  · next runId =>
    split
    · exact hsound
    · next hnonempty =>
      have howned : service.owned runId = true := by
        simpa [mayMark, hnonempty] using hmay
      refine ⟨hsound.active, ?_⟩
      intro other hrunning
      obtain ⟨rfl, -⟩ := RunStatus.mk.inj (Option.some.inj hrunning)
      exact owned_iff.mp howned
  · exact hsound

theorem unregister_same (task : ℕ) :
    (service.unregisterBackgroundRun task).active = service.active ∧
      (service.unregisterBackgroundRun task).status = service.status ∧
      (service.unregisterBackgroundRun task).tasks = service.tasks := by
  unfold unregisterBackgroundRun
  split
  · exact ⟨rfl, rfl, rfl⟩
  · exact ⟨rfl, rfl, rfl⟩

theorem settle_same (origin : Origin) (ending : Ending) :
    (service.settle origin ending).active = service.active ∧
      (service.settle origin ending).tasks = service.tasks := by
  unfold settle
  split
  · split
    · exact ⟨rfl, rfl⟩
    · exact ⟨rfl, rfl⟩
  · exact ⟨rfl, rfl⟩

theorem runState_ne_running (ending : Ending) : ending.runState ≠ .running := by
  cases ending with
  | returned timedOut => cases timedOut <;> exact RunState.noConfusion
  | raised timedOut => cases timedOut <;> exact RunState.noConfusion
  | cancelled => exact RunState.noConfusion

/-- The end of `runner()` marks no run as running. -/
theorem status_settle {origin : Origin} {ending : Ending} {runId : String}
    (hrunning : (service.settle origin ending).status = some { runId, state := .running }) :
    service.status = some { runId, state := .running } ∧ origin ≠ .background runId := by
  unfold settle at hrunning
  split at hrunning
  · next own =>
    split at hrunning
    · obtain ⟨-, hstate⟩ := RunStatus.mk.inj (Option.some.inj hrunning)
      exact absurd hstate (runState_ne_running ending)
    · next hother =>
      refine ⟨hrunning, ?_⟩
      rintro horigin
      obtain rfl := Origin.background.inj horigin
      simp [hrunning] at hother
  · exact ⟨hrunning, Origin.noConfusion⟩

variable (hsound : Sound service)

include hsound

theorem Sound.settle (origin : Origin) (ending : Ending) :
    Sound (service.settle origin ending) := by
  obtain ⟨hactive, htasks⟩ := @settle_same service origin ending
  refine ⟨fun hmark => ?_, fun runId hrunning => ?_⟩
  · rw [HasTask, htasks]
    exact hsound.active (hactive ▸ hmark)
  · rw [HasTask, htasks]
    exact hsound.owner runId (status_settle hrunning).1

theorem Sound.setEnded (htask : service.tasks[task]? = some record)
    (hstage : record.stage ≠ .executing) (hshown : service.showsRun record.origin = false) :
    Sound (service.setStage task .ended) where
  active := by
    intro hactive
    apply hasTask_modify ?_ (hsound.active hactive)
    intro other hother hexecuting
    rw [htask] at hother
    cases hother
    exact absurd hexecuting hstage
  owner := by
    intro runId hrunning
    have hrunning : service.status = some { runId, state := .running } := hrunning
    apply hasTask_modify ?_ (hsound.owner runId hrunning)
    rintro other hother ⟨horigin, -⟩
    rw [htask] at hother
    cases hother
    simp [showsRun, horigin, hrunning] at hshown

theorem Sound.endTask (htask : service.tasks[task]? = some record)
    (hstage : record.stage ≠ .executing) (ending : Ending) :
    Sound (service.endTask task record.origin ending) := by
  obtain ⟨hactive, hstatus, htasks⟩ := @unregister_same service task
  have hsettled := (hsound.congr hactive hstatus htasks).settle record.origin ending
  apply hsettled.setEnded ?_ hstage ?_
  · rw [(@settle_same _ record.origin ending).2, htasks]
    exact htask
  · -- the status of the own run is terminal by now
    unfold showsRun
    split
    · next runId horigin =>
      by_contra hshown
      rw [Bool.not_eq_false, beq_iff_eq] at hshown
      exact (status_settle hshown).2 horigin
    · rfl

theorem Sound.finalize (task : ℕ) : Sound (service.finalize task) where
  active := fun hactive => Bool.noConfusion hactive
  owner := by
    intro runId hrunning
    have hkept := @hasTask_modify service (OwnerOf runId) task
      (fun record => { record with stage := .finalizing })
      (fun _ _ howner => ⟨howner.1, Stage.noConfusion⟩) (hsound.owner runId hrunning)
    exact hkept

theorem Sound.cleanUp : Sound service.cleanUp where
  active := hsound.active
  owner := by
    intro runId hrunning
    have hrunning : (if service.active then service.status else none) =
        some { runId, state := .running } := hrunning
    split at hrunning
    · exact hsound.owner runId hrunning
    · cases hrunning

theorem Sound.startTaskRun (runId : String) (loaded : Bool) :
    Sound (service.startTaskRun runId loaded).2 := by
  unfold Service.startTaskRun
  split
  · exact hsound
  · split
    · exact hsound
    · split
      · refine ⟨fun hactive => hasTask_createTask _ (hsound.active hactive), ?_⟩
        intro other hrunning
        obtain ⟨rfl, -⟩ := RunStatus.mk.inj (Option.some.inj hrunning)
        exact hasTask_created _ ⟨rfl, Stage.noConfusion⟩
      · exact hsound

theorem Sound.cancelTaskRun (hcareful : service.careful (.cancelTaskRun runId) = true) :
    Sound (service.cancelTaskRun runId).2 := by
  simp only [careful, Bool.or_eq_true] at hcareful
  simp only [Service.cancelTaskRun]
  split
  · exact hsound
  · next hmatch =>
    split
    · split
      · exact hsound
      · exact hsound
    · next task hlive =>
      have hmay : service.mayMark (pyOr runId (service.status.map RunStatus.runId)) = true := by
        rcases hcareful with (hmismatch | hnone) | hmay
        · exact absurd hmismatch hmatch
        · rw [hlive] at hnone
          cases hnone
        · exact hmay
      exact (hsound.requestCancel task).updateRunPhase (mayMark_requestCancel hmay task)

theorem Sound.firstStep (htask : service.tasks[task]? = some record)
    (hstage : record.stage = .created) (hcareful : service.careful (.firstStep task) = true) :
    Sound (service.firstStep task record) := by
  have hidle : record.stage ≠ .executing := by
    rw [hstage]
    exact Stage.noConfusion
  unfold Service.firstStep
  split
  · next hcancelled =>
    apply hsound.setEnded htask hidle
    simpa [careful, htask, hcancelled] using hcareful
  · split
    · exact hsound.endTask htask hidle _
    · have hregistered : Sound (service.registerBackgroundRun task) :=
        hsound.congr rfl rfl rfl
      dsimp only
      split
      · exact hregistered.endTask htask hidle _
      · refine ⟨fun _ => ⟨task, { record with stage := .executing }, ?_, rfl⟩, ?_⟩
        · simp [registerBackgroundRun, setStage, htask]
        · intro runId hrunning
          have hkept := @hasTask_modify service (OwnerOf runId) task
            (fun record => { record with stage := .executing })
            (fun _ _ howner => ⟨howner.1, Stage.noConfusion⟩)
            (hsound.owner runId hrunning)
          exact hkept

theorem Sound.act {action : Action} {after : Service}
    (hcareful : service.careful action = true) (hact : service.act action = some after) :
    Sound after := by
  cases action with
  | startTaskRun runId loaded =>
    cases hact
    exact hsound.startTaskRun runId loaded
  | runTaskWithLogs runId =>
    cases hact
    exact hsound.createTask _
  | cancelTaskRun runId =>
    cases hact
    exact hsound.cancelTaskRun hcareful
  | cancel task =>
    cases hact
    exact hsound.requestCancel task
  | firstStep task =>
    obtain ⟨record, hrecord, rfl⟩ := Option.map_eq_some_iff.mp hact
    obtain ⟨htask, hstage⟩ := taskAt_eq_some hrecord
    exact hsound.firstStep htask hstage hcareful
  | updateRunPhase task =>
    obtain ⟨record, hrecord, rfl⟩ := Option.map_eq_some_iff.mp hact
    obtain ⟨htask, -⟩ := taskAt_eq_some hrecord
    apply hsound.updateRunPhase
    simpa [careful, htask] using hcareful
  | finalize task =>
    obtain ⟨record, -, rfl⟩ := Option.map_eq_some_iff.mp hact
    exact hsound.finalize task
  | finish task ending =>
    obtain ⟨record, hrecord, rfl⟩ := Option.map_eq_some_iff.mp hact
    obtain ⟨htask, hstage⟩ := taskAt_eq_some hrecord
    apply hsound.endTask htask
    rw [hstage]
    exact Stage.noConfusion
  | cleanUp =>
    rw [Service.act] at hact
    split at hact
    · cases hact
      exact hsound.cleanUp
    · cases hact
  | beginShutdown =>
    cases hact
    exact hsound.congr rfl rfl rfl

omit hsound

end Keeping

/-! ## Quiet states -/

/-- Every task is done. -/
def quiet (service : Service) : Bool :=
  service.tasks.all fun record => record.stage == .ended

/-- The slot of the account and task is free: no status shows a run, and the next run
is not refused. -/
structure SlotFree (service : Service) : Prop where
  terminal : ∀ status, service.status = some status → status.state.isTerminal = true
  idle : ∀ runId, service.isTaskRunning runId = false
  accepted : service.draining = false → ∀ runId, ∃ after, replay act (fun _ _ => true) service
      [.runTaskWithLogs runId, .firstStep service.tasks.length] = some after ∧
    after.active = true
  started : service.draining = false → ∀ runId ≠ "", ∃ after, replay act (fun _ _ => true) service
      [.startTaskRun runId true, .firstStep service.tasks.length] = some after ∧
    after.active = true

theorem not_hasTask_of_quiet {service : Service} {P : TaskRecord → Prop}
    (hquiet : service.quiet = true) (hnot : ∀ record, P record → record.stage ≠ .ended) :
    ¬service.HasTask P := by
  rintro ⟨task, record, htask, hrecord⟩
  have hended := List.all_eq_true.mp hquiet record (List.mem_of_getElem? htask)
  exact hnot record hrecord (beq_iff_eq.mp hended)

theorem firstStep_active {service : Service} {origin : Origin} (task : ℕ)
    (hopen : service.draining = false)
    (hidle : service.isTaskRunning origin.runId = false) :
    (service.firstStep task { origin }).active = true := by
  have hregistered : (service.registerBackgroundRun task).isTaskRunning origin.runId =
      false := hidle
  simp [firstStep, hopen, hregistered]

theorem taskAt_createTask (service : Service) (origin : Origin) :
    (service.createTask origin).taskAt service.tasks.length .created = some { origin } := by
  simp [taskAt, createTask]

theorem Sound.slotFree {service : Service} (hsound : Sound service)
    (hquiet : service.quiet = true) : SlotFree service := by
  have hactive : service.active = false := by
    by_contra hactive
    apply not_hasTask_of_quiet hquiet ?_ (hsound.active (by simpa using hactive))
    intro record hexecuting
    rw [hexecuting]
    exact Stage.noConfusion
  have hterminal : ∀ status, service.status = some status → status.state.isTerminal = true := by
    intro status hstatus
    cases hstate : status.state with
    | running =>
      have hrunning : service.status = some { runId := status.runId, state := .running } := by
        rw [hstatus, ← hstate]
      exact absurd (hsound.owner _ hrunning)
        (not_hasTask_of_quiet hquiet fun record howner => howner.2)
    | finished => rfl
    | timeout => rfl
    | cancelled => rfl
  have hidle : ∀ runId, service.isTaskRunning runId = false := by
    intro runId
    rw [isTaskRunning, hactive, Bool.false_or]
    split
    · next status hstatus =>
      have hended := hterminal status hstatus
      cases hstate : status.state with
      | running => simp [hstate, RunState.isTerminal] at hended
      | finished => rfl
      | timeout => rfl
      | cancelled => rfl
    · rfl
  refine ⟨hterminal, hidle, ?_, ?_⟩
  · intro hopen runId
    refine ⟨(service.createTask (.direct runId)).firstStep service.tasks.length
      { origin := .direct runId }, ?_, firstStep_active _ hopen (hidle runId)⟩
    simp [replay, Service.act, taskAt_createTask]
  · intro hopen runId hnonempty
    have hstarted : (service.startTaskRun runId true).2 =
        ((service.setRunStatus runId .running).createTask
          (.background runId)).registerBackgroundRun service.tasks.length := by
      simp [Service.startTaskRun, hopen, hactive]
    have htask : (service.startTaskRun runId true).2.taskAt service.tasks.length .created =
        some { origin := .background runId } := by
      rw [hstarted]
      exact taskAt_createTask (service.setRunStatus runId .running) _
    refine ⟨(service.startTaskRun runId true).2.firstStep service.tasks.length
      { origin := .background runId }, ?_, firstStep_active _ ?_ ?_⟩
    · simp [replay, Service.act, htask]
    · rw [hstarted]
      exact hopen
    · rw [hstarted]
      simp [isTaskRunning, registerBackgroundRun, Service.createTask, setRunStatus, hactive,
        Origin.runId, truthy, hnonempty]

end Service

/-- Once every task of a careful run is done, the slot is free. -/
theorem slot_freed {actions : List Service.Action} {last : Service}
    (hrun : StepRun Service.act (fun service action => service.careful action = true) {}
      actions last)
    (hquiet : last.quiet = true) : last.SlotFree := by
  have hfirst : Service.Sound {} := by
    refine ⟨fun hactive => Bool.noConfusion hactive, fun runId hrunning => ?_⟩
    cases hrunning
  have hlast : last.Sound :=
    hrun.invariant Service.Sound (fun _ _ _ hsound hcareful hact => hsound.act hcareful hact) hfirst
  exact hlast.slotFree hquiet

/-- A run is started and cancelled while it is active; a run of the scheduler is refused
in between, and the next one is not. -/
def cancelledRun : List Service.Action :=
  [.startTaskRun "r1" true, .firstStep 0, .updateRunPhase 0, .runTaskWithLogs none,
    .firstStep 1, .cancelTaskRun (some "r1"), .cancel 0, .finalize 0, .finish 0 .cancelled,
    .runTaskWithLogs none, .firstStep 2, .updateRunPhase 2, .finalize 2,
    .finish 2 (.returned false)]

theorem cancelled_run_frees : ∃ last,
    replay Service.act Service.careful {} cancelledRun = some last ∧
    last.status = some { runId := "r1", state := .cancelled } ∧ last.SlotFree := by
  have hlast : (replay Service.act Service.careful {} cancelledRun).map
      (fun last => (last.status, last.quiet)) =
        some (some { runId := "r1", state := .cancelled }, true) := by
    decide
  obtain ⟨last, hreplay, hshown⟩ := Option.map_eq_some_iff.mp hlast
  obtain ⟨hstatus, hquiet⟩ := Prod.mk.inj hshown
  exact ⟨last, hreplay, hstatus, slot_freed (stepRun_of_replay hreplay) hquiet⟩

/-- A run that is cancelled before its first step stays on record as running, and the
scheduler is refused from then on. -/
theorem unstarted_cancel_sticks : ∃ last, replay Service.act (fun _ _ => true) {}
      [.startTaskRun "r1" true, .cancelTaskRun none, .firstStep 0] = some last ∧
    last.quiet = true ∧ ¬last.SlotFree := by
  refine ⟨_, rfl, rfl, ?_⟩
  intro hfree
  have hidle := hfree.idle none
  cases hidle

/-- Cancelling a run of the scheduler shows the last run of the panel as running again. -/
example : (replay Service.act (fun _ _ => true) {}
    [.startTaskRun "r1" true, .firstStep 0, .finalize 0, .finish 0 (.returned false),
      .runTaskWithLogs none, .firstStep 1, .cancelTaskRun none, .finalize 1,
      .finish 1 .cancelled]).map (fun last => (last.quiet, last.status)) =
    some (true, some { runId := "r1", state := .running }) := by
  decide

/-- So does a run with an id of its own that no one else started. -/
example : (replay Service.act (fun _ _ => true) {}
    [.runTaskWithLogs (some "r2"), .firstStep 0, .updateRunPhase 0, .finalize 0,
      .finish 0 (.returned false)]).map (fun last => (last.quiet, last.status)) =
    some (true, some { runId := "r2", state := .running }) := by
  decide

end SignPulse.TaskRuns
