import SignPulse.Foundation.History
import SignPulse.Backend.TaskRuns

/-!
# The statuses stored under a run id

What each action of the service stores as the status of its account and task, and by whom:
`start_task_run` and the phases of an execution store a running status, `cancel_task_run`
another one, and the end of `runner()` the terminal one.
-/

namespace SignPulse.TaskRuns

open Foundation
open FlowModels

/-- Who stores a status. -/
inductive Source where
  | start
  | phase (task : ℕ)
  | cancel
  | settle (task : ℕ) (ending : Service.Ending)
  deriving DecidableEq, Repr

structure Store where
  source : Source
  status : RunStatus
  deriving DecidableEq, Repr

namespace Service

/-- What `_update_run_phase` stores. -/
def phaseStatus : Option String → Option RunStatus
  | some runId => if runId = "" then none else some { runId, state := .running }
  | none => none

/-- What the end of `runner()` stores. -/
def settledStatus (service : Service) (origin : Origin) (ending : Ending) : Option RunStatus :=
  match origin with
  | .background runId =>
    if service.status.any (·.runId == runId) then
      some { runId, state := ending.runState }
    else none
  | .direct _ => none

def stored (service : Service) : Action → Option Store
  | .startTaskRun runId loaded =>
    if service.draining || service.active || !loaded then none
    else some { source := .start, status := { runId, state := .running } }
  | .cancelTaskRun runId =>
    if isRunIdMismatch service.status runId || service.liveHandle.isNone then none
    else
      (phaseStatus (pyOr runId (service.status.map RunStatus.runId))).map (Store.mk .cancel)
  | .updateRunPhase task =>
    (service.taskAt task .executing).bind fun record =>
      (phaseStatus record.origin.runId).map (Store.mk (.phase task))
  | .firstStep task =>
    (service.taskAt task .created).bind fun record =>
      if record.cancelRequested then none
      else if service.draining then
        (service.settledStatus record.origin (.raised false)).map
          (Store.mk (.settle task (.raised false)))
      else if service.isTaskRunning record.origin.runId then
        (service.settledStatus record.origin (.returned false)).map
          (Store.mk (.settle task (.returned false)))
      else none
  | .finish task ending =>
    (service.taskAt task .finalizing).bind fun record =>
      (service.settledStatus record.origin ending).map (Store.mk (.settle task ending))
  | _ => none

end Service

/-! ## Runs with a record of what is stored -/

structure Recorder where
  service : Service := {}
  history : List Store := []
  deriving DecidableEq, Repr

namespace Recorder

def act (recorder : Recorder) (action : Service.Action) : Option Recorder :=
  (recorder.service.act action).map fun after =>
    { service := after
      history := recorder.history ++ (recorder.service.stored action).toList }

/-- The run ids that `start_task_run` draws are new, and other runs have none. -/
def inScope (recorder : Recorder) : Service.Action → Bool
  | .startTaskRun runId _ =>
    runId != "" && recorder.service.tasks.all fun record =>
      record.origin != .background runId
  | .runTaskWithLogs runId => runId.isNone
  | _ => true

abbrev Run := StepRun act fun recorder action => recorder.inScope action = true

/-- No running status under a run id that has had a terminal one. -/
def Absorbed (before : List Store) (store : Store) : Prop :=
  store.status.state = .running → ∀ earlier ∈ before, earlier.status.runId = store.status.runId →
      earlier.status.state = .running

/-- The run id has had no terminal status. -/
def unsettled (recorder : Recorder) (runId : Option String) : Bool :=
  runId.all fun runId => runId == "" || recorder.history.all fun earlier =>
    earlier.status.runId != runId || earlier.status.state == .running

/-- A `cancel_task_run` that gets past its checks marks a run that has had no terminal
status. -/
def spares (recorder : Recorder) : Service.Action → Bool
  | .cancelTaskRun runId =>
    Service.isRunIdMismatch recorder.service.status runId || recorder.service.liveHandle.isNone ||
      recorder.unsettled (pyOr runId (recorder.service.status.map RunStatus.runId))
  | _ => true

/-- A terminal status is how the one task of its run has ended. -/
def Own (service : Service) (store : Store) : Prop :=
  ∃ (task : ℕ) (ending : Service.Ending) (record : TaskRecord),
    store.source = .settle task ending ∧ store.status.state = ending.runState ∧
      service.tasks[task]? = some record ∧
      record.origin = .background store.status.runId ∧ record.stage = .ended

/-- The tasks of different runs are different. -/
def DistinctRuns (service : Service) : Prop :=
  ∀ (task other : ℕ) (record found : TaskRecord) (runId : String),
    service.tasks[task]? = some record → service.tasks[other]? = some found →
    record.origin = .background runId → found.origin = .background runId → task = other

/-- What holds between any two actions. -/
structure Sound (recorder : Recorder) : Prop where
  distinct : DistinctRuns recorder.service
  direct : ∀ (task : ℕ) (record : TaskRecord) (runId : Option String),
    recorder.service.tasks[task]? = some record → record.origin = .direct runId →
    runId = none
  own : ∀ store ∈ recorder.history, store.status.state ≠ .running → Own recorder.service store
  absorbed : EachAfter (fun before store => store.source ≠ .cancel → Absorbed before store)
    recorder.history

theorem sound_empty : Sound {} where
  distinct := fun _ _ _ _ _ htask => by simp at htask
  direct := fun _ _ _ htask => by simp at htask
  own := fun _ hstore => absurd hstore List.not_mem_nil
  absorbed := eachAfter_nil _

/-! ## What actions keep of the tasks -/

/-- Tasks keep their origins, done ones stay done, and a new one is of a new run. -/
structure TasksKept (service after : Service) : Prop where
  forth : ∀ (task : ℕ) (record : TaskRecord), service.tasks[task]? = some record →
    ∃ later, after.tasks[task]? = some later ∧ later.origin = record.origin ∧
      (record.stage = .ended → later.stage = .ended)
  back : ∀ (task : ℕ) (later : TaskRecord), after.tasks[task]? = some later →
    (∃ record, service.tasks[task]? = some record ∧ later.origin = record.origin) ∨
      task = service.tasks.length ∧ (later.origin = .direct none ∨
        ∃ runId, later.origin = .background runId ∧
          ∀ record ∈ service.tasks, record.origin ≠ .background runId)

section Keeping

variable {service after : Service}

theorem tasksKept_of_eq (htasks : after.tasks = service.tasks) : TasksKept service after where
  forth := fun _ record htask => ⟨record, htasks ▸ htask, rfl, id⟩
  back := fun _ later htask => .inl ⟨later, htasks ▸ htask, rfl⟩

theorem tasksKept_modify {task : ℕ} {change : TaskRecord → TaskRecord}
    (htasks : after.tasks = service.tasks.modify task change)
    (horigin : ∀ record, (change record).origin = record.origin)
    (hended : ∀ record, service.tasks[task]? = some record → record.stage = .ended →
      (change record).stage = .ended) : TasksKept service after where
  forth := by
    intro other record hother
    rw [htasks]
    by_cases hsame : task = other
    · subst hsame
      refine ⟨change record, ?_, horigin record, hended record hother⟩
      simp [hother]
    · refine ⟨record, ?_, rfl, id⟩
      simpa [hsame] using hother
  back := by
    intro other later hother
    left
    rw [htasks, List.getElem?_modify] at hother
    obtain ⟨record, hrecord, hchanged⟩ := Option.map_eq_some_iff.mp hother
    refine ⟨record, hrecord, ?_⟩
    rw [← hchanged]
    split
    · exact horigin record
    · rfl

theorem tasksKept_created {origin : Origin}
    (htasks : after.tasks = service.tasks ++ [({ origin := origin } : TaskRecord)])
    (hnew : origin = .direct none ∨ ∃ runId, origin = .background runId ∧
      ∀ record ∈ service.tasks, record.origin ≠ .background runId) :
    TasksKept service after where
  forth := by
    intro task record htask
    obtain ⟨hlt, -⟩ := List.getElem?_eq_some_iff.mp htask
    refine ⟨record, ?_, rfl, id⟩
    rw [htasks, List.getElem?_append_left hlt]
    exact htask
  back := by
    intro task later hlater
    rw [htasks] at hlater
    by_cases hold : task < service.tasks.length
    · rw [List.getElem?_append_left hold] at hlater
      exact .inl ⟨later, hlater, rfl⟩
    · have hlength : task = service.tasks.length := by
        have hlt := (List.getElem?_eq_some_iff.mp hlater).1
        simp only [List.length_append, List.length_singleton] at hlt
        omega
      subst hlength
      obtain rfl : ({ origin := origin } : TaskRecord) = later := by simpa using hlater
      exact .inr ⟨rfl, hnew⟩

theorem tasks_endTask (task : ℕ) (origin : Origin) (ending : Service.Ending) :
    (service.endTask task origin ending).tasks =
      service.tasks.modify task fun record => { record with stage := .ended } := by
  obtain ⟨-, -, htasks⟩ := @Service.unregister_same service task
  rw [Service.endTask, Service.setStage, (Service.settle_same origin ending).2, htasks]

theorem tasks_updateRunPhase (runId : Option String) :
    (service.updateRunPhase runId).tasks = service.tasks := by
  unfold Service.updateRunPhase
  split
  · split
    · rfl
    · rfl
  · rfl

theorem tasks_firstStep (task : ℕ) (record : TaskRecord) :
    ∃ stage, (service.firstStep task record).tasks =
      service.tasks.modify task fun record => { record with stage } := by
  unfold Service.firstStep
  split
  · exact ⟨.ended, rfl⟩
  split
  · exact ⟨.ended, tasks_endTask task _ _⟩
  dsimp only
  split
  · exact ⟨.ended, @tasks_endTask (service.registerBackgroundRun task) task _ _⟩
  · exact ⟨.executing, rfl⟩

theorem tasks_cancelTaskRun (runId : Option String) :
    (service.cancelTaskRun runId).2.tasks = service.tasks ∨
      ∃ task, (service.cancelTaskRun runId).2.tasks =
        service.tasks.modify task fun record => { record with cancelRequested := true } := by
  simp only [Service.cancelTaskRun]
  split
  · exact .inl rfl
  split
  · split
    · exact .inl rfl
    · exact .inl rfl
  · next task _ => exact .inr ⟨task, tasks_updateRunPhase _⟩

theorem tasksKept_startTaskRun {runId : String} (loaded : Bool)
    (hnew : ∀ record ∈ service.tasks, record.origin ≠ .background runId) :
    TasksKept service (service.startTaskRun runId loaded).2 := by
  unfold Service.startTaskRun
  split
  · exact tasksKept_of_eq rfl
  split
  · exact tasksKept_of_eq rfl
  split
  · exact tasksKept_created rfl (.inr ⟨runId, rfl, hnew⟩)
  · exact tasksKept_of_eq rfl

theorem tasksKept_setStage {task : ℕ} {stage : Stage} {record : TaskRecord}
    (htasks : after.tasks = service.tasks.modify task fun record => { record with stage })
    (htask : service.tasks[task]? = some record) (hopen : record.stage ≠ .ended) :
    TasksKept service after := by
  apply tasksKept_modify htasks (fun _ => rfl)
  intro found hfound hended
  rw [htask] at hfound
  cases hfound
  exact absurd hended hopen

theorem tasksKept_act {recorder : Recorder} {action : Service.Action}
    (hscope : recorder.inScope action = true)
    (hact : recorder.service.act action = some after) :
    TasksKept recorder.service after := by
  cases action with
  | startTaskRun runId loaded =>
    cases hact
    apply tasksKept_startTaskRun loaded
    intro record hrecord
    have hnew := ((Bool.and_eq_true _ _).mp hscope).2
    exact bne_iff_ne.mp (List.all_eq_true.mp hnew record hrecord)
  | runTaskWithLogs runId =>
    cases hact
    obtain rfl := Option.isNone_iff_eq_none.mp hscope
    exact tasksKept_created rfl (.inl rfl)
  | cancelTaskRun runId =>
    cases hact
    rcases @tasks_cancelTaskRun recorder.service runId with hsame | ⟨task, hmodified⟩
    · exact tasksKept_of_eq hsame
    · exact tasksKept_modify hmodified (fun _ => rfl) (fun _ _ hended => hended)
  | cancel task =>
    cases hact
    exact tasksKept_modify rfl (fun _ => rfl) (fun _ _ hended => hended)
  | firstStep task =>
    obtain ⟨record, hrecord, rfl⟩ := Option.map_eq_some_iff.mp hact
    obtain ⟨htask, hstage⟩ := Service.taskAt_eq_some hrecord
    obtain ⟨stage, hmodified⟩ := @tasks_firstStep recorder.service task record
    apply tasksKept_setStage hmodified htask
    rw [hstage]
    exact Stage.noConfusion
  | updateRunPhase task =>
    obtain ⟨record, -, rfl⟩ := Option.map_eq_some_iff.mp hact
    exact tasksKept_of_eq (tasks_updateRunPhase _)
  | finalize task =>
    obtain ⟨record, hrecord, rfl⟩ := Option.map_eq_some_iff.mp hact
    obtain ⟨htask, hstage⟩ := Service.taskAt_eq_some hrecord
    apply tasksKept_setStage rfl htask
    rw [hstage]
    exact Stage.noConfusion
  | finish task ending =>
    obtain ⟨record, hrecord, rfl⟩ := Option.map_eq_some_iff.mp hact
    obtain ⟨htask, hstage⟩ := Service.taskAt_eq_some hrecord
    apply tasksKept_setStage (tasks_endTask task _ _) htask
    rw [hstage]
    exact Stage.noConfusion
  | cleanUp =>
    rw [Service.act] at hact
    split at hact
    · cases hact
      exact tasksKept_of_eq rfl
    · cases hact
  | beginShutdown =>
    cases hact
    exact tasksKept_of_eq rfl

theorem TasksKept.distinct (hkept : TasksKept service after) (hdistinct : DistinctRuns service) :
    DistinctRuns after := by
  intro task other record found runId htask hother horigin hfound
  rcases hkept.back task record htask with ⟨earlier, hearlier, hsame⟩ | ⟨hlast, hnew⟩
  · rcases hkept.back other found hother with ⟨before, hbefore, hagain⟩ | ⟨hlast, hnew⟩
    · exact hdistinct task other earlier before runId hearlier hbefore (hsame ▸ horigin)
        (hagain ▸ hfound)
    · exfalso
      rcases hnew with hdirect | ⟨drawn, hdrawn, hfresh⟩
      · rw [hfound] at hdirect
        cases hdirect
      · rw [hfound] at hdrawn
        obtain rfl := Origin.background.inj hdrawn
        exact hfresh earlier (List.mem_of_getElem? hearlier) (hsame ▸ horigin)
  · rcases hkept.back other found hother with ⟨before, hbefore, hagain⟩ | ⟨hlast', -⟩
    · exfalso
      rcases hnew with hdirect | ⟨drawn, hdrawn, hfresh⟩
      · rw [horigin] at hdirect
        cases hdirect
      · rw [horigin] at hdrawn
        obtain rfl := Origin.background.inj hdrawn
        exact hfresh before (List.mem_of_getElem? hbefore) (hagain ▸ hfound)
    · exact hlast.trans hlast'.symm

theorem TasksKept.direct (hkept : TasksKept service after)
    (hdirect : ∀ (task : ℕ) (record : TaskRecord) (runId : Option String),
      service.tasks[task]? = some record → record.origin = .direct runId → runId = none)
    (task : ℕ) (record : TaskRecord) (runId : Option String)
    (htask : after.tasks[task]? = some record) (horigin : record.origin = .direct runId) :
    runId = none := by
  rcases hkept.back task record htask with ⟨earlier, hearlier, hsame⟩ | ⟨-, hnew⟩
  · exact hdirect task earlier runId hearlier (hsame ▸ horigin)
  · rcases hnew with hnone | ⟨drawn, hdrawn, -⟩
    · rw [horigin] at hnone
      exact Origin.direct.inj hnone
    · rw [horigin] at hdrawn
      cases hdrawn

theorem TasksKept.own (hkept : TasksKept service after) {store : Store}
    (hown : Own service store) : Own after store := by
  obtain ⟨task, ending, record, hsource, hstate, htask, horigin, hended⟩ := hown
  obtain ⟨later, hlater, hsame, hstays⟩ := hkept.forth task record htask
  exact ⟨task, ending, later, hsource, hstate, hlater, hsame.trans horigin, hstays hended⟩

end Keeping

/-! ## Who stores which status -/

section Stores

variable {service after : Service} {store : Store}

theorem running_of_phaseStatus {runId : Option String} {status : RunStatus}
    (hstatus : Service.phaseStatus runId = some status) :
    runId = some status.runId ∧ status.state = .running := by
  unfold Service.phaseStatus at hstatus
  split at hstatus
  · split at hstatus
    · cases hstatus
    · cases hstatus
      exact ⟨rfl, rfl⟩
  · cases hstatus

theorem background_of_settledStatus {origin : Origin} {ending : Service.Ending}
    {status : RunStatus} (hstatus : service.settledStatus origin ending = some status) :
    origin = .background status.runId ∧ status.state = ending.runState := by
  unfold Service.settledStatus at hstatus
  split at hstatus
  · split at hstatus
    · cases hstatus
      exact ⟨rfl, rfl⟩
    · cases hstatus
  · cases hstatus

theorem own_endTask {task : ℕ} {record : TaskRecord} {ending : Service.Ending}
    (htask : service.tasks[task]? = some record)
    (hafter : after.tasks = service.tasks.modify task fun record => { record with stage := .ended })
    (hstore : (service.settledStatus record.origin ending).map
      (Store.mk (.settle task ending)) = some store) : Own after store := by
  obtain ⟨status, hstatus, rfl⟩ := Option.map_eq_some_iff.mp hstore
  obtain ⟨horigin, hstate⟩ := background_of_settledStatus hstatus
  refine ⟨task, ending, { record with stage := .ended }, rfl, hstate, ?_, horigin, rfl⟩
  rw [hafter]
  simp [htask]

theorem own_firstStep {task : ℕ} {record : TaskRecord}
    (hrecord : service.taskAt task .created = some record)
    (hstore : service.stored (.firstStep task) = some store) :
    Own (service.firstStep task record) store := by
  obtain ⟨htask, -⟩ := Service.taskAt_eq_some hrecord
  simp only [Service.stored, hrecord, Option.bind_some] at hstore
  unfold Service.firstStep
  split at hstore
  · cases hstore
  next hcalm =>
    rw [if_neg hcalm]
    split at hstore
    · next hdraining =>
      rw [if_pos hdraining]
      exact own_endTask htask (tasks_endTask task _ _) hstore
    next hopen =>
      rw [if_neg hopen]
      split at hstore
      · next hrunning =>
        have hrefused : (service.registerBackgroundRun task).isTaskRunning
            record.origin.runId = true := hrunning
        rw [if_pos hrefused]
        exact own_endTask htask
          (@tasks_endTask (service.registerBackgroundRun task) task _ _) hstore
      · cases hstore

theorem own_of_stored {action : Service.Action} (hact : service.act action = some after)
    (hstore : service.stored action = some store)
    (hterminal : store.status.state ≠ .running) : Own after store := by
  cases action with
  | startTaskRun runId loaded =>
    simp only [Service.stored] at hstore
    split at hstore
    · cases hstore
    · cases hstore
      exact absurd rfl hterminal
  | cancelTaskRun runId =>
    simp only [Service.stored] at hstore
    split at hstore
    · cases hstore
    · obtain ⟨status, hstatus, rfl⟩ := Option.map_eq_some_iff.mp hstore
      exact absurd (running_of_phaseStatus hstatus).2 hterminal
  | updateRunPhase task =>
    obtain ⟨record, -, hmap⟩ := Option.bind_eq_some_iff.mp hstore
    obtain ⟨status, hstatus, rfl⟩ := Option.map_eq_some_iff.mp hmap
    exact absurd (running_of_phaseStatus hstatus).2 hterminal
  | firstStep task =>
    obtain ⟨record, hrecord, rfl⟩ := Option.map_eq_some_iff.mp hact
    exact own_firstStep hrecord hstore
  | finish task ending =>
    obtain ⟨record, hrecord, rfl⟩ := Option.map_eq_some_iff.mp hact
    obtain ⟨htask, -⟩ := Service.taskAt_eq_some hrecord
    simp only [Service.stored, hrecord, Option.bind_some] at hstore
    exact own_endTask htask (tasks_endTask task _ _) hstore
  | runTaskWithLogs runId => cases hstore
  | cancel task => cases hstore
  | finalize task => cases hstore
  | cleanUp => cases hstore
  | beginShutdown => cases hstore

theorem cancel_of_stored {action : Service.Action}
    (hstore : service.stored action = some store) (hsource : store.source = .cancel) :
    ∃ runId, action = .cancelTaskRun runId := by
  cases action with
  | cancelTaskRun runId => exact ⟨runId, rfl⟩
  | startTaskRun runId loaded =>
    simp only [Service.stored] at hstore
    split at hstore
    · cases hstore
    · cases hstore
      cases hsource
  | updateRunPhase task =>
    obtain ⟨record, -, hmap⟩ := Option.bind_eq_some_iff.mp hstore
    obtain ⟨status, -, rfl⟩ := Option.map_eq_some_iff.mp hmap
    cases hsource
  | firstStep task =>
    obtain ⟨record, hrecord, -⟩ := Option.bind_eq_some_iff.mp hstore
    obtain ⟨_, _, _, hsettled, -⟩ := own_firstStep hrecord hstore
    rw [hsource] at hsettled
    cases hsettled
  | finish task ending =>
    obtain ⟨record, -, hmap⟩ := Option.bind_eq_some_iff.mp hstore
    obtain ⟨status, -, rfl⟩ := Option.map_eq_some_iff.mp hmap
    cases hsource
  | runTaskWithLogs runId => cases hstore
  | cancel task => cases hstore
  | finalize task => cases hstore
  | cleanUp => cases hstore
  | beginShutdown => cases hstore

/-- Besides `cancel_task_run`, a new run and an execution of the run store a running
status. -/
theorem running_of_stored {action : Service.Action} (hstore : service.stored action = some store)
    (hrunning : store.status.state = .running) (hsource : store.source ≠ .cancel) :
    (∃ loaded, action = .startTaskRun store.status.runId loaded) ∨
      ∃ (task : ℕ) (record : TaskRecord), service.taskAt task .executing = some record ∧
        record.origin.runId = some store.status.runId := by
  cases action with
  | startTaskRun runId loaded =>
    simp only [Service.stored] at hstore
    split at hstore
    · cases hstore
    · cases hstore
      exact .inl ⟨loaded, rfl⟩
  | cancelTaskRun runId =>
    simp only [Service.stored] at hstore
    split at hstore
    · cases hstore
    · obtain ⟨status, -, rfl⟩ := Option.map_eq_some_iff.mp hstore
      exact absurd rfl hsource
  | updateRunPhase task =>
    obtain ⟨record, hrecord, hmap⟩ := Option.bind_eq_some_iff.mp hstore
    obtain ⟨status, hstatus, rfl⟩ := Option.map_eq_some_iff.mp hmap
    exact .inr ⟨task, record, hrecord, (running_of_phaseStatus hstatus).1⟩
  | firstStep task =>
    obtain ⟨record, hrecord, -⟩ := Option.bind_eq_some_iff.mp hstore
    obtain ⟨-, ending, -, -, hstate, -⟩ := own_firstStep hrecord hstore
    exact absurd (hstate ▸ hrunning) (Service.runState_ne_running ending)
  | finish task ending =>
    obtain ⟨record, -, hmap⟩ := Option.bind_eq_some_iff.mp hstore
    obtain ⟨status, hstatus, rfl⟩ := Option.map_eq_some_iff.mp hmap
    have hstate := (background_of_settledStatus hstatus).2
    exact absurd (hstate ▸ hrunning) (Service.runState_ne_running ending)
  | runTaskWithLogs runId => cases hstore
  | cancel task => cases hstore
  | finalize task => cases hstore
  | cleanUp => cases hstore
  | beginShutdown => cases hstore

end Stores

/-! ## Runs -/

variable {recorder : Recorder}

/-- What is stored by anyone but `cancel_task_run` is absorbed: a new run is not that of
a task that has ended, and an execution has not ended. -/
theorem Sound.absorbed_stored (hsound : Sound recorder) {action : Service.Action}
    {store : Store} (hscope : recorder.inScope action = true)
    (hstore : recorder.service.stored action = some store) (hsource : store.source ≠ .cancel) :
    Absorbed recorder.history store := by
  intro hrunning earlier hearlier hsame
  by_contra hterminal
  obtain ⟨task, ending, record, -, -, htask, horigin, hended⟩ :=
    hsound.own earlier hearlier hterminal
  rw [hsame] at horigin
  rcases running_of_stored hstore hrunning hsource with
    ⟨loaded, rfl⟩ | ⟨other, found, hfound, hrunId⟩
  · have hnew := ((Bool.and_eq_true _ _).mp hscope).2
    have hother := List.all_eq_true.mp hnew record (List.mem_of_getElem? htask)
    exact bne_iff_ne.mp hother horigin
  · obtain ⟨hother, hexecuting⟩ := Service.taskAt_eq_some hfound
    cases hown : found.origin with
    | background runId =>
      rw [hown] at hrunId
      cases hrunId
      obtain rfl := hsound.distinct task other record found _ htask hother horigin hown
      rw [htask] at hother
      cases hother
      rw [hended] at hexecuting
      cases hexecuting
    | direct runId =>
      rw [hown] at hrunId
      have hnone := hsound.direct other found runId hother hown
      rw [hnone] at hrunId
      cases hrunId

theorem Sound.act (hsound : Sound recorder) {action : Service.Action} {after : Recorder}
    (hscope : recorder.inScope action = true) (hact : recorder.act action = some after) :
    Sound after := by
  obtain ⟨service, hservice, rfl⟩ := Option.map_eq_some_iff.mp hact
  have hkept := tasksKept_act hscope hservice
  refine ⟨hkept.distinct hsound.distinct, hkept.direct hsound.direct, ?_, ?_⟩
  · intro store hstore hterminal
    rcases List.mem_append.mp hstore with hold | hnew
    · exact hkept.own (hsound.own store hold hterminal)
    · exact own_of_stored hservice (Option.mem_toList.mp hnew) hterminal
  · dsimp only
    cases hstored : recorder.service.stored action with
    | none => simpa using hsound.absorbed
    | some store =>
      exact hsound.absorbed.concat fun hsource =>
        hsound.absorbed_stored hscope hstored hsource

/-- A terminal status is never followed by a running one under the same run id, and is
the outcome of the run's own execution. -/
structure OutcomesKept (recorder : Recorder) : Prop where
  absorbed : EachAfter Absorbed recorder.history
  own : ∀ store ∈ recorder.history, store.status.state ≠ .running → Own recorder.service store

theorem unsettled_iff {runId : Option String} :
    recorder.unsettled runId = true ↔ ∀ status, Service.phaseStatus runId = some status →
      Absorbed recorder.history (Store.mk .cancel status) := by
  have hshown : ∀ earlier : Store, ∀ shown : String,
      (earlier.status.runId != shown || earlier.status.state == .running) = true ↔
        (earlier.status.runId = shown → earlier.status.state = .running) := by
    intro earlier shown
    rw [Bool.or_eq_true, bne_iff_ne, beq_iff_eq]
    tauto
  cases runId with
  | none => simp [unsettled, Service.phaseStatus]
  | some runId =>
    by_cases hempty : runId = ""
    · simp [unsettled, Service.phaseStatus, hempty]
    · simp only [unsettled, Option.all_some, Service.phaseStatus, hempty, if_false,
        Option.some.injEq, beq_eq_false_iff_ne.mpr hempty, Bool.false_or, List.all_eq_true]
      constructor
      · rintro hall status rfl - earlier hearlier
        exact (hshown earlier runId).mp (hall earlier hearlier)
      · intro habsorbed earlier hearlier
        exact (hshown earlier runId).mpr (habsorbed _ rfl rfl earlier hearlier)

theorem Sound.spares_iff (hsound : Sound recorder) {action : Service.Action}
    (hscope : recorder.inScope action = true) :
    recorder.spares action = true ↔ ∀ store, recorder.service.stored action = some store →
        Absorbed recorder.history store := by
  by_cases hcancel : ∃ runId, action = .cancelTaskRun runId
  · obtain ⟨runId, rfl⟩ := hcancel
    simp only [spares, Service.stored]
    cases hrefused : Service.isRunIdMismatch recorder.service.status runId ||
        recorder.service.liveHandle.isNone with
    | true => simp
    | false =>
      rw [Bool.false_or, unsettled_iff]
      constructor
      · intro habsorbed store hstore
        obtain ⟨status, hstatus, rfl⟩ := Option.map_eq_some_iff.mp hstore
        exact habsorbed status hstatus
      · intro habsorbed status hstatus
        exact habsorbed _ (Option.map_eq_some_iff.mpr ⟨status, hstatus, rfl⟩)
  · constructor
    · intro _ store hstore
      apply hsound.absorbed_stored hscope hstore
      intro hsource
      exact hcancel (cancel_of_stored hstore hsource)
    · intro _
      cases action with
      | cancelTaskRun runId => exact absurd ⟨runId, rfl⟩ hcancel
      | _ => rfl

theorem Sound.outcomesKept_iff (hsound : Sound recorder) (hkept : OutcomesKept recorder)
    {action : Service.Action} {after : Recorder} (hscope : recorder.inScope action = true)
    (hact : recorder.act action = some after) :
    OutcomesKept after ↔ recorder.spares action = true := by
  have hown := (hsound.act hscope hact).own
  obtain ⟨service, -, rfl⟩ := Option.map_eq_some_iff.mp hact
  rw [hsound.spares_iff hscope]
  constructor
  · intro hafter store hstore
    have habsorbed := hafter.absorbed
    rw [hstore] at habsorbed
    exact habsorbed recorder.history store [] rfl
  · intro hspares
    refine ⟨?_, hown⟩
    cases hstored : recorder.service.stored action with
    | none => simpa using hkept.absorbed
    | some store => exact hkept.absorbed.concat (hspares store hstored)

/-- A run keeps the outcomes in every state it reaches exactly if all its actions spare
the settled runs. -/
theorem outcomes_kept_iff (actions : List Service.Action) (last : Recorder) :
    StepRun act (fun recorder action =>
        recorder.inScope action = true ∧ recorder.spares action = true) {} actions last ↔
      StepRun act (fun recorder action =>
        recorder.inScope action = true ∧
          ∀ after, recorder.act action = some after → OutcomesKept after) {} actions last := by
  apply @StepRun.congr _ _ act _ _ fun recorder => Sound recorder ∧ OutcomesKept recorder
  · rintro recorder action next ⟨hsound, hkept⟩ hact
    constructor
    · rintro ⟨hscope, hspares⟩
      refine ⟨hscope, fun after hafter => ?_⟩
      exact (hsound.outcomesKept_iff hkept hscope hafter).mpr hspares
    · rintro ⟨hscope, hall⟩
      exact ⟨hscope, (hsound.outcomesKept_iff hkept hscope hact).mp (hall next hact)⟩
  · rintro recorder action next ⟨hsound, hkept⟩ ⟨hscope, hspares⟩ hact
    exact ⟨hsound.act hscope hact, (hsound.outcomesKept_iff hkept hscope hact).mpr hspares⟩
  · exact ⟨sound_empty, eachAfter_nil _, fun _ hstore => absurd hstore List.not_mem_nil⟩

/-- A run of the scheduler is cancelled after one of the panel has ended, and the status
of the latter is running again. -/
theorem cancel_revives_run : ¬∀ (actions : List Service.Action) (last : Recorder),
      Run {} actions last → OutcomesKept last := by
  intro hall
  let actions : List Service.Action :=
    [.startTaskRun "r1" true, .firstStep 0, .finalize 0, .finish 0 (.returned false),
      .runTaskWithLogs none, .firstStep 1, .cancelTaskRun none]
  have hlast : (replay act inScope {} actions).map history =
      some [⟨.start, "r1", .running⟩, ⟨.settle 0 (.returned false), "r1", .finished⟩,
        ⟨.cancel, "r1", .running⟩] := by
    decide
  obtain ⟨last, hreplay, hhistory⟩ := Option.map_eq_some_iff.mp hlast
  have hkept := hall actions last (stepRun_of_replay hreplay)
  have hrevived := hkept.absorbed
    [⟨.start, "r1", .running⟩, ⟨.settle 0 (.returned false), "r1", .finished⟩]
    ⟨.cancel, "r1", .running⟩ [] hhistory rfl
    ⟨.settle 0 (.returned false), "r1", .finished⟩ (by simp) rfl
  cases hrevived

end Recorder

end SignPulse.TaskRuns
