import SignPulse.Backend.TaskRuns

/-!
# The mark and the handle of an execution

An execution marks its account and task as active and is registered as the handle by which
it can be cancelled, until it takes both away in its finalization.  Here the runtime state
may also be dropped in between, as `delete_task` and `update_task` do for the accounts they
remove.
-/

namespace SignPulse.TaskRuns

open Foundation
open FlowModels

namespace Service

/-- `_cancel_and_clean_runtime_state`. -/
def cancelAndCleanRuntimeState (service : Service) : Service :=
  let cancelled :=
    match service.liveHandle with
    | some task => service.requestCancel task
    | none => service
  { cancelled with status := none, active := false, handle := none, cleanupPending := false }

/-- The actions on a pair whose task may be deleted and made again. -/
inductive PairAction where
  | service (action : Action)
  | cancelAndCleanRuntimeState
  deriving DecidableEq, Repr

def pairAct (service : Service) : PairAction → Option Service
  | .service action => service.act action
  | .cancelAndCleanRuntimeState => some service.cancelAndCleanRuntimeState

def isExecuting (service : Service) : Bool :=
  service.tasks.any fun record => record.stage == .executing

/-- The condition on an action: while an execution is in progress, no other call gets to
the registration of its handle, and the runtime state is not dropped. -/
def heedful (service : Service) : PairAction → Bool
  | .service (.firstStep task) =>
    !service.isExecuting || service.draining ||
      (service.tasks[task]?).all fun record => record.cancelRequested
  | .cancelAndCleanRuntimeState => !service.isExecuting
  | .service _ => true

/-- What is promised of an execution in progress. -/
structure InProgress (service : Service) (task : ℕ) : Prop where
  marked : service.active = true
  reported : ∀ runId, service.isTaskRunning runId = true
  registered : service.handle = some task
  /-- Cancelling with a matching run id or none cancels this task and no other. -/
  cancelled : ∀ runId, isRunIdMismatch service.status runId = false →
    (service.cancelTaskRun runId).1.ok = true ∧
      (service.cancelTaskRun runId).2.tasks = (service.requestCancel task).tasks

/-- The promise is kept to whatever execution is in progress. -/
def Kept (service : Service) : Prop :=
  ∀ (task : ℕ) (record : TaskRecord), service.tasks[task]? = some record →
    record.stage = .executing → InProgress service task

/-- The mark and the handle are those of whatever execution is in progress. -/
def Guarded (service : Service) : Prop :=
  ∀ (task : ℕ) (record : TaskRecord), service.tasks[task]? = some record →
    record.stage = .executing → service.active = true ∧ service.handle = some task

section Guarding

variable {service : Service}

variable {task : ℕ} {record : TaskRecord}

theorem inProgress_of_guarded (htask : service.tasks[task]? = some record)
    (hstage : record.stage = .executing) (hactive : service.active = true)
    (hhandle : service.handle = some task) :
    InProgress service task where
  marked := hactive
  reported := by
    intro runId
    rw [isTaskRunning, hactive, Bool.true_or]
  registered := hhandle
  cancelled := by
    intro runId hmatch
    have hlive : service.liveHandle = some task := by
      simp [liveHandle, hhandle, htask, hstage]
    have hphase : ∀ (service : Service) (runId : Option String),
        (service.updateRunPhase runId).tasks = service.tasks := by
      intro service runId
      unfold updateRunPhase
      split
      · split
        · rfl
        · rfl
      · rfl
    simp [cancelTaskRun, hmatch, hlive, hphase]

theorem kept_iff_guarded : Kept service ↔ Guarded service := by
  constructor
  · intro hkept task record htask hstage
    have hprogress := hkept task record htask hstage
    exact ⟨hprogress.marked, hprogress.registered⟩
  · intro hguarded task record htask hstage
    obtain ⟨hactive, hhandle⟩ := hguarded task record htask hstage
    exact inProgress_of_guarded htask hstage hactive hhandle

theorem isExecuting_iff : service.isExecuting = true ↔
      ∃ (task : ℕ) (record : TaskRecord), service.tasks[task]? = some record ∧
        record.stage = .executing := by
  simp only [isExecuting, List.any_eq_true, beq_iff_eq]
  constructor
  · rintro ⟨record, hrecord, hstage⟩
    obtain ⟨task, htask⟩ := List.mem_iff_getElem?.mp hrecord
    exact ⟨task, record, htask, hstage⟩
  · rintro ⟨task, record, htask, hstage⟩
    exact ⟨record, List.mem_of_getElem? htask, hstage⟩

theorem guarded_of_idle (hidle : service.isExecuting = false) : Guarded service := by
  intro task record htask hstage
  have hexecuting := isExecuting_iff.mpr ⟨task, record, htask, hstage⟩
  rw [hidle] at hexecuting
  cases hexecuting

/-- What leaves the mark and the handle as they are, and starts nothing, keeps them
guarded. -/
theorem Guarded.frame (hguarded : Guarded service) {after : Service}
    (hactive : after.active = service.active) (hhandle : after.handle = service.handle)
    (htasks : ∀ (task : ℕ) (record : TaskRecord), after.tasks[task]? = some record →
      record.stage = .executing →
      ∃ earlier, service.tasks[task]? = some earlier ∧ earlier.stage = .executing) :
    Guarded after := by
  intro task record htask hstage
  obtain ⟨earlier, hearlier, hexecuting⟩ := htasks task record htask hstage
  rw [hactive, hhandle]
  exact hguarded task earlier hearlier hexecuting

theorem executing_modify {task other : ℕ} {change : TaskRecord → TaskRecord} {record : TaskRecord}
    (hchange : ∀ earlier, service.tasks[task]? = some earlier →
      (change earlier).stage = .executing → earlier.stage = .executing)
    (hother : (service.tasks.modify task change)[other]? = some record)
    (hstage : record.stage = .executing) :
    ∃ earlier, service.tasks[other]? = some earlier ∧ earlier.stage = .executing := by
  rw [List.getElem?_modify] at hother
  obtain ⟨earlier, hearlier, hchanged⟩ := Option.map_eq_some_iff.mp hother
  by_cases hsame : task = other
  · subst hsame
    rw [if_pos rfl] at hchanged
    subst hchanged
    exact ⟨earlier, hearlier, hchange earlier hearlier hstage⟩
  · rw [if_neg hsame] at hchanged
    exact ⟨earlier, hearlier, hchanged ▸ hstage⟩

theorem executing_createTask {origin : Origin}
    (htask : (service.createTask origin).tasks[task]? = some record)
    (hstage : record.stage = .executing) : service.tasks[task]? = some record := by
  rw [createTask, List.getElem?_append] at htask
  split at htask
  · exact htask
  · obtain ⟨_, hnew⟩ := List.getElem?_eq_some_iff.mp htask
    simp only [List.getElem_singleton] at hnew
    rw [← hnew] at hstage
    cases hstage

theorem phase_same (runId : Option String) :
    (service.updateRunPhase runId).active = service.active ∧
      (service.updateRunPhase runId).handle = service.handle ∧
      (service.updateRunPhase runId).tasks = service.tasks := by
  unfold updateRunPhase
  split
  · split
    · exact ⟨rfl, rfl, rfl⟩
    · exact ⟨rfl, rfl, rfl⟩
  · exact ⟨rfl, rfl, rfl⟩

theorem settle_handle (origin : Origin) (ending : Ending) :
    (service.settle origin ending).handle = service.handle := by
  unfold settle
  split
  · split
    · rfl
    · rfl
  · rfl

variable (hguarded : Guarded service)

include hguarded

theorem Guarded.requestCancel (task : ℕ) : Guarded (service.requestCancel task) :=
  hguarded.frame rfl rfl fun other record hother hstage =>
    @executing_modify service task other
      (fun record => { record with cancelRequested := true }) record
      (fun _ _ hchanged => hchanged) hother hstage

theorem Guarded.endTask (htask : service.tasks[task]? = some record)
    (hstage : record.stage ≠ .executing) (origin : Origin) (ending : Ending) :
    Guarded (service.endTask task origin ending) := by
  cases hidle : service.isExecuting with
  | false =>
    apply guarded_of_idle
    apply Bool.eq_false_iff.mpr
    intro hexecuting
    obtain ⟨other, found, hother, hfound⟩ := isExecuting_iff.mp hexecuting
    obtain ⟨-, -, htasks⟩ := @unregister_same service task
    rw [Service.endTask, setStage, (@settle_same _ origin ending).2, htasks] at hother
    have hearlier := executing_modify (fun _ _ hchanged => by cases hchanged) hother hfound
    obtain ⟨earlier, hin, hearlier⟩ := hearlier
    have hnot := isExecuting_iff.mpr ⟨other, earlier, hin, hearlier⟩
    rw [hidle] at hnot
    cases hnot
  | true =>
    obtain ⟨running, found, hrunning, hfound⟩ := isExecuting_iff.mp hidle
    obtain ⟨-, hhandle⟩ := hguarded running found hrunning hfound
    have hother : ¬service.handle = some task := by
      intro hsame
      obtain rfl := Option.some.inj (hhandle.symm.trans hsame)
      rw [htask] at hrunning
      cases hrunning
      exact hstage hfound
    have hunregistered : service.unregisterBackgroundRun task = service := if_neg hother
    apply hguarded.frame
    · rw [Service.endTask, hunregistered]
      exact (@settle_same service origin ending).1
    · rw [Service.endTask, hunregistered]
      exact settle_handle origin ending
    · intro other later hlater hexecuting
      rw [Service.endTask, hunregistered, setStage, (@settle_same service origin ending).2]
        at hlater
      exact executing_modify (fun _ _ hchanged => by cases hchanged) hlater hexecuting

theorem Guarded.startTaskRun (runId : String) (loaded : Bool) :
    Guarded (service.startTaskRun runId loaded).2 := by
  unfold Service.startTaskRun
  split
  · exact hguarded
  split
  · exact hguarded
  next hactive =>
    split
    · -- nothing is in progress without the mark
      intro task record htask hstage
      have hearlier := executing_createTask htask hstage
      exact absurd (hguarded task record hearlier hstage).1 hactive
    · exact hguarded

theorem Guarded.cancelTaskRun (runId : Option String) :
    Guarded (service.cancelTaskRun runId).2 := by
  simp only [Service.cancelTaskRun]
  split
  · exact hguarded
  split
  · split
    · exact hguarded
    · exact hguarded
  · next task _ =>
    obtain ⟨hactive, hhandle, htasks⟩ := @phase_same (service.requestCancel task)
      (pyOr runId (service.status.map RunStatus.runId))
    apply (hguarded.requestCancel task).frame hactive hhandle
    intro other record hother hstage
    rw [htasks] at hother
    exact ⟨record, hother, hstage⟩

theorem Guarded.finalize (htask : service.tasks[task]? = some record)
    (hstage : record.stage = .executing) :
    Guarded (service.finalize task) := by
  intro other found hother hfound
  exfalso
  have hchange : ∀ earlier, service.tasks[task]? = some earlier →
      ({ earlier with stage := .finalizing } : TaskRecord).stage = .executing →
      earlier.stage = .executing := by
    intro earlier _ hchanged
    cases hchanged
  obtain ⟨earlier, hearlier, hexecuting⟩ := executing_modify hchange hother hfound
  -- there is one execution, and it is past its activity now
  have hsame := (hguarded task record htask hstage).2.symm.trans
    (hguarded other earlier hearlier hexecuting).2
  cases hsame
  simp only [Service.finalize, setStage, List.getElem?_modify_eq, htask, Option.map_eq_map,
    Option.map_some, Option.some.injEq] at hother
  subst hother
  cases hfound

omit hguarded

theorem guarded_firstStep_of_idle (hidle : service.isExecuting = false)
    (htask : service.tasks[task]? = some record) (hstage : record.stage = .created) :
    Guarded (service.firstStep task record) := by
  have hnot : record.stage ≠ .executing := by
    rw [hstage]
    exact Stage.noConfusion
  have hguarded := guarded_of_idle hidle
  unfold Service.firstStep
  split
  · exact hguarded.frame rfl rfl fun other later hother hexecuting =>
      @executing_modify service task other (fun record => { record with stage := .ended })
        later (fun _ _ hchanged => by cases hchanged) hother hexecuting
  split
  · exact hguarded.endTask htask hnot _ _
  dsimp only
  split
  · have hregistered : Guarded (service.registerBackgroundRun task) := guarded_of_idle hidle
    exact hregistered.endTask htask hnot _ _
  · intro other later hother hexecuting
    refine ⟨rfl, ?_⟩
    by_cases hsame : task = other
    · exact congrArg some hsame
    · exfalso
      simp only [setStage, registerBackgroundRun, List.getElem?_modify_ne _ _ hsame] at hother
      have hin := isExecuting_iff.mpr ⟨other, later, hother, hexecuting⟩
      rw [hidle] at hin
      cases hin

section

variable (hguarded : Guarded service) (htask : service.tasks[task]? = some record)
  (hstage : record.stage = .created)

include hguarded htask hstage

/-- A call that is refused, or never begins, before its registration leaves an execution
guarded. -/
theorem Guarded.firstStep (hearly : service.draining = true ∨ record.cancelRequested = true) :
    Guarded (service.firstStep task record) := by
  have hnot : record.stage ≠ .executing := by
    rw [hstage]
    exact Stage.noConfusion
  unfold Service.firstStep
  split
  · exact hguarded.frame rfl rfl fun other later hother hexecuting =>
      @executing_modify service task other (fun record => { record with stage := .ended })
        later (fun _ _ hchanged => by cases hchanged) hother hexecuting
  · next hcancelled =>
    rw [if_pos (hearly.resolve_right hcancelled)]
    exact hguarded.endTask htask hnot _ _

/-- A call that gets to its registration while an execution is in progress is refused, and
takes the handle away with it. -/
theorem not_guarded_firstStep
    (hexecuting : service.isExecuting = true) (hopen : service.draining = false)
    (hcancelled : record.cancelRequested = false) :
    ¬Guarded (service.firstStep task record) := by
  obtain ⟨running, found, hrunning, hfound⟩ := isExecuting_iff.mp hexecuting
  obtain ⟨hactive, -⟩ := hguarded running found hrunning hfound
  have hne : task ≠ running := by
    rintro rfl
    rw [htask] at hrunning
    cases hrunning
    rw [hstage] at hfound
    cases hfound
  have hrefused : (service.registerBackgroundRun task).isTaskRunning record.origin.runId =
      true := by
    rw [isTaskRunning, registerBackgroundRun, hactive, Bool.true_or]
  have hstep : service.firstStep task record =
      (service.registerBackgroundRun task).endTask task record.origin (.returned false) := by
    simp [Service.firstStep, hcancelled, hopen, hrefused]
  have hunregistered : (service.registerBackgroundRun task).unregisterBackgroundRun task =
      { service with handle := none } := if_pos rfl
  intro hafter
  have hhandle := (hafter running found ?_ hfound).2
  · rw [hstep, Service.endTask, hunregistered, setStage, settle_handle] at hhandle
    cases hhandle
  · rw [hstep, Service.endTask, hunregistered, setStage, (settle_same _ _).2]
    simp only [List.getElem?_modify_ne _ _ hne]
    exact hrunning

theorem guarded_firstStep_iff : Guarded (service.firstStep task record) ↔
      service.heedful (.service (.firstStep task)) = true := by
  have hheedful : service.heedful (.service (.firstStep task)) =
      (!service.isExecuting || service.draining || record.cancelRequested) := by
    simp [heedful, htask]
  rw [hheedful]
  cases hidle : service.isExecuting with
  | false =>
    simp only [Bool.not_false, Bool.true_or, iff_true]
    exact guarded_firstStep_of_idle hidle htask hstage
  | true =>
    rw [Bool.not_true, Bool.false_or, Bool.or_eq_true]
    constructor
    · intro hafter
      by_contra hlate
      obtain ⟨hopen, hcancelled⟩ := not_or.mp hlate
      exact not_guarded_firstStep hguarded htask hstage hidle
        (Bool.eq_false_iff.mpr hopen) (Bool.eq_false_iff.mpr hcancelled) hafter
    · exact hguarded.firstStep htask hstage

end

theorem guarded_clean_iff : Guarded service.cancelAndCleanRuntimeState ↔
      service.heedful .cancelAndCleanRuntimeState = true := by
  have hcancelled : ∃ task change, service.cancelAndCleanRuntimeState.tasks =
      service.tasks.modify task change ∧
      ∀ record : TaskRecord, (change record).stage = record.stage := by
    simp only [cancelAndCleanRuntimeState]
    split
    · exact ⟨_, _, rfl, fun _ => rfl⟩
    · exact ⟨0, id, (List.modify_id 0 service.tasks).symm, fun _ => rfl⟩
  obtain ⟨task, change, htasks, hstages⟩ := hcancelled
  rw [heedful, Bool.not_eq_true']
  constructor
  · intro hafter
    by_contra hexecuting
    obtain ⟨running, found, hrunning, hfound⟩ :=
      isExecuting_iff.mp (Bool.not_eq_false _ ▸ hexecuting)
    have hmark : service.cancelAndCleanRuntimeState.active = true := by
      by_cases hsame : task = running
      · subst hsame
        apply (hafter task (change found) _ ((hstages found).trans hfound)).1
        rw [htasks, List.getElem?_modify_eq, hrunning]
        rfl
      · apply (hafter running found _ hfound).1
        rw [htasks, List.getElem?_modify_ne _ _ hsame]
        exact hrunning
    cases hmark
  · intro hidle
    apply guarded_of_idle
    apply Bool.eq_false_iff.mpr
    intro hexecuting
    obtain ⟨running, found, hrunning, hfound⟩ := isExecuting_iff.mp hexecuting
    rw [htasks] at hrunning
    obtain ⟨earlier, hearlier, hstage⟩ :=
      executing_modify (fun record _ hchanged => hstages record ▸ hchanged) hrunning hfound
    have hin := isExecuting_iff.mpr ⟨running, earlier, hearlier, hstage⟩
    rw [hidle] at hin
    cases hin

theorem guarded_pairAct_iff (hguarded : Guarded service) {action : PairAction}
    {after : Service} (hact : service.pairAct action = some after) :
    Guarded after ↔ service.heedful action = true := by
  cases action with
  | cancelAndCleanRuntimeState =>
    cases hact
    exact guarded_clean_iff
  | service action =>
    have hact : service.act action = some after := hact
    cases action with
    | firstStep task =>
      obtain ⟨record, hrecord, rfl⟩ := Option.map_eq_some_iff.mp hact
      obtain ⟨htask, hstage⟩ := taskAt_eq_some hrecord
      exact guarded_firstStep_iff hguarded htask hstage
    | startTaskRun runId loaded =>
      cases hact
      exact iff_of_true (hguarded.startTaskRun runId loaded) rfl
    | runTaskWithLogs runId =>
      cases hact
      refine iff_of_true (hguarded.frame rfl rfl ?_) rfl
      intro task record htask hstage
      exact ⟨record, executing_createTask htask hstage, hstage⟩
    | cancelTaskRun runId =>
      cases hact
      exact iff_of_true (hguarded.cancelTaskRun runId) rfl
    | cancel task =>
      cases hact
      exact iff_of_true (hguarded.requestCancel task) rfl
    | updateRunPhase task =>
      obtain ⟨record, -, rfl⟩ := Option.map_eq_some_iff.mp hact
      obtain ⟨hactive, hhandle, htasks⟩ := @phase_same service record.origin.runId
      refine iff_of_true (hguarded.frame hactive hhandle ?_) rfl
      intro other found hother hfound
      rw [htasks] at hother
      exact ⟨found, hother, hfound⟩
    | finalize task =>
      obtain ⟨record, hrecord, rfl⟩ := Option.map_eq_some_iff.mp hact
      obtain ⟨htask, hstage⟩ := taskAt_eq_some hrecord
      exact iff_of_true (hguarded.finalize htask hstage) rfl
    | finish task ending =>
      obtain ⟨record, hrecord, rfl⟩ := Option.map_eq_some_iff.mp hact
      obtain ⟨htask, hstage⟩ := taskAt_eq_some hrecord
      refine iff_of_true (hguarded.endTask htask ?_ record.origin ending) rfl
      rw [hstage]
      exact Stage.noConfusion
    | cleanUp =>
      rw [Service.act] at hact
      split at hact
      · cases hact
        exact iff_of_true hguarded rfl
      · cases hact
    | beginShutdown =>
      cases hact
      exact iff_of_true hguarded rfl

end Guarding

end Service

/-- A run keeps the promise in every state it reaches exactly if all its actions are
heedful. -/
theorem kept_throughout_iff (actions : List Service.PairAction) (last : Service) :
    StepRun Service.pairAct (fun service action => service.heedful action = true) {} actions last ↔
      StepRun Service.pairAct
        (fun service action => ∀ after, service.pairAct action = some after →
          Service.Kept after) {} actions last := by
  have hstep : ∀ (service : Service) (action : Service.PairAction) (next : Service),
      Service.Guarded service → service.pairAct action = some next →
      (service.heedful action = true ↔
        ∀ after, service.pairAct action = some after → Service.Kept after) := by
    intro service action next hguarded hact
    rw [← Service.guarded_pairAct_iff hguarded hact, ← Service.kept_iff_guarded, hact]
    constructor
    · intro hkept after hsame
      cases hsame
      exact hkept
    · intro hkept
      exact hkept next rfl
  apply StepRun.congr hstep
  · intro service action next hguarded hheedful hact
    exact (Service.guarded_pairAct_iff hguarded hact).mpr hheedful
  · exact Service.guarded_of_idle rfl

/-- A run is started, and while it is active the scheduler calls the same task: the call
is refused, and the run can no longer be cancelled. -/
theorem refused_call_takes_handle : ¬∀ (actions : List Service.PairAction) (last : Service),
      StepRun Service.pairAct (fun _ _ => True) {} actions last → Service.Kept last := by
  intro hall
  let actions : List Service.PairAction :=
    [.service (.startTaskRun "r1" true), .service (.firstStep 0),
      .service (.runTaskWithLogs none), .service (.firstStep 1)]
  have hlast : ∃ last, replay Service.pairAct (fun _ _ => true) {} actions = some last ∧
      last.handle = none ∧ (last.taskAt 0 .executing).isSome = true :=
    ⟨_, rfl, rfl, rfl⟩
  obtain ⟨last, hreplay, hhandle, hexecuting⟩ := hlast
  obtain ⟨record, hrecord⟩ := Option.isSome_iff_exists.mp hexecuting
  obtain ⟨htask, hstage⟩ := Service.taskAt_eq_some hrecord
  have hrun := stepRun_of_replay hreplay
  have hregistered := (hall actions last (by simpa using hrun) 0 record htask hstage).registered
  rw [hhandle] at hregistered
  cases hregistered

/-- A task is deleted and made again while it runs: the old execution takes the mark and
the handle of the new one. -/
example : (replay Service.pairAct (fun _ _ => true) {}
    [.service (.startTaskRun "r1" true), .service (.firstStep 0),
      .cancelAndCleanRuntimeState, .service (.startTaskRun "r2" true),
      .service (.firstStep 1), .service (.finalize 0)]).map
      (fun last => (last.active, last.handle, (last.taskAt 1 .executing).isSome)) =
    some (false, none, true) := by
  decide

end SignPulse.TaskRuns
