import SignPulse.Flow.FlowModels

/-!
# Chained runs

A run that succeeds may start the task that its configuration names in
`next_task_on_success`, and that one the next.  The names of the tasks that the chain has
visited travel with it: from `_runner_trigger_chained_task` of `sign_task_runner.py`
through the deferred start to `start_task_run`, its background runner,
`run_task_with_logs` and `execute_sign_task`.  Everything else, the configurations and the
state of the service among it, is whatever it is at the time, and is taken as given by the
surroundings of each run.
-/

namespace SignPulse.ChainedRuns

open Foundation
open FlowModels (PyError pyOr)

/-- `bool(value)`. -/
def isTrue : PyValue → Bool
  | .none => false
  | .bool value => value
  | .int value => value != 0
  | .float value => value != 0
  | .str value => value != ""
  | .list items => !items.isEmpty
  | .dict entries => !entries.isEmpty

abbrev Config := Dict String PyValue

/-- `config.get(key, default)`. -/
def getEntry (config : Config) (key : String) (default : PyValue := .none) : PyValue :=
  (Dict.getItem config key).getD default

/-- What is found at the time of one run: in the end the state of the service when the
next run is to be started. -/
structure Surroundings where
  /-- `_draining` when the run begins. -/
  draining : Bool := false
  /-- `is_task_running` says that the task runs already. -/
  running : Bool := false
  /-- `task_cfg`, empty if it could not be loaded. -/
  taskCfg : Config := []
  rawTaskCfg : Config := []
  success : Bool := true
  cancelled : Bool := false
  aggregateStatus : Option String := some "success"
  /-- `business_status` of the signer's context. -/
  businessStatus : Option String := none
  /-- `get_task` for the next task. -/
  targetCfg : Option Config := none
  /-- The deferred start fails or is cancelled before it starts the run. -/
  dropped : Bool := false
  drainingAtStart : Bool := false
  /-- The next task is active when it is to be started. -/
  active : Bool := false
  /-- `get_task` finds the next task when it is to be started. -/
  loaded : Bool := true

/-- A run that is started: what `run_task_with_logs` is called with. -/
structure Run where
  taskName : String
  visitedChain : Option (List String) := none
  deriving DecidableEq, Repr

/-- The fields of `TaskExecutionContext` that the chain depends on. -/
structure Context where
  taskName : String
  visitedChain : List String
  deriving DecidableEq, Repr

section Names

-- The characters of the rejected categories.
variable (isRejected : Char → Bool)

/-- `validate_storage_name`, for a string. -/
def validateStorageName (value fieldName : String) : Except PyError String :=
  let cleaned := pyStrip value
  if cleaned = "" then
    .error { name := "ValueError", message := fieldName ++ " cannot be empty" }
  else if cleaned = "." ∨ cleaned = ".." then
    .error { name := "ValueError", message := fieldName ++ " cannot be '.' or '..'" }
  else if cleaned.toList.any fun char => char == '/' || char == '\\' || char == '\x00' then
    .error
      { name := "ValueError"
        message := fieldName ++ " cannot contain path separators or null bytes: / \\" }
  else if cleaned.toList.any isRejected then
    .error
      { name := "ValueError"
        message := fieldName ++ " cannot contain control or invisible characters" }
  else if cleaned.utf8ByteSize > 128 then
    .error { name := "ValueError", message := fieldName ++ " length cannot exceed 128 bytes" }
  else .ok cleaned

def drainingError : PyError :=
  { name := "RuntimeError", message := "签到任务服务正在停机，暂不接受新任务" }

/-- `execute_sign_task` up to its context, or none if the task runs already. -/
def executeSignTask (surroundings : Surroundings) (run : Run) : Except PyError (Option Context) :=
  match validateStorageName isRejected run.taskName "task_name" with
  | .error error => .error error
  | .ok taskName =>
    if surroundings.running then .ok none
    else .ok (some { taskName, visitedChain := run.visitedChain.getD [] })

/-- `run_task_with_logs`. -/
def runTaskWithLogs (surroundings : Surroundings) (run : Run) : Except PyError (Option Context) :=
  if surroundings.draining then .error drainingError
  else executeSignTask isRejected surroundings run

/-- `start_task_run`: the run of its background runner, or none if the task is active. -/
def startTaskRun (surroundings : Surroundings) (taskName : String)
    (visitedChain : Option (List String)) : Except PyError (Option Run) :=
  if surroundings.drainingAtStart then .error drainingError
  else
    match validateStorageName isRejected taskName "task_name" with
    | .error error => .error error
    | .ok taskName =>
      if surroundings.active then .ok none
      else if surroundings.loaded then .ok (some { taskName, visitedChain })
      else
        .error
          { name := "ValueError"
            message := s!"Task {taskName} does not exist or cannot be loaded" }

def maxChainDepth : ℕ := 10

def visitedWith (visitedChain : List String) (currentTask : String) : List String :=
  if currentTask ≠ "" ∧ currentTask ∉ visitedChain then visitedChain ++ [currentTask]
  else visitedChain

/-- `_runner_trigger_chained_task`: the task that is to be started, with the chain it is
given. -/
def triggerChainedTask (surroundings : Surroundings) (context : Context) :
    Option (String × List String) :=
  let businessStatus := pyOr surroundings.aggregateStatus surroundings.businessStatus
  if businessStatus ∈ [some "partial", some "unknown", some "failed", some "needs_review"] then
    none
  else
    let ownLink := getEntry surroundings.taskCfg "next_task_on_success"
    let link :=
      if isTrue ownLink then ownLink
      else getEntry surroundings.rawTaskCfg "next_task_on_success"
    match link with
    | .str text =>
      let nextTaskName := pyStrip text
      let currentTask := pyStrip context.taskName
      if nextTaskName = "" ∨ nextTaskName = currentTask then none
      else
        let visitedChain := visitedWith context.visitedChain currentTask
        if nextTaskName ∈ visitedChain then none
        else if visitedChain.length ≥ maxChainDepth then none
        else
          match surroundings.targetCfg with
          | some targetCfg =>
            if targetCfg.isEmpty || !isTrue (getEntry targetCfg "enabled" (.bool true)) then
              none
            else some (nextTaskName, visitedChain)
          | none => none
    | _ => none

/-- What `_runner_finalize` starts. -/
def finalize (surroundings : Surroundings) (context : Context) : Option (String × List String) :=
  if !surroundings.cancelled && surroundings.success then
    triggerChainedTask surroundings context
  else none

def chainedRun (surroundings : Surroundings) (run : Run) : Option Run :=
  match runTaskWithLogs isRejected surroundings run with
  | .ok (some context) =>
    match finalize surroundings context with
    | some (nextTaskName, visitedChain) =>
      if surroundings.dropped then none
      else
        match startTaskRun isRejected surroundings nextTaskName (some visitedChain) with
        | .ok started => started
        | .error _ => none
    | none => none
  | _ => none

def chainOf : List Surroundings → Run → List Run
  | [], run => [run]
  | surroundings :: rest, run =>
    match chainedRun isRejected surroundings run with
    | some next => run :: chainOf rest next
    | none => [run]

end Names

/-! ## How long a chain gets -/

section Chains

variable {isRejected : Char → Bool}

theorem validateStorageName_ok {value fieldName cleaned : String}
    (hvalid : validateStorageName isRejected value fieldName = .ok cleaned) :
    cleaned = pyStrip value ∧ cleaned ≠ "" := by
  simp only [validateStorageName] at hvalid
  split at hvalid
  · cases hvalid
  next hnonempty =>
    split at hvalid
    · cases hvalid
    split at hvalid
    · cases hvalid
    split at hvalid
    · cases hvalid
    split at hvalid
    · cases hvalid
    · cases hvalid
      exact ⟨rfl, hnonempty⟩

variable {surroundings : Surroundings} {context : Context} {run : Run}

theorem triggerChainedTask_spec {nextTaskName : String} {visitedChain : List String}
    (htrigger : triggerChainedTask surroundings context = some (nextTaskName, visitedChain)) :
    visitedChain = visitedWith context.visitedChain (pyStrip context.taskName) ∧
      nextTaskName ∉ visitedChain ∧ visitedChain.length < maxChainDepth ∧
      pyStrip nextTaskName = nextTaskName := by
  simp only [triggerChainedTask] at htrigger
  split at htrigger
  · cases htrigger
  split at htrigger
  · next text _ =>
    split at htrigger
    · cases htrigger
    split at htrigger
    · cases htrigger
    next hnew =>
      split at htrigger
      · cases htrigger
      next hroom =>
        split at htrigger
        · split at htrigger
          · cases htrigger
          · obtain ⟨rfl, rfl⟩ := Prod.mk.inj (Option.some.inj htrigger)
            exact ⟨rfl, hnew, not_le.mp hroom, pyStrip_pyStrip text⟩
        · cases htrigger
  · cases htrigger

theorem context_spec (hcontext : runTaskWithLogs isRejected surroundings run = .ok (some context)) :
    context.taskName = pyStrip run.taskName ∧ pyStrip run.taskName ≠ "" ∧
      context.visitedChain = run.visitedChain.getD [] := by
  unfold runTaskWithLogs at hcontext
  split at hcontext
  · cases hcontext
  unfold executeSignTask at hcontext
  split at hcontext
  · cases hcontext
  · next taskName hvalid =>
    split at hcontext
    · cases hcontext
    · obtain rfl := Option.some.inj (Except.ok.inj hcontext)
      obtain ⟨rfl, hnonempty⟩ := validateStorageName_ok hvalid
      exact ⟨rfl, hnonempty, rfl⟩

theorem startTaskRun_spec {taskName : String} {visitedChain : Option (List String)}
    (hstart : startTaskRun isRejected surroundings taskName visitedChain = .ok (some run)) :
    run.taskName = pyStrip taskName ∧ run.visitedChain = visitedChain := by
  unfold startTaskRun at hstart
  split at hstart
  · cases hstart
  split at hstart
  · cases hstart
  · next cleaned hvalid =>
    split at hstart
    · cases hstart
    split at hstart
    · obtain rfl := Option.some.inj (Except.ok.inj hstart)
      exact ⟨(validateStorageName_ok hvalid).1, rfl⟩
    · cases hstart

theorem trigger_of_finalize {started : String × List String}
    (hfinalize : finalize surroundings context = some started) :
    triggerChainedTask surroundings context = some started := by
  unfold finalize at hfinalize
  split at hfinalize
  · exact hfinalize
  · cases hfinalize

theorem chainedRun_spec {next : Run} (hnext : chainedRun isRejected surroundings run = some next) :
    ∃ visitedChain, next.visitedChain = some visitedChain ∧
        visitedChain = visitedWith (run.visitedChain.getD []) (pyStrip run.taskName) ∧
        pyStrip run.taskName ≠ "" ∧ pyStrip next.taskName ∉ visitedChain ∧
        visitedChain.length < maxChainDepth := by
  unfold chainedRun at hnext
  split at hnext
  · next context hcontext =>
    split at hnext
    · next nextTaskName visitedChain hfinalize =>
      split at hnext
      · cases hnext
      split at hnext
      · next started hstart =>
        subst hnext
        obtain ⟨hname, hnonempty, hchain⟩ := context_spec hcontext
        obtain ⟨hstarted, hgiven⟩ := startTaskRun_spec hstart
        obtain ⟨hvisited, hnew, hroom, hclean⟩ :=
          triggerChainedTask_spec (trigger_of_finalize hfinalize)
        rw [hname, pyStrip_pyStrip, hchain] at hvisited
        refine ⟨visitedChain, hgiven, hvisited, hnonempty, ?_, hroom⟩
        rw [hstarted, pyStrip_pyStrip, hclean]
        exact hnew
      · cases hnext
    · cases hnext
  · cases hnext

/-- The names of the tasks of a chain. -/
def names (runs : List Run) : List String :=
  runs.map fun run => pyStrip run.taskName

theorem chainOf_spec (surroundings : List Surroundings) {run : Run} {visited : List String}
    (hvisited : run.visitedChain.getD [] = visited) (hnodup : visited.Nodup)
    (hnew : pyStrip run.taskName ∉ visited) (hroom : visited.length < maxChainDepth) :
    (visited ++ names (chainOf isRejected surroundings run)).Nodup ∧
      (visited ++ names (chainOf isRejected surroundings run)).length ≤ maxChainDepth := by
  have hgrown : (visited ++ [pyStrip run.taskName]).Nodup := by
    apply List.Nodup.append hnodup (List.nodup_singleton _)
    exact List.disjoint_singleton.mpr hnew
  have hlast : (visited ++ [pyStrip run.taskName]).Nodup ∧
      (visited ++ [pyStrip run.taskName]).length ≤ maxChainDepth := by
    refine ⟨hgrown, ?_⟩
    rw [List.length_append, List.length_singleton]
    exact hroom
  induction surroundings generalizing run visited with
  | nil => exact hlast
  | cons surrounding rest ih =>
    unfold chainOf
    split
    · next next hnext =>
      obtain ⟨chain, hgiven, hchain, hnonempty, hfresh, hlength⟩ := chainedRun_spec hnext
      rw [hvisited, visitedWith, if_pos ⟨hnonempty, hnew⟩] at hchain
      subst hchain
      have hfollow : visited ++ names (run :: chainOf isRejected rest next) =
          (visited ++ [pyStrip run.taskName]) ++ names (chainOf isRejected rest next) := by
        simp [names]
      rw [hfollow]
      have hnextGrown : ((visited ++ [pyStrip run.taskName]) ++ [pyStrip next.taskName]).Nodup := by
        apply List.Nodup.append hgrown (List.nodup_singleton _)
        exact List.disjoint_singleton.mpr hfresh
      apply ih (by rw [hgiven]; rfl) hgrown hfresh hlength hnextGrown
      refine ⟨hnextGrown, ?_⟩
      rw [List.length_append, List.length_singleton]
      exact hlength
    · exact hlast

/-- Whatever the surroundings of its runs, the chain of a run that was not itself chained
starts no task twice, nor its first task again, and has at most ten runs. -/
theorem chain_of_unchained (isRejected : Char → Bool) (taskName : String)
    (surroundings : List Surroundings) :
    (names (chainOf isRejected surroundings { taskName })).Nodup ∧
      (∀ later ∈ (names (chainOf isRejected surroundings { taskName })).tail,
        later ≠ pyStrip taskName) ∧
      (chainOf isRejected surroundings { taskName }).length ≤ 10 := by
  obtain ⟨hnodup, hlength⟩ := @chainOf_spec isRejected surroundings { taskName } [] rfl
    List.nodup_nil List.not_mem_nil (by decide)
  refine ⟨hnodup, ?_, ?_⟩
  · have hhead : ∃ later, names (chainOf isRejected surroundings { taskName }) =
        pyStrip taskName :: later := by
      cases surroundings with
      | nil => exact ⟨[], rfl⟩
      | cons surrounding rest =>
        unfold chainOf
        split
        · exact ⟨_, rfl⟩
        · exact ⟨[], rfl⟩
    obtain ⟨later, hlater⟩ := hhead
    rw [List.nil_append, hlater] at hnodup
    rw [hlater]
    intro other hother
    rintro rfl
    exact (List.nodup_cons.mp hnodup).1 hother
  · simpa [names, maxChainDepth] using hlength

end Chains

end SignPulse.ChainedRuns
