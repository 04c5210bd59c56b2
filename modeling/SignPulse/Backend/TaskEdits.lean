import SignPulse.Backend.TaskStore

/-!
# Editing tasks

The operations of `sign_task_crud.py` on the task store, and the expansion of wildcard
tasks of `sign_tasks.py`.  What an operation answers comes with the state that it leaves,
also when it raises.  Writing a file succeeds; access to the table of deleted copies may
fail.
-/

namespace SignPulse.TaskConfigs

open Foundation
open FlowModels (PyError pyOr pyOrElse)
open ChainedRuns (Config getEntry isTrue)

abbrev Outcome (α : Type) := Except PyError α × Service

namespace Service

/-! ## Task chains -/

/-- The loop of `_validate_task_chain` for one account, with the turns that are left. -/
def walkTaskChain (service : Service) (env : Environment) (situation : Situation)
    (account : String) : ℕ → List String → String → Except PyError Unit
  | 0, _, _ => .ok ()
  | turns + 1, visited, curr =>
    if curr = "" then .ok ()
    else if curr ∈ visited then
      .error (valueError ("账号 " ++ account ++ " 下任务链存在循环引用: " ++
        " -> ".intercalate (visited ++ [curr])))
    else
      match service.getTask env situation curr (some account) with
      | .error error => .error error
      | .ok none => .ok ()
      | .ok (some task) =>
        walkTaskChain service env situation account turns (visited ++ [curr])
          (pyStrip task.nextTaskOnSuccess)

def walkTaskChains (service : Service) (env : Environment) (situation : Situation)
    (taskName nextTask : String) : List String → Except PyError Unit
  | [] => .ok ()
  | account :: rest =>
    if account = "" ∨ account = "*" then
      walkTaskChains service env situation taskName nextTask rest
    else
      match service.walkTaskChain env situation account 20 [taskName] nextTask with
      | .error error => .error error
      | .ok _ => walkTaskChains service env situation taskName nextTask rest

/-- `_validate_task_chain`. -/
def validateTaskChain (service : Service) (env : Environment) (situation : Situation)
    (accountNames : List String) (taskName : String) (nextTaskName : Option String) :
    Except PyError Unit :=
  let nextTask := pyStrip (nextTaskName.getD "")
  if nextTask = "" then .ok ()
  else if nextTask = taskName then
    .error (valueError ("任务链不能直接自调用: " ++ taskName ++ " -> " ++ nextTask))
  else service.walkTaskChains env situation taskName nextTask accountNames

/-! ## Answers -/

/-- `_expand_account_names`. -/
def expandAccountNames (situation : Situation) (accountNames : List String) : List String :=
  if "*" ∈ accountNames ∧ situation.accounts ≠ [] then situation.accounts else accountNames

/-- `pick_task_write_response` after a write. -/
def pickTaskWriteResponse (service : Service) (env : Environment) (situation : Situation)
    (taskName : String) (targetAccounts : List String) (notFound : String) :
    Except PyError TaskInfo := do
  let related ← service.findRelatedTaskInfos env taskName targetAccounts.head?
  let grouped ←
    if targetAccounts.length > 1 then env.aggregateTasks related else .ok []
  match grouped, targetAccounts with
  | first :: _, _ => return first
  | [], [] => .error (valueError notFound)
  | [], account :: _ =>
    match ← service.getTask env situation taskName (some account) with
    | some task => return task
    | none => .error (valueError notFound)

end Service

/-! ## Creating -/

/-- The arguments of `create_task` besides the name. -/
structure CreateArgs where
  signAt : String := ""
  chats : List PyValue := []
  randomSeconds : ℤ := 0
  jitterSeconds : ℤ := 0
  signInterval : PyValue := .none
  accountName : String := ""
  accountNames : Option (List String) := none
  executionMode : String := "fixed"
  rangeStart : String := ""
  rangeEnd : String := ""
  notifyOnFailure : Bool := true
  notifyOnSuccess : Bool := true
  retryCount : Option ℤ := none
  tags : Option (List String) := none
  adaptiveScheduleEnabled : Bool := false
  adaptiveSchedulePatterns : Option (List PyValue) := none
  adaptiveSchedulePaddingSeconds : ℤ := 30
  nextTaskOnSuccess : Option String := none
  nextTaskDelaySeconds : Option ℚ := none
  executionEngine : Option String := none

/-- What `create_task` has made sure of before it writes. -/
structure CreatePlan where
  taskName : String
  storedAccountNames : List String
  targetAccounts : List String
  signInterval : PyValue
  tags : List String

namespace Service

/-- `create_task`, up to its first write. -/
def planCreate (service : Service) (env : Environment) (situation : Situation)
    (taskName : String) (args : CreateArgs) : Except PyError CreatePlan := do
  let taskName ← env.storageName taskName "task_name"
  env.validateChatsRegexSafety (.list args.chats)
  env.validateChatsWorkflow (.list args.chats) (textValue args.executionEngine)
  let accounts ← env.normalizeAccountNames (args.accountNames.getD []) (some args.accountName)
  if accounts = [] then .error (valueError "必须指定至少一个账号名称")
  service.validateTaskChain env situation accounts taskName args.nextTaskOnSuccess
  let targetAccounts := expandAccountNames situation accounts
  if targetAccounts = [] then .error (valueError "没有可用的账号")
  let signInterval :=
    match args.signInterval, situation.signInterval with
    | .none, .none => .int 1
    | .none, default => default
    | given, _ => given
  let tags ← normalizeTaskTags (args.tags.getD [])
  return { taskName, storedAccountNames := accounts, targetAccounts, signInterval, tags }

/-- The copy of a new task for one account. -/
def createdConfig (env : Environment) (args : CreateArgs) (plan : CreatePlan)
    (groupId account : String) : Except PyError Config := do
  let signInterval ← env.toInt plan.signInterval
  buildSignTaskConfig account plan.storedAccountNames groupId
    { signAt := args.signAt
      chats := args.chats
      randomSeconds := args.randomSeconds
      jitterSeconds := args.jitterSeconds
      signInterval
      executionMode := args.executionMode
      rangeStart := args.rangeStart
      rangeEnd := args.rangeEnd
      notifyOnFailure := args.notifyOnFailure
      notifyOnSuccess := args.notifyOnSuccess
      retryCount := args.retryCount.getD 3
      enabled := true
      tags := plan.tags
      adaptiveScheduleEnabled := args.adaptiveScheduleEnabled
      adaptiveSchedulePatterns := args.adaptiveSchedulePatterns.getD []
      adaptiveSchedulePaddingSeconds := args.adaptiveSchedulePaddingSeconds
      nextTaskOnSuccess := args.nextTaskOnSuccess
      nextTaskDelaySeconds := args.nextTaskDelaySeconds
      executionEngine := args.executionEngine }

/-- The loop of `create_task` over the accounts. -/
def writeCreated (env : Environment) (database : String → Bool) (args : CreateArgs)
    (plan : CreatePlan) (groupId : String) : List String → Service → Outcome Unit
  | [], service => (.ok (), service)
  | account :: rest, service =>
    match createdConfig env args plan groupId account with
    | .error error => (.error error, service)
    | .ok config =>
      writeCreated env database args plan groupId rest
        ((service.writeConfig (.nested account plan.taskName) config).clearWildcardRemoved
          (database account) account plan.taskName)

/-- `create_task`, with the identifier that is drawn for a group. -/
def createTask (service : Service) (env : Environment) (situation : Situation)
    (database : String → Bool) (drawn taskName : String) (args : CreateArgs) :
    Outcome TaskInfo :=
  match service.planCreate env situation taskName args with
  | .error error => (.error error, service)
  | .ok plan =>
    let groupId := createTaskGroupId plan.targetAccounts.length drawn
    match writeCreated env database args plan groupId plan.targetAccounts service with
    | (.error error, written) => (.error error, written)
    | (.ok _, written) =>
      let refreshed := written.refreshTasksCache env situation
      (refreshed.pickTaskWriteResponse env situation plan.taskName plan.targetAccounts
          ("任务 " ++ plan.taskName ++ " 创建后无法读取"),
        refreshed)

/-- The arguments with which `clone_task` calls `create_task`. -/
def cloneArgs (env : Environment) (source : TaskInfo) (accountName : Option String) : CreateArgs :=
  let primary := pyOrElse (pyOr accountName (some source.accountName))
    (source.accountNames.headD "")
  let orElse (value : PyValue) (default : String) : String :=
    if isTrue value then env.toStr value else default
  { signAt := orElse source.signAt "08:00"
    chats :=
      match source.chats with
      | .list items => items.filter fun item => (item matches .dict _)
      | _ => []
    randomSeconds :=
      if isTrue source.randomSeconds then
        (env.toInt source.randomSeconds).toOption.getD 0
      else 0
    jitterSeconds := source.jitterSeconds
    signInterval := source.signInterval
    accountName := primary
    accountNames :=
      some (if source.accountNames = [] then [primary] else source.accountNames)
    executionMode := orElse source.executionMode "fixed"
    rangeStart := orElse source.rangeStart ""
    rangeEnd := orElse source.rangeEnd ""
    notifyOnFailure := isTrue source.notifyOnFailure
    notifyOnSuccess := isTrue source.notifyOnSuccess
    retryCount := some source.retryCount
    tags := some source.tags
    adaptiveScheduleEnabled := source.adaptiveScheduleEnabled
    adaptiveSchedulePatterns := some source.adaptiveSchedulePatterns
    adaptiveSchedulePaddingSeconds :=
      if source.adaptiveSchedulePaddingSeconds = 0 then 30
      else source.adaptiveSchedulePaddingSeconds
    nextTaskOnSuccess := some (pyStrip source.nextTaskOnSuccess)
    nextTaskDelaySeconds := some source.nextTaskDelaySeconds
    executionEngine :=
      match source.executionEngine with
      | .none => none
      | value => some (env.toStr value) }

/-- `clone_task`. -/
def cloneTask (service : Service) (env : Environment) (situation : Situation)
    (database : String → Bool) (drawn taskName newName : String)
    (accountName : Option String) : Outcome TaskInfo :=
  match env.storageName newName "new_name" with
  | .error error => (.error error, service)
  | .ok newName =>
    match service.getTask env situation taskName accountName with
    | .error error => (.error error, service)
    | .ok none => (.error (valueError "源任务不存在"), service)
    | .ok (some source) =>
      let listed := service.loadTasksCache env situation
      match listed.findRelatedTaskInfos env newName with
      | .error error => (.error error, listed)
      | .ok (_ :: _) => (.error (valueError "目标任务名已存在"), listed)
      | .ok [] =>
        let args := cloneArgs env source accountName
        if args.accountName = "" ∧ source.accountNames = [] then
          (.error (valueError "源任务缺少账号信息，无法克隆"), listed)
        else listed.createTask env situation database drawn newName args

end Service

/-! ## Updating -/

/-- A call of `update_task`. -/
structure UpdateCall where
  taskName : String
  accountName : Option String := none
  accountNames : Option (List String) := none
  args : FieldArgs := {}
  fieldMask : Option (List String) := none
  revision : Option String := none

/-- The fields of `_DEFAULT_TASK_FIELDS`, and whether a value is given for them. -/
def FieldArgs.given (args : FieldArgs) : Dict String Bool :=
  [("random_seconds", args.randomSeconds.isSome), ("jitter_seconds", args.jitterSeconds.isSome),
    ("sign_interval", args.signInterval.isSome),
    ("execution_mode", args.executionMode.isSome),
    ("range_start", args.rangeStart.isSome),
    ("range_end", args.rangeEnd.isSome),
    ("notify_on_failure", args.notifyOnFailure.isSome),
    ("notify_on_success", args.notifyOnSuccess.isSome),
    ("retry_count", args.retryCount.isSome),
    ("enabled", args.enabled.isSome),
    ("sign_at", args.signAt.isSome),
    ("chats", args.chats.isSome),
    ("tags", args.tags.isSome),
    ("adaptive_schedule_enabled", args.adaptiveScheduleEnabled.isSome),
    ("adaptive_schedule_patterns", args.adaptiveSchedulePatterns.isSome),
    ("adaptive_schedule_padding_seconds", args.adaptiveSchedulePaddingSeconds.isSome),
    ("next_task_on_success", true),
    ("next_task_delay_seconds", true),
    ("execution_engine", args.executionEngine.isSome)]

/-- The arguments that the mask names. -/
def FieldArgs.masked (args : FieldArgs) (mask : List String) : FieldArgs where
  signAt := if "sign_at" ∈ mask then args.signAt else none
  chats := if "chats" ∈ mask then args.chats else none
  randomSeconds := if "random_seconds" ∈ mask then args.randomSeconds else none
  jitterSeconds := if "jitter_seconds" ∈ mask then args.jitterSeconds else none
  signInterval := if "sign_interval" ∈ mask then args.signInterval else none
  executionMode := if "execution_mode" ∈ mask then args.executionMode else none
  rangeStart := if "range_start" ∈ mask then args.rangeStart else none
  rangeEnd := if "range_end" ∈ mask then args.rangeEnd else none
  notifyOnFailure := if "notify_on_failure" ∈ mask then args.notifyOnFailure else none
  notifyOnSuccess := if "notify_on_success" ∈ mask then args.notifyOnSuccess else none
  retryCount := if "retry_count" ∈ mask then args.retryCount else none
  enabled := if "enabled" ∈ mask then args.enabled else none
  tags := if "tags" ∈ mask then args.tags else none
  adaptiveScheduleEnabled :=
    if "adaptive_schedule_enabled" ∈ mask then args.adaptiveScheduleEnabled else none
  adaptiveSchedulePatterns :=
    if "adaptive_schedule_patterns" ∈ mask then args.adaptiveSchedulePatterns else none
  adaptiveSchedulePaddingSeconds :=
    if "adaptive_schedule_padding_seconds" ∈ mask then args.adaptiveSchedulePaddingSeconds
    else none
  nextTaskOnSuccess :=
    if "next_task_on_success" ∈ mask then args.nextTaskOnSuccess else none
  nextTaskDelaySeconds :=
    if "next_task_delay_seconds" ∈ mask then args.nextTaskDelaySeconds else none
  executionEngine := if "execution_engine" ∈ mask then args.executionEngine else none

/-- The checks of `update_task` on its mask, and the call that is left. -/
def UpdateCall.checked (call : UpdateCall) : Except PyError UpdateCall :=
  match call.fieldMask with
  | none => .ok call
  | some mask =>
    let given := ("account_names", call.accountNames.isSome) :: call.args.given
    if mask.any fun field => !Dict.hasKey given field then
      .error (valueError "TASK_UPDATE_INVALID_FIELD_MASK")
    else if call.revision.getD "" = "" then
      .error (valueError "TASK_UPDATE_REVISION_REQUIRED")
    else
      match mask.find? fun field => Dict.getItem given field ≠ some true with
      | some field => .error (valueError ("TASK_UPDATE_MASK_VALUE_REQUIRED: " ++ field))
      | none =>
        .ok
          { call with
            args := call.args.masked mask
            accountNames := if "account_names" ∈ mask then call.accountNames else none }

/-- The call with which `update_task` goes on. -/
def UpdateCall.prepare (env : Environment) (call : UpdateCall) : Except PyError UpdateCall :=
  match env.storageName call.taskName "task_name" with
  | .error error => .error error
  | .ok taskName =>
    let accountName := if call.accountName = some "*" then none else call.accountName
    { call with taskName, accountName }.checked

/-- What `_update_task_impl` has made sure of before it writes. -/
structure UpdatePlan where
  sourceConfig : PyValue
  related : List TaskInfo
  storedAccountNames : List String
  targetAccounts : List String
  existingDirs : Dict String TaskDir
  removedAccounts : List String
  groupId : String
  fields : FieldValues

/-- The values of the fields that the mask sets to nothing. -/
def UpdateCall.clearFields (call : UpdateCall) (fields : FieldValues) : FieldValues :=
  let mask := call.fieldMask.getD []
  { fields with
    nextTaskOnSuccess :=
      if "next_task_on_success" ∈ mask ∧ call.args.nextTaskOnSuccess = none then some ""
      else fields.nextTaskOnSuccess
    nextTaskDelaySeconds :=
      if "next_task_delay_seconds" ∈ mask ∧ call.args.nextTaskDelaySeconds = none then some 2
      else fields.nextTaskDelaySeconds }

namespace Service

def taskConfigChanged : PyError :=
  { name := "TaskConfigConflict", message := "TASK_CONFIG_CHANGED" }

/-- The comparison of revisions in `update_task`. -/
def compareRevision (service : Service) (env : Environment) (situation : Situation)
    (call : UpdateCall) : Except PyError Unit :=
  match call.revision with
  | none => .ok ()
  | some revision => do
    match ← service.resolveTaskDir env situation call.taskName call.accountName with
    | none => .error taskConfigChanged
    | some dir =>
      match service.readJson dir with
      | .dict current =>
        if configRevision env.digest current = revision then return ()
        else .error taskConfigChanged
      | _ => .error taskConfigChanged

/-- The checks of `_update_task_impl` on the chats that a call gives. -/
def checkChats (env : Environment) (call : UpdateCall) : Except PyError Unit :=
  match call.args.chats with
  | some chats => do
    env.validateChatsRegexSafety (.list chats)
    env.validateChatsWorkflow (.list chats) (textValue call.args.executionEngine)
  | none => .ok ()

/-- The task that `_update_task_impl` starts from. -/
def existingTask (service : Service) (env : Environment) (situation : Situation)
    (call : UpdateCall) : Except PyError (Option TaskInfo) :=
  match call.accountName with
  | some account => service.getTask env situation call.taskName (some account)
  | none => service.getAggregatedTask env call.taskName

/-- The accounts that a call gives, or else those of the task. -/
def givenAccounts (env : Environment) (call : UpdateCall) (ownAccounts : List String) :
    Except PyError (List String) :=
  match call.accountNames with
  | some names => env.normalizeAccountNames names
  | none => .ok ownAccounts

def atLeastOne (accounts : List String) (message : String) : Except PyError Unit :=
  if accounts = [] then .error (valueError message) else .ok ()

/-- `_update_task_impl`, from the task that it finds up to its first write. -/
def planExisting (service : Service) (env : Environment) (situation : Situation)
    (drawn : String) (call : UpdateCall) (existing : TaskInfo) (related : List TaskInfo) :
    Except PyError UpdatePlan := do
  let sourceDir ← service.resolveTaskDir env situation call.taskName call.accountName
  let ownAccounts ←
    env.normalizeAccountNames existing.accountNames (some existing.accountName)
  let accounts ← givenAccounts env call ownAccounts
  atLeastOne accounts "任务至少需要保留一个账号"
  let targetAccounts := expandAccountNames situation accounts
  atLeastOne targetAccounts "没有可用的账号"
  let existingAccounts := expandAccountNames situation ownAccounts
  service.validateTaskChain env situation targetAccounts call.taskName
    (some (call.args.nextTaskOnSuccess.getD existing.nextTaskOnSuccess))
  let values ← env.resolveUpdateFieldValues existing call.args
  let fields := call.clearFields values
  env.validateChatsWorkflow (.list fields.chats) (textValue fields.executionEngine)
  let names ← env.normalizeAccountNames existingAccounts
  let existingDirs ← service.iterTaskDirs env situation call.taskName names
  return {
    sourceConfig := sourceDir.elim (.dict []) fun dir => service.readJson dir (.dict [])
    related
    storedAccountNames := accounts
    targetAccounts
    existingDirs
    removedAccounts := removedAccountsDiff existingAccounts targetAccounts
    groupId := nextTaskGroupId existing.taskGroupId targetAccounts.length drawn
    fields }

/-- `_update_task_impl`, up to its first write. -/
def planUpdate (service : Service) (env : Environment) (situation : Situation)
    (drawn : String) (call : UpdateCall) : Except PyError UpdatePlan := do
  checkChats env call
  let found ← service.existingTask env situation call
  let related ← service.findRelatedTaskInfos env call.taskName call.accountName
  match found, related with
  | some existing, _ :: _ =>
    service.planExisting env situation drawn call existing related
  | _, _ => .error (valueError ("任务 " ++ call.taskName ++ " 不存在"))

/-- What is written over the previous configuration of a copy. -/
def mergedConfig (mask : Option (List String)) (plan : UpdatePlan) (config : Config)
    (previous : PyValue) : Except PyError Config :=
  match previous, mask with
  | .dict (entry :: rest), some mask =>
    let masked := Dict.update (entry :: rest)
      (mask.filterMap fun key => (Dict.getItem config key).map (Prod.mk key))
    .ok
      (if "account_names" ∈ mask then
        Dict.setItem masked "task_group_id" (.str plan.groupId)
      else masked)
  | .dict [], _ =>
    match plan.sourceConfig with
    | .dict source => .ok (Dict.update source config)
    | _ => .error (Environment.typeError "object is not a mapping")
  | .dict previous, none => .ok (Dict.update previous config)
  | _, _ => .ok config

/-- A turn of the loop of `_update_task_impl` over the target accounts. -/
def writeUpdatedCopy (service : Service) (database : String → Bool) (call : UpdateCall)
    (plan : UpdatePlan) (account : String) : Outcome Unit :=
  let desired := TaskDir.nested account call.taskName
  let merged := do
    let config ← buildSignTaskConfig account plan.storedAccountNames plan.groupId plan.fields
      (lastRunFromRelated plan.related account)
    mergedConfig call.fieldMask plan config (service.readJson desired (.dict []))
  match merged with
  | .error error => (.error error, service)
  | .ok config =>
    let written := (service.writeConfig desired config).clearWildcardRemoved
      (database account) account call.taskName
    match Dict.getItem plan.existingDirs account with
    | some previous =>
      (.ok (), if previous = desired then written else written.rmtree previous)
    | none => (.ok (), written)

/-- The loop of `_update_task_impl` over the target accounts. -/
def writeUpdated (database : String → Bool) (call : UpdateCall) (plan : UpdatePlan) :
    List String → Service → Outcome Unit
  | [], service => (.ok (), service)
  | account :: rest, service =>
    match service.writeUpdatedCopy database call plan account with
    | (.error error, written) => (.error error, written)
    | (.ok _, written) => writeUpdated database call plan rest written

/-- The directories of the accounts that the task no longer has are removed. -/
def removeCopies (service : Service) (plan : UpdatePlan) : Service :=
  (plan.removedAccounts.filterMap (Dict.getItem plan.existingDirs)).foldl rmtree service

/-- `_update_task_impl`, once the list of tasks is on hand. -/
def updateTaskImpl (service : Service) (env : Environment) (situation : Situation)
    (database : String → Bool) (drawn : String) (call : UpdateCall) : Outcome TaskInfo :=
  match service.planUpdate env situation drawn call with
  | .error error => (.error error, service)
  | .ok plan =>
    match writeUpdated database call plan plan.targetAccounts (service.removeCopies plan) with
    | (.error error, written) => (.error error, written)
    | (.ok _, written) =>
      let refreshed := written.refreshTasksCache env situation
      (refreshed.pickTaskWriteResponse env situation call.taskName plan.targetAccounts
          ("任务 " ++ call.taskName ++ " 更新后无法读取"),
        refreshed)

/-- `update_task`. -/
def updateTask (service : Service) (env : Environment) (situation : Situation)
    (database : String → Bool) (drawn : String) (call : UpdateCall) : Outcome TaskInfo :=
  match call.prepare env with
  | .error error => (.error error, service)
  | .ok call =>
    let listed := service.loadTasksCache env situation
    let compared := do
      let _ ← listed.findRelatedTaskInfos env call.taskName call.accountName
      let _ ← env.normalizeAccountNames (call.accountNames.getD [])
      listed.compareRevision env situation call
    match compared with
    | .error error => (.error error, listed)
    | .ok _ => listed.updateTaskImpl env situation database drawn call

/-! ## Changes of one configuration -/

/-- `invalidate_tasks_cache(account_name=account_name)`: the method takes no account. -/
def invalidateTasksCacheError : PyError :=
  Environment.typeError
    "SignTaskService.invalidate_tasks_cache() got an unexpected keyword argument 'account_name'"

/-- A change through `update_task_config`, and the call that follows it. -/
def changeTaskConfig (service : Service) (env : Environment) (situation : Situation)
    (accountName taskName : String) (transform : Config → Except PyError Config)
    (validate : Config → Except PyError Unit) (expectedRevision : Option String) :
    Outcome TaskInfo :=
  let resolved := do
    let _ ← env.storageName taskName "任务名"
    service.resolveTaskDir env situation taskName (some accountName)
  match resolved with
  | .error error => (.error error, service)
  | .ok none =>
    (.error (Environment.typeError "unsupported operand type(s) for /: 'NoneType' and 'str'"),
      service)
  | .ok (some dir) =>
    match updateTaskConfig env.digest (accountName ++ "/" ++ taskName)
        (if service.configExists dir then some (service.readJson dir) else none)
        transform validate expectedRevision with
    | .error error => (.error error, service)
    | .ok updated => (.error invalidateTasksCacheError, service.writeConfig dir updated)

/-- `toggle_task_enabled`. -/
def toggleTaskEnabled (service : Service) (env : Environment) (situation : Situation)
    (accountName taskName : String) : Outcome TaskInfo :=
  service.changeTaskConfig env situation accountName taskName
    (fun current => .ok (toggleEnabled current))
    (fun config => do
      env.validateChatsWorkflow (getEntry config "chats" (.list []))
        (getEntry config "execution_engine")
      env.validateChatsRegexSafety (getEntry config "chats"))
    none

/-- `apply_semantic_patch`. -/
def applySemanticPatch (service : Service) (env : Environment) (situation : Situation)
    (accountName taskName expectedRevision : String) (patch : Patch) : Outcome TaskInfo :=
  service.changeTaskConfig env situation accountName taskName
    (fun current => applyCheckedPatch env.intOfDigits current patch)
    (fun config =>
      let chats := getEntry config "chats"
      env.validateChatsWorkflow (if isTrue chats then chats else .list [])
        (getEntry config "execution_engine"))
    (some expectedRevision)

/-! ## Deleting -/

/-- The entries of `account_names`, if it is a list that has the wildcard. -/
def wildcardNames (config : Config) : Option (List PyValue) :=
  match getEntry config "account_names" with
  | .list stored => if stored.any (· == .str "*") then some stored else none
  | _ => none

/-- The entries that are no wildcard. -/
def realNames (env : Environment) (stored : List PyValue) : List String :=
  (stored.map fun name => pyStrip (env.toStr name)).filter (· ≠ "*")

/-- A turn of the loop of `_strip_wildcard_marker`. -/
def stripCopy (env : Environment) (taskName : String) (keepAccounts : List String)
    (service : Service) (account : String) : Service :=
  let dir := TaskDir.nested account taskName
  if account = "" ∨ account ∈ keepAccounts then service
  else
    match service.readJson dir with
    | .dict config =>
      match wildcardNames config with
      | none => service
      | some stored =>
        match realNames env stored with
        | [] => service.rmtree dir
        | remaining =>
          service.writeConfig dir (Dict.setItem config "account_names" (.list (remaining.map .str)))
    | _ => service

/-- `_strip_wildcard_marker`. -/
def stripWildcardMarker (service : Service) (env : Environment) (taskName : String)
    (keepAccounts : List String) : Service :=
  (service.dirs.map TaskDir.top).eraseDups.foldl (stripCopy env taskName keepAccounts) service

/-- A turn of the loop of `delete_task`. -/
def removeCopy (taskName : String) (database : String → Bool) (service : Service)
    (copy : String × TaskDir) : Service :=
  (service.rmtree copy.2).recordWildcardRemoved (database copy.1) copy.1 taskName

/-- The copies that `delete_task` removes. -/
def planDelete (service : Service) (env : Environment) (situation : Situation)
    (taskName : String) (accountName : Option String) :
    Except PyError (List (String × TaskDir)) := do
  let related ← service.findRelatedTaskInfos env taskName accountName
  let names ← env.normalizeAccountNames (related.map TaskInfo.accountName)
  service.iterTaskDirs env situation taskName names

/-- `delete_task`, with whether jobs are found to remain at the end. -/
def deleteTask (service : Service) (env : Environment) (situation : Situation)
    (database : String → Bool) (jobsRemain : Bool) (taskName : String)
    (accountName : Option String) : Outcome Bool :=
  match env.storageName taskName "task_name" with
  | .error error => (.error error, service)
  | .ok taskName =>
    let listed := service.loadTasksCache env situation
    match listed.planDelete env situation taskName accountName with
    | .error error => (.error error, listed)
    | .ok [] => (.ok false, listed)
    | .ok copies =>
      let targetAccounts := copies.map Prod.fst
      let removed := copies.foldl (removeCopy taskName database) listed
      let stripped := removed.stripWildcardMarker env taskName targetAccounts
      let verified := !jobsRemain && targetAccounts.all fun account =>
        account == "" || !stripped.configExists (.nested account taskName)
      if verified then (.ok true, stripped.refreshTasksCache env situation)
      else (.ok false, stripped)

end Service

/-! ## Wildcards -/

/-- A copy of a wildcard task for an account. -/
structure WildcardCopy where
  taskName : String
  base : Config
  account : String

namespace WildcardCopy

def dir (copy : WildcardCopy) : TaskDir :=
  .nested copy.account copy.taskName

def config (copy : WildcardCopy) : Config :=
  Dict.setItem copy.base "account_name" (.str copy.account)

end WildcardCopy

namespace Service

/-- The wildcard configurations that `_expand_wildcard_tasks` sees. -/
def wildcardTasks (service : Service) : List (String × Config) :=
  service.dirs.filterMap fun dir =>
    match dir, service.readJson dir with
    | .nested _ task, .dict config => (wildcardNames config).map fun _ => (task, config)
    | _, _ => none

/-- The copies that `_expand_wildcard_tasks` goes through. -/
def wildcardCopies (service : Service) (situation : Situation) : List WildcardCopy :=
  service.wildcardTasks.flatMap fun (taskName, base) =>
    situation.accounts.map fun account => { taskName, base, account }

/-- A turn of the loop of `_expand_wildcard_tasks`. -/
def writeWildcardCopy (removed : List Tombstone) (service : Service) (copy : WildcardCopy) :
    Service :=
  if (copy.account, copy.taskName) ∈ removed then service
  else if service.configExists copy.dir then service
  else service.writeConfig copy.dir copy.config

/-- `_expand_wildcard_tasks`. -/
def expandWildcardTasks (service : Service) (env : Environment) (situation : Situation)
    (available : Bool) : Service :=
  if situation.accounts = [] then service
  else
    let (read, removed) := service.wildcardRemoved available
    ((service.wildcardCopies situation).foldl (writeWildcardCopy removed)
      read).refreshTasksCache env situation

/-- A new process starts with nothing on hand. -/
def restart (service : Service) : Service :=
  { service with tasksCache := none, removedCache := [] }

end Service

end SignPulse.TaskConfigs
