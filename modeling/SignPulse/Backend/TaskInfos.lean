import Mathlib.Data.List.Sort
import SignPulse.Backend.TaskConfigIo

/-!
# Task records

What the service makes of a configuration file: `_load_task_config` of `sign_tasks.py` with
the names it resolves, and the grouping of records by `sign_task_group.py`.
-/

namespace SignPulse.TaskConfigs

open Foundation
open FlowModels (PyError pyOrElse)
open ChainedRuns (Config getEntry isTrue validateStorageName)

/-- What the model leaves open: the digest of revisions, built-in conversions of texts and
of values that are no texts, the rejected characters of names, and the checks of
`_validate_chats_regex_safety` and `_validate_chats_workflow`. -/
structure Environment where
  digest : Config → String
  strOf : PyValue → String
  intOfText : String → Option ℤ
  floatOfText : String → Option ℚ
  intOfDigits : String → Option ℕ
  isRejected : Char → Bool
  validateChatsRegexSafety : PyValue → Except PyError Unit
  validateChatsWorkflow : (chats taskEngine : PyValue) → Except PyError Unit

/-- An environment in which every check passes. -/
def plainEnvironment : Environment where
  digest := fun _ => ""
  strOf := fun _ => ""
  intOfText := fun _ => none
  floatOfText := fun _ => none
  intOfDigits := fun _ => none
  isRejected := fun _ => false
  validateChatsRegexSafety := fun _ => .ok ()
  validateChatsWorkflow := fun _ _ => .ok ()

/-- What is found outside at the time of a call: the registered accounts, those that are
known of at all, the interval of the global settings, and the newest entry of a task's
history. -/
structure Situation where
  accounts : List String := []
  knownAccounts : List String := []
  signInterval : PyValue := .none
  lastRunInfo : (account task : String) → Option Config := fun _ _ => none

namespace Environment

variable (env : Environment)

/-! ## Conversions -/

/-- `str(value)`. -/
def toStr : PyValue → String
  | .str text => text
  | value => env.strOf value

/-- `str(value or "").strip()`. -/
def toText (value : PyValue) : String :=
  if isTrue value then pyStrip (env.toStr value) else ""

def typeError (message : String) : PyError :=
  { name := "TypeError", message, isTypeError := true }

/-- `int(value)`. -/
def toInt : PyValue → Except PyError ℤ
  | .int value => .ok value
  | .bool value => .ok (if value then 1 else 0)
  | .float value => .ok (value.num.tdiv value.den)
  | .str text =>
    match env.intOfText text with
    | some value => .ok value
    | none => .error (valueError ("invalid literal for int() with base 10: " ++ pyRepr text))
  | _ => .error (typeError "int() argument must be a string or a real number")

/-- `float(value)`. -/
def toFloat : PyValue → Except PyError ℚ
  | .int value => .ok value
  | .bool value => .ok (if value then 1 else 0)
  | .float value => .ok value
  | .str text =>
    match env.floatOfText text with
    | some value => .ok value
    | none => .error (valueError ("could not convert string to float: " ++ pyRepr text))
  | _ => .error (typeError "float() argument must be a string or a real number")

/-- `float(value if value is not None else 2.0)`. -/
def toDelay : PyValue → Except PyError ℚ
  | .none => .ok 2
  | value => env.toFloat value

/-- `value or default`. -/
def orDefault (value default : PyValue) : PyValue :=
  if isTrue value then value else default

/-- `list(value)`. -/
def toList : PyValue → Except PyError (List PyValue)
  | .list items => .ok items
  | .str text => .ok (text.toList.map fun char => .str (String.singleton char))
  | .dict entries => .ok (entries.map fun entry => .str entry.1)
  | _ => .error (typeError "object is not iterable")

/-- `list(value or [])`. -/
def toListOrEmpty (value : PyValue) : Except PyError (List PyValue) :=
  if isTrue value then toList value else .ok []

/-- `list(dict.fromkeys(texts))`. -/
def fromKeys (texts : List String) : List String :=
  texts.foldl (fun seen text => if text ∈ seen then seen else seen ++ [text]) []

/-! ## Account names -/

def storageName (value fieldName : String) : Except PyError String :=
  validateStorageName env.isRejected value fieldName

/-- `_append` of `_normalize_account_names`. -/
def appendAccountName (ordered : List String) (value : String) : Except PyError (List String) :=
  if pyStrip value = "*" then .ok (if "*" ∈ ordered then ordered else ordered ++ ["*"])
  else
    match env.storageName value "account_name" with
    | .error error => .error error
    | .ok cleaned => .ok (if cleaned ∈ ordered then ordered else ordered ++ [cleaned])

def appendAccountNames : List String → List String → Except PyError (List String)
  | ordered, [] => .ok ordered
  | ordered, value :: rest =>
    match env.appendAccountName ordered value with
    | .error error => .error error
    | .ok extended => appendAccountNames extended rest

/-- `_normalize_account_names`. -/
def normalizeAccountNames (accountNames : List String)
    (accountName : Option String := none) : Except PyError (List String) :=
  env.appendAccountNames [] (accountNames ++ accountName.toList)

/-- The items of `account_names` that are texts; others are passed over. -/
def namesOf (value : PyValue) : Except PyError (List String) :=
  (toListOrEmpty value).map fun items =>
    items.filterMap fun item =>
      match item with
      | .str text => some text
      | _ => none

/-! ## Records -/

end Environment

/-- The directory of a task: below that of its account, or right below `signs` as in the
old layout. -/
inductive TaskDir where
  | nested (account task : String)
  | legacy (task : String)
  deriving DecidableEq, Repr

namespace TaskDir

/-- `task_dir.name`. -/
def name : TaskDir → String
  | .nested _ task => task
  | .legacy task => task

end TaskDir

/-- What `_build_task_response` returns, with the revision and the engine. -/
structure TaskInfo where
  name : String
  accountName : String
  accountNames : List String
  signAt : PyValue
  randomSeconds : PyValue
  jitterSeconds : ℤ
  signInterval : PyValue
  chats : PyValue
  enabled : PyValue
  lastRun : PyValue
  executionMode : PyValue
  rangeStart : PyValue
  rangeEnd : PyValue
  notifyOnFailure : PyValue
  notifyOnSuccess : PyValue
  taskGroupId : String
  lastRunAccountName : String
  retryCount : ℤ
  tags : List String
  adaptiveScheduleEnabled : Bool
  adaptiveSchedulePatterns : List PyValue
  adaptiveSchedulePaddingSeconds : ℤ
  nextTaskOnSuccess : String
  nextTaskDelaySeconds : ℚ
  revision : String
  executionEngine : PyValue

namespace Environment

variable (env : Environment)

/-- The account that a configuration names. -/
def ownAccount (config : Config) : String :=
  match getEntry config "account_name" with
  | .str text => pyStrip text
  | _ => ""

/-- `_infer_account_name`. -/
def inferAccountName (situation : Situation) (config : Config) (dir : TaskDir) : String :=
  if ownAccount config ≠ "" then ownAccount config
  else
    match dir with
    | .nested account _ => account
    | .legacy _ =>
      if "my_account" ∈ situation.knownAccounts then "my_account"
      else
        match situation.knownAccounts with
        | [only] => only
        | _ => ""

/-- `_resolve_account_names_from_config`. -/
def resolveAccountNames (config : Config) (resolvedAccountName : String) :
    Except PyError (List String) :=
  match namesOf (getEntry config "account_names") with
  | .error error => .error error
  | .ok stored =>
    match env.normalizeAccountNames stored with
    | .error error => .error error
    | .ok [] => env.normalizeAccountNames [] (some resolvedAccountName)
    | .ok names => .ok names

/-- The last run on record, or else that of the history. -/
def lastRunOf (situation : Situation) (config : Config) (dir : TaskDir) (account : String) :
    PyValue :=
  let stored := getEntry config "last_run"
  if isTrue stored then stored
  else
    match situation.lastRunInfo account dir.name with
    | some entry => .dict entry
    | none => .none

/-- `(last_run or {}).get("account_name")`. -/
def lastRunAccount (lastRun : PyValue) : Except PyError PyValue :=
  if isTrue lastRun then
    match lastRun with
    | .dict entry => .ok (getEntry entry "account_name")
    | _ => .error { name := "AttributeError", message := "object has no attribute 'get'" }
  else .ok .none

def cleanTags (tags : List PyValue) : List String :=
  fromKeys ((tags.map fun tag => pyStrip (env.toStr tag)).filter (· ≠ ""))

/-- The body of `_load_task_config`, once a configuration is read. -/
def buildTaskInfo (situation : Situation) (config : Config) (dir : TaskDir) :
    Except PyError TaskInfo := do
  let resolvedAccountName := inferAccountName situation config dir
  let resolvedAccountNames ← env.resolveAccountNames config resolvedAccountName
  let lastRun := lastRunOf situation config dir resolvedAccountName
  let jitterSeconds ←
    env.toInt (orDefault (getEntry config "jitter_seconds" (.int 0)) (.int 0))
  let lastRunAccountName ← lastRunAccount lastRun
  let retryCount ← env.toInt (getEntry config "retry_count" (.int 3))
  let adaptiveSchedulePatterns ←
    toListOrEmpty (getEntry config "adaptive_schedule_patterns")
  let adaptiveSchedulePaddingSeconds ← env.toInt
    (orDefault (getEntry config "adaptive_schedule_padding_seconds" (.int 30)) (.int 30))
  let nextTaskDelaySeconds ←
    env.toDelay (getEntry config "next_task_delay_seconds" (.float 2))
  let accountNames ←
    env.normalizeAccountNames resolvedAccountNames (some resolvedAccountName)
  let tags ← toListOrEmpty (getEntry config "tags" (.list []))
  return {
    name := dir.name
    accountName := resolvedAccountName
    accountNames
    signAt := getEntry config "sign_at" (.str "")
    randomSeconds := getEntry config "random_seconds" (.int 0)
    jitterSeconds
    signInterval := getEntry config "sign_interval" (.int 1)
    chats := getEntry config "chats" (.list [])
    enabled := getEntry config "enabled" (.bool true)
    lastRun
    executionMode := getEntry config "execution_mode" (.str "fixed")
    rangeStart := getEntry config "range_start" (.str "")
    rangeEnd := getEntry config "range_end" (.str "")
    notifyOnFailure := getEntry config "notify_on_failure" (.bool true)
    notifyOnSuccess := getEntry config "notify_on_success" (.bool true)
    taskGroupId :=
      let value := getEntry config "task_group_id"
      if isTrue value then env.toStr value else ""
    lastRunAccountName :=
      if isTrue lastRunAccountName then env.toStr lastRunAccountName else resolvedAccountName
    retryCount
    tags := env.cleanTags tags
    adaptiveScheduleEnabled := isTrue (getEntry config "adaptive_schedule_enabled")
    adaptiveSchedulePatterns
    adaptiveSchedulePaddingSeconds
    nextTaskOnSuccess := env.toText (getEntry config "next_task_on_success")
    nextTaskDelaySeconds
    revision := configRevision env.digest config
    executionEngine := getEntry config "execution_engine" }

/-- `_load_task_config`: what cannot be read or normalized counts as absent. -/
def loadTaskConfig (situation : Situation) (dir : TaskDir) (content : PyValue) : Option TaskInfo :=
  match content with
  | .dict config => (env.buildTaskInfo situation config dir).toOption
  | _ => none

/-! ## Groups of records -/

/-- `first_real_account`. -/
def firstRealAccount (names : List String) (fallback : String) : String :=
  match names.find? fun name => name ≠ "" ∧ name ≠ "*" with
  | some name => name
  | none => if fallback ≠ "" ∧ fallback ≠ "*" then fallback else ""

/-- `str(last_run.get("time") or "")`. -/
def runTime (lastRun : Config) : String :=
  let value := getEntry lastRun "time"
  if isTrue value then env.toStr value else ""

/-- `select_latest_last_run`, and whether it is the candidate. -/
def selectLatestLastRun (current candidate : PyValue) : PyValue × Bool :=
  match candidate, current with
  | .dict candidateRun, .dict currentRun =>
    if env.runTime currentRun < env.runTime candidateRun then (candidate, true)
    else (current, false)
  | .dict _, _ => (candidate, true)
  | _, .dict _ => (current, false)
  | .none, _ => (.none, true)
  | _, _ => (.none, false)

/-- `task_group_key`. -/
def taskGroupKey (task : TaskInfo) : String :=
  let groupId := pyStrip task.taskGroupId
  if groupId ≠ "" then "group:" ++ groupId
  else "single:" ++ pyStrip task.accountName ++ ":" ++ pyStrip task.name

/-- The first record of a group. -/
def firstMerged (task : TaskInfo) : Except PyError TaskInfo :=
  (env.normalizeAccountNames task.accountNames (some task.accountName)).map fun names =>
    { task with
      accountNames := names
      accountName :=
        if task.accountName = "" ∨ task.accountName = "*" then
          firstRealAccount names task.accountName
        else task.accountName }

/-- Another record of a group is merged into it. -/
def mergeTask (existing task : TaskInfo) : Except PyError TaskInfo :=
  let primary := pyOrElse (some existing.accountName) task.accountName
  (env.normalizeAccountNames (existing.accountNames ++ task.accountNames)
      (if primary ≠ "" then some primary else none)).map fun names =>
    let latest := env.selectLatestLastRun existing.lastRun task.lastRun
    { existing with
      accountNames := names
      accountName := firstRealAccount names primary
      lastRun := latest.1
      lastRunAccountName :=
        if latest.2 then task.accountName else existing.lastRunAccountName
      tags := fromKeys ((existing.tags ++ task.tags).filterMap fun tag =>
        if pyStrip tag ≠ "" then some (pyStrip tag) else none)
      executionEngine :=
        if isTrue existing.executionEngine then existing.executionEngine
        else if isTrue task.executionEngine then task.executionEngine
        else existing.executionEngine }

/-- The groups of `aggregate_tasks`, in the order of their first records. -/
def groupTasks : Dict String TaskInfo → List TaskInfo → Except PyError (Dict String TaskInfo)
  | grouped, [] => .ok grouped
  | grouped, task :: rest =>
    let key := taskGroupKey task
    let merged :=
      match Dict.getItem grouped key with
      | none => env.firstMerged task
      | some existing => env.mergeTask existing task
    match merged with
    | .error error => .error error
    | .ok merged => groupTasks (Dict.setItem grouped key merged) rest

/-- `sorted` by two texts. -/
def sortedBy (key : TaskInfo → String × String) (tasks : List TaskInfo) : List TaskInfo :=
  tasks.insertionSort fun left right =>
    (key left).1 < (key right).1 ∨ (key left).1 = (key right).1 ∧ ¬(key right).2 < (key left).2

/-- `aggregate_tasks`. -/
def aggregateTasks (tasks : List TaskInfo) : Except PyError (List TaskInfo) :=
  (env.groupTasks [] tasks).map fun grouped =>
    sortedBy (fun task => (",".intercalate task.accountNames, task.name)) (Dict.valueList grouped)

/-- The names by which a record refers to accounts. -/
def accountsOf (task : TaskInfo) : Except PyError (List String) :=
  env.normalizeAccountNames task.accountNames (some task.accountName)

/-- `filter_related_task_infos` for an account. -/
def relatedForAccount (rawTasks : List TaskInfo) (taskName accountName : String) :
    Except PyError (List TaskInfo) := do
  let sameName := rawTasks.filter (·.name == taskName)
  match sameName.find? (·.accountName == accountName) with
  | none => return []
  | some current =>
    let groupId := pyStrip current.taskGroupId
    if groupId ≠ "" then
      return sameName.filter fun task => pyStrip task.taskGroupId == groupId
    else
      let currentAccounts ← env.accountsOf current
      let accounts ← sameName.mapM env.accountsOf
      if accounts.any (· |>.contains "*") then return sameName
      else if currentAccounts.length > 1 then
        return ((sameName.zip accounts).filter (·.2 == currentAccounts)).map Prod.fst
      else return [current]

/-- `filter_related_task_infos`. -/
def filterRelatedTaskInfos (rawTasks : List TaskInfo) (taskName : String)
    (accountName : Option String) : Except PyError (List TaskInfo) :=
  match accountName.filter (· ≠ "") with
  | some accountName => env.relatedForAccount rawTasks taskName accountName
  | none =>
    let exactMatches := rawTasks.filter (·.name == taskName)
    match exactMatches with
    | [] => .ok []
    | [only] => .ok [only]
    | first :: _ =>
      (env.aggregateTasks exactMatches).map fun grouped =>
        match grouped with
        | [group] =>
          exactMatches.filter fun task => taskGroupKey task == taskGroupKey group
        | _ => [first]

end Environment

end SignPulse.TaskConfigs
