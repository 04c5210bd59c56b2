import SignPulse.Foundation.KeyedTable
import SignPulse.Backend.TaskConfigBuild

/-!
# The task store

The state behind `SignTaskService` that its edits read and write: the configuration files
below `signs`, the list of tasks that it keeps, and the record of deleted wildcard copies
in the table and in its process.  A file holds a JSON value, or nothing that can be read as one.
-/

namespace SignPulse.TaskConfigs

open Foundation
open FlowModels (PyError)
open ChainedRuns (Config getEntry isTrue)

/-- A deleted copy: the account and the task. -/
abbrev Tombstone := String × String

structure Service where
  files : KeyedTable TaskDir (Option PyValue) := .empty
  /-- `_tasks_cache`, which outlives the entry in `_tasks_list_ttl`. -/
  tasksCache : Option (List TaskInfo) := none
  /-- The table `wildcard_tombstones`. -/
  tombstones : List Tombstone := []
  /-- `_wildcard_removed_cache`. -/
  removedCache : List Tombstone := []

namespace TaskDir

/-- The directory below `signs` that it lies in, or is. -/
def top : TaskDir → String
  | .nested account _ => account
  | .legacy task => task

/-- `other` is this directory or lies below it. -/
def covers (dir other : TaskDir) : Bool :=
  match dir with
  | .nested _ _ => other == dir
  | .legacy task => other.top == task

end TaskDir

namespace Service

/-! ## Files -/

/-- `read_json_safe(dir / "config.json", default)`. -/
def readJson (service : Service) (dir : TaskDir) (default : PyValue := .none) : PyValue :=
  (service.files.select dir).join.getD default

/-- `(dir / "config.json").exists()`: an old task directory may have a task of that name
below it. -/
def configExists (service : Service) (dir : TaskDir) : Bool :=
  (service.files.select dir).isSome || match dir with
    | .nested _ _ => false
    | .legacy task => (service.files.select (.nested task "config.json")).isSome

/-- `write_json_atomic(dir / "config.json", config)`. -/
def writeConfig (service : Service) (dir : TaskDir) (config : Config) : Service :=
  { service with files := service.files.insert dir (some (.dict config)) }

/-- `shutil.rmtree(dir)`. -/
def rmtree (service : Service) (dir : TaskDir) : Service :=
  { service with files := service.files.restrict fun other => !dir.covers other }

/-- The directories with a configuration file, in the order of their listing. -/
def dirs (service : Service) : List TaskDir :=
  Dict.keyList service.files.rows

/-- `_resolve_task_dir`. -/
def resolveTaskDir (service : Service) (env : Environment) (situation : Situation)
    (taskName : String) (accountName : Option String := none) :
    Except PyError (Option TaskDir) := do
  let taskName ← env.storageName taskName "task_name"
  match accountName.filter (· ≠ "") with
  | some accountName =>
    let accountName ← env.storageName accountName "account_name"
    if service.configExists (.nested accountName taskName) then
      return some (.nested accountName taskName)
    else
      match service.readJson (.legacy taskName) with
      | .dict config =>
        let owner := Environment.inferAccountName situation config (.legacy taskName)
        return if owner = accountName then some (.legacy taskName) else none
      | _ => return none
  | none =>
    if service.configExists (.legacy taskName) then return some (.legacy taskName)
    else
      return service.dirs.find? fun dir => dir == .nested dir.top taskName

/-! ## Tasks -/

/-- The tasks below one directory of `signs`: its own, or those of an account. -/
def scanDirectory (service : Service) (env : Environment) (situation : Situation)
    (top : String) : List TaskInfo :=
  let load (dir : TaskDir) : Option TaskInfo :=
    env.loadTaskConfig situation dir (service.readJson dir)
  if service.configExists (.legacy top) then (load (.legacy top)).toList
  else (service.dirs.filter (·.top == top)).filterMap load

def scanTasks (service : Service) (env : Environment) (situation : Situation) : List TaskInfo :=
  Environment.sortedBy (fun task => (task.accountName, task.name))
    (((service.dirs.map TaskDir.top).eraseDups).flatMap (service.scanDirectory env situation))

/-- `_refresh_tasks_cache_after_write`. -/
def refreshTasksCache (service : Service) (env : Environment) (situation : Situation) : Service :=
  { service with tasksCache := some (service.scanTasks env situation) }

/-- `list_tasks` reads the files unless it has tasks on hand. -/
def loadTasksCache (service : Service) (env : Environment) (situation : Situation) : Service :=
  match service.tasksCache with
  | some (_ :: _) => service
  | _ => service.refreshTasksCache env situation

/-- `list_tasks(aggregate=False)`, once the list is on hand. -/
def listTasks (service : Service) : List TaskInfo :=
  service.tasksCache.getD []

/-- `_find_related_task_infos`, once the list of tasks is on hand. -/
def findRelatedTaskInfos (service : Service) (env : Environment) (taskName : String)
    (accountName : Option String := none) : Except PyError (List TaskInfo) :=
  env.filterRelatedTaskInfos service.listTasks taskName accountName

/-- `get_task`, not aggregated. -/
def getTask (service : Service) (env : Environment) (situation : Situation)
    (taskName : String) (accountName : Option String := none) :
    Except PyError (Option TaskInfo) := do
  match ← service.resolveTaskDir env situation taskName accountName with
  | some dir => return env.loadTaskConfig situation dir (service.readJson dir)
  | none => return none

/-- `get_task(aggregate=True)` without an account, once the list of tasks is on hand. -/
def getAggregatedTask (service : Service) (env : Environment) (taskName : String) :
    Except PyError (Option TaskInfo) := do
  match ← service.findRelatedTaskInfos env taskName with
  | [] => return none
  | related => return (← env.aggregateTasks related).head?

/-- `_iter_task_dirs`, for normalized names. -/
def iterTaskDirs (service : Service) (env : Environment) (situation : Situation)
    (taskName : String) : List String → Except PyError (List (String × TaskDir))
  | [] => .ok []
  | name :: rest => do
    let dir ← service.resolveTaskDir env situation taskName (some name)
    let others ← iterTaskDirs service env situation taskName rest
    return (dir.map (Prod.mk name)).toList ++ others

/-! ## Deleted copies -/

/-- `_wildcard_removed`: the table, or the record of the process if it is out of reach. -/
def wildcardRemoved (service : Service) (available : Bool) : Service × List Tombstone :=
  if available then
    ({ service with removedCache := service.tombstones }, service.tombstones)
  else (service, service.removedCache)

/-- `record_wildcard_removed`. -/
def recordWildcardRemoved (service : Service) (available : Bool)
    (account task : String) : Service :=
  if account = "" ∨ task = "" then service
  else
    { service with
      tombstones :=
        if available then (account, task) :: service.tombstones else service.tombstones
      removedCache := (account, task) :: service.removedCache }

/-- `clear_wildcard_removed`, for an account or, with the wildcard, for all. -/
def clearWildcardRemoved (service : Service) (available : Bool) (account task : String) : Service :=
  let cleared (tombstone : Tombstone) : Bool :=
    tombstone.2 == task && (account == "" || account == "*" || tombstone.1 == account)
  if task = "" then service
  else
    { service with
      tombstones :=
        if available then service.tombstones.filter (!cleared ·) else service.tombstones
      removedCache := service.removedCache.filter (!cleared ·) }

end Service

end SignPulse.TaskConfigs
