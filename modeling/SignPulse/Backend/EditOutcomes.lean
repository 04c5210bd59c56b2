import SignPulse.Backend.UpdatedCopies

/-!
# Outcomes of edits

An edit of tasks should return with its new content in the files and in what `get_task` and
`list_tasks` give next, or raise with the files as they were.  `update_task` does so where
every directory of an account is read as one.  `toggle_task_enabled` and
`apply_semantic_patch` write first and then always raise.
-/

namespace SignPulse.TaskConfigs

open Foundation
open FlowModels (PyError)
open ChainedRuns (Config getEntry isTrue)

def FilesKept (before after : Service) : Prop :=
  ∀ dir, after.files.select dir = before.files.select dir

/-- An operation returns and what it was asked for is seen, or it raises and the files are as
they were. -/
def KeptOrSeen {α : Type} (before : Service) (Seen : Service → Prop) : Outcome α → Prop
  | (.ok _, after) => Seen after
  | (.error _, after) => FilesKept before after

/-- A configuration is in its file, and `get_task` and `list_tasks` give its record. -/
structure SeenCopy (env : Environment) (situation : Situation) (after : Service)
    (account : String) (dir : TaskDir) (config : Config) : Prop where
  stored : after.files.select dir = some (some (.dict config))
  shown : ∃ record, env.loadTaskConfig situation dir (.dict config) = some record ∧
    after.getTask env situation dir.name (some account) = .ok (some record) ∧
    record ∈ (after.loadTasksCache env situation).listTasks

theorem filesKept_loadTasksCache {env : Environment} {situation : Situation}
    {service : Service} : FilesKept service (service.loadTasksCache env situation) := by
  intro dir
  rw [Service.files_loadTasksCache]

/-! ## Updates -/

section Updates

variable {env : Environment} {situation : Situation} {service : Service}
variable {database : String → Bool} {drawn : String} {call checked : UpdateCall}
variable {plan : UpdatePlan}

/-- The copies of a call of `update_task` are seen, each with what the call sets. -/
def UpdateSeen (env : Environment) (situation : Situation) (before : Service)
    (drawn : String) (call : UpdateCall) (after : Service) : Prop :=
  ∃ checked plan, call.prepare env = .ok checked ∧
    (before.loadTasksCache env situation).admitUpdate env situation drawn checked = .ok plan ∧
    ∀ account ∈ plan.targetAccounts, ∃ config,
      SeenCopy env situation after account (.nested account checked.taskName) config ∧
      Carries checked plan account config

/-- The directories of the accounts of a plan are read as those of accounts: there is no
`config.json` in them, which a task of that name would be. -/
def Open (service : Service) (call : UpdateCall) (plan : UpdatePlan) : Prop :=
  call.taskName ≠ "config.json" ∧
    ∀ account ∈ plan.targetAccounts, service.configExists (.legacy account) = false

theorem configExists_legacy {account : String} : service.configExists (.legacy account) = false ↔
      service.files.select (.legacy account) = none ∧
        service.files.select (.nested account "config.json") = none := by
  unfold Service.configExists
  simp [Option.isSome_eq_false_iff]

theorem Open.apart (hopen : Open service call plan) : Apart service call plan := by
  intro htarget
  exact (configExists_legacy.mp (hopen.2 _ htarget)).1

theorem listTasks_refreshed :
    ((service.refreshTasksCache env situation).loadTasksCache env situation).listTasks =
      service.scanTasks env situation := by
  unfold Service.loadTasksCache
  split
  · rfl
  · rfl

/-- The answer of a write is found for accounts whose first one has a readable copy. -/
theorem exists_response {state : Service} {taskName message account : String}
    {accounts : List String} {info : TaskInfo}
    (hlisted : ∀ task ∈ state.listTasks, Listable env task)
    (haccount : IsAccount env account) (hhead : accounts.head? = some account)
    (hget : state.getTask env situation taskName (some account) = .ok (some info)) :
    ∃ task, state.pickTaskWriteResponse env situation taskName accounts message = .ok task := by
  obtain ⟨related, hrelated⟩ :=
    @exists_relatedForAccount env state.listTasks taskName account hlisted
  have hfound : state.findRelatedTaskInfos env taskName (some account) = .ok related := by
    unfold Service.findRelatedTaskInfos Environment.filterRelatedTaskInfos
    rw [Option.filter_some, if_pos (by simpa using haccount.strip.2)]
    exact hrelated
  obtain ⟨grouped, hgrouped⟩ := @exists_aggregateTasks env related fun task htask =>
    hlisted task (subset_of_relatedForAccount hrelated htask)
  obtain ⟨rest, rfl⟩ : ∃ rest, accounts = account :: rest := by
    cases accounts with
    | nil => cases hhead
    | cons first rest => exact ⟨rest, by rw [Option.some.inj hhead]⟩
  rw [Service.pickTaskWriteResponse, List.head?_cons, hfound]
  dsimp only [bind, Except.bind]
  split
  · rw [hgrouped]
    dsimp only
    cases grouped with
    | nil =>
      dsimp only
      rw [hget]
      exact ⟨info, rfl⟩
    | cons first others => exact ⟨first, rfl⟩
  · rw [hget]
    exact ⟨info, rfl⟩

/-- The state after a carried-out plan: its copies, and the other directories. -/
structure CarriedOut (env : Environment) (situation : Situation) (before : Service)
    (call : UpdateCall) (plan : UpdatePlan) (after : Service) : Prop where
  holds : ∀ account ∈ plan.targetAccounts, Holds env after call plan account
  other : ∀ dir, (∀ account, dir ≠ .nested account call.taskName) →
    after.files.select dir = before.files.select dir ∨
      after.files.select dir = none ∧ (before.files.select (.legacy call.taskName)).isSome
  listed : (after.loadTasksCache env situation).listTasks = after.scanTasks env situation

theorem exists_carriedOut (hwildcard : env.storageName "*" "account_name" = .ok "*")
    (hplanned : Planned env service call plan) (hwritable : Writable env service call plan)
    (hapart : Apart service call plan) :
    ∃ task after, service.carryOut env situation database call plan = (.ok task, after) ∧
      CarriedOut env situation service call plan after := by
  obtain ⟨written, hrun, hholds⟩ :=
    @exists_written env service call plan database hplanned hwritable hapart
  have hother : ∀ dir, (∀ account, dir ≠ .nested account call.taskName) →
      written.files.select dir = service.files.select dir ∨ written.files.select dir = none ∧
          (service.files.select (.legacy call.taskName)).isSome := by
    intro dir hdir
    have hselect := @select_of_written env service call plan database dir hplanned hdir
    rwa [hrun] at hselect
  obtain ⟨account, rest, htargets⟩ := List.exists_cons_of_ne_nil hplanned.nonempty
  have hmem : account ∈ plan.targetAccounts := htargets ▸ List.mem_cons_self
  have haccount := hplanned.target account hmem
  obtain ⟨config, hconfig, hreadable, -⟩ := hholds account hmem
  obtain ⟨info, hinfo, -⟩ := hreadable.loaded haccount situation call.taskName
  obtain ⟨task, hresponse⟩ := @exists_response env situation
    (written.refreshTasksCache env situation) call.taskName
    ("任务 " ++ call.taskName ++ " 更新后无法读取") account plan.targetAccounts info
    (fun task htask => listable_of_scanned htask) haccount (by rw [htargets]; rfl)
    (getTask_of_loaded hplanned.task hconfig hinfo (haccount.elim (· ▸ hwildcard) id))
  refine ⟨task, written.refreshTasksCache env situation, ?_, hholds, hother, listTasks_refreshed⟩
  rw [Service.carryOut, hrun]
  dsimp only
  rw [hresponse]

theorem CarriedOut.seen {after : Service} {account : String}
    (hwildcard : env.storageName "*" "account_name" = .ok "*")
    (hplanned : Planned env service call plan)
    (hafter : CarriedOut env situation service call plan after)
    (hopen : Open service call plan) (haccount : account ∈ plan.targetAccounts) :
    ∃ config, SeenCopy env situation after account (.nested account call.taskName) config ∧
      Carries call plan account config := by
  have hvalid := hplanned.target account haccount
  obtain ⟨config, hconfig, hreadable, hcarries⟩ := hafter.holds account haccount
  obtain ⟨info, hinfo, -⟩ := hreadable.loaded hvalid situation call.taskName
  refine ⟨config, ⟨hconfig, info, hinfo, ?_, ?_⟩, hcarries⟩
  · exact getTask_of_loaded hplanned.task hconfig hinfo (hvalid.elim (· ▸ hwildcard) id)
  · rw [hafter.listed]
    apply mem_scanTasks.mpr
    refine ⟨.nested account call.taskName, ?_, ?_⟩
    · rw [Service.readJson, hconfig]
      exact hinfo
    · obtain ⟨hlegacy, hnested⟩ := configExists_legacy.mp (hopen.2 account haccount)
      have hkept : ∀ dir, (∀ account, dir ≠ .nested account call.taskName) →
          service.files.select dir = none → after.files.select dir = none := by
        intro dir hdir hnone
        rcases hafter.other dir hdir with hsame | ⟨hgone, -⟩
        · exact hsame.trans hnone
        · exact hgone
      have hclosed : after.configExists (.legacy account) = false := by
        apply configExists_legacy.mpr
        constructor
        · exact hkept _ (fun _ hsame => by cases hsame) hlegacy
        · refine hkept _ (fun _ hsame => ?_) hnested
          exact hopen.1 (TaskDir.nested.inj hsame).2.symm
      exact Bool.eq_false_iff.mp hclosed

/-- Where what it writes over can be read and the directories of its accounts are open,
`update_task` returns and its copies are seen, or it raises and the files are as they were. -/
theorem updateTask_keptOrSeen (hregistered : Registered env situation)
    (hwildcard : env.storageName "*" "account_name" = .ok "*")
    (hready : ∀ checked plan, call.prepare env = .ok checked →
      (service.loadTasksCache env situation).admitUpdate env situation drawn checked = .ok plan →
      Writable env (service.loadTasksCache env situation) checked plan ∧
        Open (service.loadTasksCache env situation) checked plan) :
    KeptOrSeen service (UpdateSeen env situation service drawn call)
      (service.updateTask env situation database drawn call) := by
  rw [Service.updateTask_eq]
  split
  · exact fun dir => rfl
  · next checked hchecked =>
    split
    · exact filesKept_loadTasksCache
    · next plan hplan =>
      obtain ⟨hwritable, hopen⟩ := hready checked plan hchecked hplan
      have hplanned := planned_of_planUpdate hregistered
        (taskName_of_prepare hchecked).1 (maskAllowed_of_prepare hchecked)
        (Service.planUpdate_of_admitted hplan)
      obtain ⟨task, after, hresult, hafter⟩ := @exists_carriedOut env situation _ database
        checked plan hwildcard hplanned hwritable hopen.apart
      rw [hresult]
      exact ⟨checked, plan, hchecked, hplan,
        fun account haccount => hafter.seen hwildcard hplanned hopen haccount⟩

theorem CarriedOut.open_of_seen {after : Service} {account : String} {config : Config}
    (hafter : CarriedOut env situation service call plan after) (hstored : Stored env after)
    (hlegacy : service.files.select (.legacy call.taskName) = none)
    (hseen : SeenCopy env situation after account (.nested account call.taskName) config) :
    call.taskName ≠ "config.json" ∧ service.configExists (.legacy account) = false := by
  have hkept : ∀ dir, (∀ account, dir ≠ .nested account call.taskName) →
      after.files.select dir = service.files.select dir := by
    intro dir hdir
    rcases hafter.other dir hdir with hsame | ⟨-, hsome⟩
    · exact hsame
    · rw [hlegacy] at hsome
      cases hsome
  obtain ⟨record, hrecord, -, hlisted⟩ := hseen.shown
  have hown : record.accountName = account ∧ record.name = call.taskName := by
    have hread : after.readJson (.nested account call.taskName) = .dict config := by
      rw [Service.readJson, hseen.stored]
      rfl
    obtain ⟨-, hvalid, -, hreadable⟩ := hstored.of_readJson hread
    obtain ⟨info, hinfo, hname, howner, -⟩ := hreadable.loaded hvalid situation call.taskName
    obtain rfl := Option.some.inj (hrecord.symm.trans hinfo)
    exact ⟨howner, hname⟩
  rw [hafter.listed] at hlisted
  obtain ⟨dir, hload, hshadow⟩ := mem_scanTasks.mp hlisted
  obtain ⟨found, hfound, hbuilt⟩ := select_of_loaded hload
  obtain ⟨hname, howner, -⟩ := of_buildTaskInfo hbuilt
  cases dir with
  | legacy task =>
    have htask : task = call.taskName := hname.symm.trans hown.2
    rw [htask, hkept _ (fun _ hsame => by cases hsame), hlegacy] at hfound
    cases hfound
  | nested other task =>
    have htask : task = call.taskName := hname.symm.trans hown.2
    have hsame : other = account := by
      cases hstored.file _ _ hfound with
      | nested hvalid _ hreadable =>
        rw [← hown.1, howner, hreadable.inferred hvalid]
    subst htask hsame
    obtain ⟨hnone, hconfig⟩ :=
      configExists_legacy.mp (Bool.eq_false_iff.mpr hshadow)
    have hother : call.taskName ≠ "config.json" := by
      intro hcalled
      rw [← hcalled, hseen.stored] at hconfig
      cases hconfig
    refine ⟨hother, configExists_legacy.mpr ⟨?_, ?_⟩⟩
    · rw [← hkept _ (fun _ hsame => by cases hsame)]
      exact hnone
    · rw [← hkept _ (fun _ hsame => hother (TaskDir.nested.inj hsame).2.symm)]
      exact hconfig

/-- In a store whose files can be read, `update_task` does so exactly where the directories
of its accounts are open, unless there is a task of its name in the old layout. -/
theorem updateTask_keptOrSeen_iff (hregistered : Registered env situation)
    (hwildcard : env.storageName "*" "account_name" = .ok "*") (hstored : Stored env service)
    (hlegacy : service.files.select (.legacy (pyStrip call.taskName)) = none) :
    KeptOrSeen service (UpdateSeen env situation service drawn call)
        (service.updateTask env situation database drawn call) ↔
      ∀ checked plan, call.prepare env = .ok checked →
        (service.loadTasksCache env situation).admitUpdate env situation drawn checked = .ok plan →
        Open (service.loadTasksCache env situation) checked plan := by
  have hlisted := Stored.bookKeeping.load env situation hstored
  constructor
  · intro hkept checked plan hchecked hplan
    obtain ⟨htask, hname⟩ := taskName_of_prepare hchecked
    have hplanned := planned_of_planUpdate hregistered htask (maskAllowed_of_prepare hchecked)
      (Service.planUpdate_of_admitted hplan)
    have hnone : (service.loadTasksCache env situation).files.select
        (.legacy checked.taskName) = none := by
      rw [Service.files_loadTasksCache, hname]
      exact hlegacy
    obtain ⟨task, after, hresult, hafter⟩ := @exists_carriedOut env situation _ database
      checked plan hwildcard hplanned
      (hlisted.writable (Service.planUpdate_of_admitted hplan)) fun _ => hnone
    have hrun : service.updateTask env situation database drawn call = (.ok task, after) := by
      rw [Service.updateTask_eq, hchecked]
      dsimp only
      rw [hplan]
      exact hresult
    have hreadable : Stored env after := by
      have hupdated := @Stored.updateTask env situation service database drawn call hstored
        hregistered
      rwa [hrun] at hupdated
    rw [hrun] at hkept
    obtain ⟨other, planned, hother, hsame, hseen⟩ := hkept
    obtain rfl := Except.ok.inj (hchecked.symm.trans hother)
    obtain rfl := Except.ok.inj (hplan.symm.trans hsame)
    have hopen : ∀ account ∈ plan.targetAccounts, checked.taskName ≠ "config.json" ∧
        (service.loadTasksCache env situation).configExists (.legacy account) = false := by
      intro account haccount
      obtain ⟨config, hcopy, -⟩ := hseen account haccount
      exact hafter.open_of_seen hreadable hnone hcopy
    obtain ⟨account, hmem⟩ := List.exists_mem_of_ne_nil _ hplanned.nonempty
    exact ⟨(hopen account hmem).1, fun account haccount => (hopen account haccount).2⟩
  · intro hopen
    apply updateTask_keptOrSeen hregistered hwildcard
    intro checked plan hchecked hplan
    exact ⟨hlisted.writable (Service.planUpdate_of_admitted hplan),
      hopen checked plan hchecked hplan⟩

end Updates

/-! ## Changes of one configuration -/

section Changes

variable {env : Environment} {situation : Situation} {service : Service}
variable {accountName taskName : String}

variable {current updated : Config} {transform : Config → Except PyError Config}
variable {validate : Config → Except PyError Unit} {expectedRevision : Option String}
variable {dir : TaskDir}

theorem updateTaskConfig_eq_ok {digest : Config → String} {path : String}
    (hlastRun : ∀ transformed, transform current = .ok transformed →
      Dict.getItem transformed "last_run" = Dict.getItem current "last_run") :
    updateTaskConfig digest path (some (.dict current)) transform validate expectedRevision =
        .ok updated ↔
      (∀ revision ∈ expectedRevision, revision = configRevision digest current) ∧
        transform current = .ok updated ∧ validate updated = .ok () := by
  have hexpected : expectedRevision.getD (configRevision digest current) =
        configRevision digest current ↔
      ∀ revision ∈ expectedRevision, revision = configRevision digest current := by
    cases expectedRevision with
    | none => simp
    | some revision => simp
  rw [← hexpected]
  simp only [updateTaskConfig]
  split
  · next hother => simp [hother]
  · next hsame =>
    have hrevision := not_not.mp hsame
    cases htransformed : transform current with
    | error error => simp
    | ok transformed =>
      have hchecked : (validate transformed >>= fun _ => .ok transformed) = .ok updated ↔
          expectedRevision.getD (configRevision digest current) = configRevision digest current ∧
            (.ok transformed : Except PyError Config) = .ok updated ∧
            validate updated = .ok () := by
        rw [bind_eq_ok]
        constructor
        · rintro ⟨_, hvalid, hupdated⟩
          cases hupdated
          exact ⟨hrevision, rfl, hvalid⟩
        · rintro ⟨-, hupdated, hvalid⟩
          cases hupdated
          exact ⟨(), hvalid, rfl⟩
      refine Iff.trans ?_ hchecked
      dsimp only
      rw [hlastRun transformed htransformed]
      cases Dict.getItem current "last_run" with
      | none =>
        cases validate transformed with
        | error error => exact Iff.rfl
        | ok _ => exact Iff.rfl
      | some lastRun =>
        cases validate transformed with
        | error error => exact Iff.rfl
        | ok _ => exact Iff.rfl

/-- The file that a change of one configuration finds, and what it holds. -/
structure Found (env : Environment) (situation : Situation) (service : Service)
    (accountName taskName : String) (dir : TaskDir) (current : Config) : Prop where
  name : ∃ name, env.storageName taskName "任务名" = .ok name
  resolved : service.resolveTaskDir env situation taskName (some accountName) = .ok (some dir)
  content : service.files.select dir = some (some (.dict current))

theorem filesKept_writeConfig (hcontent : service.files.select dir = some (some (.dict current))) :
    FilesKept service (service.writeConfig dir updated) ↔ updated = current := by
  constructor
  · intro hkept
    have hsame := hkept dir
    rw [Service.select_writeConfig, if_pos rfl, hcontent] at hsame
    exact PyValue.dict.inj (Option.some.inj (Option.some.inj hsame))
  · rintro rfl other
    rw [Service.select_writeConfig]
    split
    · next hsame => rw [hsame, hcontent]
    · rfl

theorem content_of_select (hcontent : service.files.select dir = some (some (.dict current))) :
    (if service.configExists dir then some (service.readJson dir) else none) =
      some (.dict current) := by
  unfold Service.configExists Service.readJson
  rw [hcontent]
  rfl

theorem select_of_updated {digest : Config → String} {path : String}
    (hupdated : updateTaskConfig digest path
      (if service.configExists dir then some (service.readJson dir) else none) transform
      validate expectedRevision = .ok updated) :
    ∃ current, service.files.select dir = some (some (.dict current)) := by
  unfold updateTaskConfig at hupdated
  split at hupdated
  · cases hupdated
  · next current hcontent =>
    refine ⟨current, ?_⟩
    split at hcontent
    · have hread := Option.some.inj hcontent
      unfold Service.readJson at hread
      rcases hselect : service.files.select dir with _ | _ | value
      · rw [hselect] at hread
        cases hread
      · rw [hselect] at hread
        cases hread
      · rw [hselect] at hread
        exact congrArg (fun value => some (some value)) hread
    · cases hcontent
  · cases hupdated

/-- A change of one configuration raises in any case: the files are only as they were if it
is refused, or changes nothing. -/
theorem changeTaskConfig_keptOrSeen_iff {Seen : Service → Prop}
    (hlastRun : ∀ current transformed, transform current = .ok transformed →
      Dict.getItem transformed "last_run" = Dict.getItem current "last_run") :
    KeptOrSeen service Seen (service.changeTaskConfig env situation accountName taskName
        transform validate expectedRevision) ↔
      ∀ dir current updated, Found env situation service accountName taskName dir current →
        (∀ revision ∈ expectedRevision, revision = configRevision env.digest current) →
        transform current = .ok updated → validate updated = .ok () → updated = current := by
  have hrefused : ∀ error : PyError,
      KeptOrSeen service Seen ((.error error, service) : Outcome TaskInfo) :=
    fun _ _ => rfl
  unfold Service.changeTaskConfig
  cases hname : env.storageName taskName "任务名" with
  | error error =>
    simp only [bind, Except.bind]
    constructor
    · rintro - dir current updated hfound
      obtain ⟨name, hvalid⟩ := hfound.name
      rw [hname] at hvalid
      cases hvalid
    · exact fun _ => hrefused error
  | ok name =>
    simp only [bind, Except.bind]
    cases hdir : service.resolveTaskDir env situation taskName (some accountName) with
    | error error =>
      constructor
      · rintro - dir current updated hfound
        have hresolved := hfound.resolved
        rw [hdir] at hresolved
        cases hresolved
      · exact fun _ => hrefused error
    | ok resolved =>
      cases resolved with
      | none =>
        constructor
        · rintro - dir current updated hfound
          have hresolved := hfound.resolved
          rw [hdir] at hresolved
          cases hresolved
        · exact fun _ => hrefused _
      | some dir =>
        dsimp only
        cases hresult : updateTaskConfig env.digest (accountName ++ "/" ++ taskName)
            (if service.configExists dir then some (service.readJson dir) else none)
            transform validate expectedRevision with
        | error error =>
          constructor
          · rintro - found current updated hfound hrevision htransform hvalid
            obtain rfl : dir = found := by
              have hsame := hdir.symm.trans hfound.resolved
              exact Option.some.inj (Except.ok.inj hsame)
            rw [content_of_select hfound.content, (updateTaskConfig_eq_ok
              (hlastRun current)).mpr ⟨hrevision, htransform, hvalid⟩] at hresult
            cases hresult
          · exact fun _ => hrefused error
        | ok updated =>
          obtain ⟨current, hcontent⟩ := select_of_updated hresult
          rw [content_of_select hcontent, updateTaskConfig_eq_ok (hlastRun current)] at hresult
          obtain ⟨hrevision, htransform, hvalid⟩ := hresult
          refine (filesKept_writeConfig hcontent).trans ⟨?_, ?_⟩
          · rintro rfl found other changed hfound - hchanged -
            obtain rfl : dir = found := by
              have hsame := hdir.symm.trans hfound.resolved
              exact Option.some.inj (Except.ok.inj hsame)
            have hsame := hcontent.symm.trans hfound.content
            obtain rfl := PyValue.dict.inj (Option.some.inj (Option.some.inj hsame))
            exact Except.ok.inj (hchanged.symm.trans htransform)
          · intro hunchanged
            exact hunchanged dir current updated ⟨⟨name, hname⟩, hdir, hcontent⟩
              hrevision htransform hvalid

def ChangeSeen (env : Environment) (situation : Situation) (before : Service)
    (accountName taskName : String) (change : Config → Except PyError Config)
    (after : Service) : Prop :=
  ∃ dir current updated, Found env situation before accountName taskName dir current ∧
    change current = .ok updated ∧ SeenCopy env situation after accountName dir updated

/-- The checks of `toggle_task_enabled` on a configuration. -/
def toggleChecks (env : Environment) (config : Config) : Except PyError Unit := do
  env.validateChatsWorkflow (getEntry config "chats" (.list []))
    (getEntry config "execution_engine")
  env.validateChatsRegexSafety (getEntry config "chats")

/-- The check of `apply_semantic_patch` on a configuration. -/
def patchCheck (env : Environment) (config : Config) : Except PyError Unit :=
  let chats := getEntry config "chats"
  env.validateChatsWorkflow (if isTrue chats then chats else .list [])
    (getEntry config "execution_engine")

theorem toggleEnabled_ne (current : Config) : toggleEnabled current ≠ current := by
  intro hsame
  have hentry : getEntry current "enabled" (.bool true) =
      .bool !(isTrue (getEntry current "enabled" (.bool true))) := by
    unfold toggleEnabled at hsame
    have hstored := Dict.getItem_setItem_self current "enabled"
      (.bool !(isTrue (getEntry current "enabled" (.bool true))))
    rw [hsame] at hstored
    exact congrArg (·.getD (.bool true)) hstored
  have htrue := congrArg ChainedRuns.isTrue hentry
  cases hvalue : isTrue (getEntry current "enabled" (.bool true)) with
  | true =>
    rw [hvalue] at htrue
    cases htrue
  | false =>
    rw [hvalue] at htrue
    cases htrue

/-- `toggle_task_enabled` only leaves the files as they were if its checks refuse the
configuration. -/
theorem toggleTaskEnabled_keptOrSeen_iff : KeptOrSeen service
        (ChangeSeen env situation service accountName taskName
          fun current => .ok (toggleEnabled current))
        (service.toggleTaskEnabled env situation accountName taskName) ↔
      ∀ dir current, Found env situation service accountName taskName dir current →
        toggleChecks env (toggleEnabled current) ≠ .ok () := by
  rw [Service.toggleTaskEnabled, changeTaskConfig_keptOrSeen_iff]
  · constructor
    · intro hkept dir current hfound hchecked
      exact toggleEnabled_ne current
        (hkept dir current _ hfound (fun _ hnone => by cases hnone) rfl hchecked)
    · intro hrefused dir current updated hfound _ hupdated hchecked
      cases hupdated
      exact absurd hchecked (hrefused dir current hfound)
  · intro current transformed htransformed
    cases htransformed
    exact Dict.getItem_setItem_of_ne _ _ (by decide)

/-- `apply_semantic_patch` only leaves the files as they were if the revision, the patch or
its check is refused, or the patch changes nothing. -/
theorem applySemanticPatch_keptOrSeen_iff {revision : String} {patch : Patch} : KeptOrSeen service
        (ChangeSeen env situation service accountName taskName
          fun current => applyCheckedPatch env.intOfDigits current patch)
        (service.applySemanticPatch env situation accountName taskName revision patch) ↔
      ∀ dir current patched, Found env situation service accountName taskName dir current →
        revision = configRevision env.digest current →
        applyCheckedPatch env.intOfDigits current patch = .ok patched →
        patchCheck env patched = .ok () → patched = current := by
  rw [Service.applySemanticPatch, changeTaskConfig_keptOrSeen_iff]
  · constructor
    · intro hkept dir current patched hfound hrevision
      refine hkept dir current patched hfound ?_
      intro expected hexpected
      cases hexpected
      exact hrevision
    · intro hunchanged dir current patched hfound hrevision
      exact hunchanged dir current patched hfound (hrevision revision rfl)
  · intro current patched hpatched
    apply getItem_of_applyCheckedPatch env.intOfDigits hpatched
    rw [field_of_applyCheckedPatch env.intOfDigits hpatched]
    decide

end Changes

/-! ## All edits -/

section Edits

variable {env : Environment} {situation : Situation}

/-- When the three edits return with their content seen, or raise with the files as they
were: `toggle_task_enabled` and `apply_semantic_patch` if they are refused or change nothing,
`update_task` if what it writes over can be read and no directory of its accounts is taken
for that of a task, and in stores whose files can be read only then. -/
theorem edits_keptOrSeen_iff (hregistered : Registered env situation)
    (hwildcard : env.storageName "*" "account_name" = .ok "*") (service : Service) :
    (∀ accountName taskName, KeptOrSeen service
        (ChangeSeen env situation service accountName taskName
          fun current => .ok (toggleEnabled current))
        (service.toggleTaskEnabled env situation accountName taskName) ↔
      ∀ dir current, Found env situation service accountName taskName dir current →
        toggleChecks env (toggleEnabled current) ≠ .ok ()) ∧
    (∀ accountName taskName revision patch, KeptOrSeen service
        (ChangeSeen env situation service accountName taskName
          fun current => applyCheckedPatch env.intOfDigits current patch)
        (service.applySemanticPatch env situation accountName taskName revision patch) ↔
      ∀ dir current patched, Found env situation service accountName taskName dir current →
        revision = configRevision env.digest current →
        applyCheckedPatch env.intOfDigits current patch = .ok patched →
        patchCheck env patched = .ok () → patched = current) ∧
    (∀ database drawn call, (∀ checked plan, call.prepare env = .ok checked →
        (service.loadTasksCache env situation).admitUpdate env situation drawn checked = .ok plan →
        Writable env (service.loadTasksCache env situation) checked plan ∧
          Open (service.loadTasksCache env situation) checked plan) →
      KeptOrSeen service (UpdateSeen env situation service drawn call)
        (service.updateTask env situation database drawn call)) ∧
    (∀ database drawn call, Stored env service →
      service.files.select (.legacy (pyStrip call.taskName)) = none →
      (KeptOrSeen service (UpdateSeen env situation service drawn call)
          (service.updateTask env situation database drawn call) ↔
        ∀ checked plan, call.prepare env = .ok checked →
          (service.loadTasksCache env situation).admitUpdate env situation drawn checked =
            .ok plan →
          Open (service.loadTasksCache env situation) checked plan)) := by
  refine ⟨?_, ?_, ?_, ?_⟩
  · intro accountName taskName
    exact toggleTaskEnabled_keptOrSeen_iff
  · intro accountName taskName revision patch
    exact applySemanticPatch_keptOrSeen_iff
  · intro database drawn call hready
    exact updateTask_keptOrSeen hregistered hwildcard hready
  · intro database drawn call hstored hlegacy
    exact updateTask_keptOrSeen_iff hregistered hwildcard hstored hlegacy

end Edits

/-! ## A task of one account -/

namespace Single

/-- A task that is enabled. -/
def config : Config := [("enabled", .bool true)]

def store : Service where
  files := KeyedTable.empty.insert (.nested "a" "t") (some (.dict config))

theorem readable_config : Readable plainEnvironment "a" config where
  accountName := .inr (by decide)
  accountNames := .inl rfl
  lastRun := by
    intro htrue
    cases htrue
  jitterSeconds := ⟨0, rfl⟩
  retryCount := ⟨3, rfl⟩
  patterns := ⟨[], rfl⟩
  paddingSeconds := ⟨30, rfl⟩
  nextTaskDelay := ⟨2, rfl⟩
  tags := ⟨[], rfl⟩

theorem stored_store : Stored plainEnvironment store where
  file := by
    intro dir content hcontent
    rw [store, KeyedTable.select_insert] at hcontent
    split at hcontent
    · next hsame =>
      cases hcontent
      subst hsame
      exact .nested (.inr (by decide)) (by decide) readable_config
    · cases hcontent
  listed := by
    intro task htask
    cases htask

/-- `toggle_task_enabled` has switched the task off, and raises. -/
theorem toggle_raises_after_write : Stored plainEnvironment store ∧ ¬KeptOrSeen store
        (ChangeSeen plainEnvironment {} store "a" "t" fun current => .ok (toggleEnabled current))
        (store.toggleTaskEnabled plainEnvironment {} "a" "t") := by
  refine ⟨stored_store, ?_⟩
  rw [toggleTaskEnabled_keptOrSeen_iff]
  intro hrefused
  have hfound : Found plainEnvironment {} store "a" "t" (.nested "a" "t") config :=
    ⟨⟨"t", by decide⟩, by rfl, by rfl⟩
  exact hrefused _ _ hfound rfl

/-- `update_task` switches it off, and this is seen. -/
theorem edits_keptOrSeen_switched_off : KeptOrSeen store
      (UpdateSeen plainEnvironment {} store ""
        { taskName := "t", accountName := some "a", args := { enabled := some false } })
      (store.updateTask plainEnvironment {} (fun _ => true) ""
        { taskName := "t", accountName := some "a", args := { enabled := some false } }) := by
  have hregistered : Registered plainEnvironment {} := by
    intro account haccount
    cases haccount
  have hwildcard : plainEnvironment.storageName "*" "account_name" = .ok "*" := by
    decide
  have hedits := (edits_keptOrSeen_iff hregistered hwildcard store).2.2.2 (fun _ => true) ""
    { taskName := "t", accountName := some "a", args := { enabled := some false } }
    stored_store rfl
  apply hedits.mpr
  intro checked plan hchecked _
  have hname : checked.taskName = "t" :=
    (taskName_of_prepare hchecked).2.trans (by decide)
  have hnone : ∀ dir : TaskDir, dir ≠ .nested "a" "t" →
      (store.loadTasksCache plainEnvironment {}).files.select dir = none := by
    intro dir hdir
    rw [Service.files_loadTasksCache]
    rw [store, KeyedTable.select_insert, if_neg hdir]
    rfl
  constructor
  · rw [hname]
    decide
  · intro account _
    apply configExists_legacy.mpr
    exact ⟨hnone _ (by simp), hnone _ (by simp)⟩

end Single

end SignPulse.TaskConfigs
