import SignPulse.Backend.StoredTasks

/-!
# Edits of stored tasks

`create_task`, `clone_task`, `update_task`, `delete_task` and the expansion of wildcards keep
the files of a store readable, where the registered accounts have valid names.  They make no
directory of the old layout.
-/

namespace SignPulse.TaskConfigs

open Foundation
open FlowModels (PyError)
open ChainedRuns (Config getEntry isTrue)

/-- The registered accounts have valid names. -/
def Registered (env : Environment) (situation : Situation) : Prop :=
  ∀ account ∈ situation.accounts, env.storageName account "account_name" = .ok account

section Related

variable {env : Environment}

theorem subset_of_relatedForAccount {rawTasks related : List TaskInfo}
    {taskName accountName : String}
    (hrelated : env.relatedForAccount rawTasks taskName accountName = .ok related) :
    related ⊆ rawTasks := by
  simp only [Environment.relatedForAccount] at hrelated
  split at hrelated
  · cases hrelated
    exact List.nil_subset _
  · next current hcurrent =>
    split at hrelated
    · cases hrelated
      exact List.Subset.trans (List.filter_subset_self _) (List.filter_subset_self _)
    · obtain ⟨currentAccounts, -, hrelated⟩ := bind_eq_ok.mp hrelated
      obtain ⟨accounts, -, hrelated⟩ := bind_eq_ok.mp hrelated
      split at hrelated
      · cases hrelated
        exact List.filter_subset_self _
      · split at hrelated
        · cases hrelated
          intro task htask
          obtain ⟨pair, hpair, rfl⟩ := List.mem_map.mp htask
          exact List.filter_subset_self _ (List.of_mem_zip (List.mem_of_mem_filter hpair)).1
        · cases hrelated
          intro task htask
          obtain rfl := List.mem_singleton.mp htask
          exact List.filter_subset_self _ (List.mem_of_find?_eq_some hcurrent)

theorem subset_of_filterRelated {rawTasks related : List TaskInfo} {taskName : String}
    {accountName : Option String}
    (hrelated : env.filterRelatedTaskInfos rawTasks taskName accountName = .ok related) :
    related ⊆ rawTasks := by
  unfold Environment.filterRelatedTaskInfos at hrelated
  split at hrelated
  · exact subset_of_relatedForAccount hrelated
  · dsimp only at hrelated
    have hfiltered : rawTasks.filter (·.name == taskName) ⊆ rawTasks := List.filter_subset_self _
    split at hrelated
    · cases hrelated
      exact List.nil_subset _
    · next only honly =>
      cases hrelated
      rwa [← honly]
    · next first rest _ hfirst =>
      cases hgrouped : env.aggregateTasks (rawTasks.filter (·.name == taskName)) with
      | error error =>
        rw [hgrouped] at hrelated
        cases hrelated
      | ok grouped =>
        rw [hgrouped] at hrelated
        cases hrelated
        dsimp only
        split
        · exact List.Subset.trans (List.filter_subset_self _) hfiltered
        · intro task htask
          obtain rfl := List.mem_singleton.mp htask
          apply hfiltered
          rw [hfirst]
          exact List.mem_cons_self

end Related

section Names

variable {env : Environment} {situation : Situation}

theorem isAccount_of_expanded {names : List String} (hregistered : Registered env situation)
    (hnames : ∀ name ∈ names, IsAccount env name) :
    ∀ account ∈ Service.expandAccountNames situation names, IsAccount env account := by
  unfold Service.expandAccountNames
  split
  · exact fun account haccount => .inr (hregistered account haccount)
  · exact hnames

theorem taskName_of_checked {call checked : UpdateCall} (hchecked : call.checked = .ok checked) :
    checked.taskName = call.taskName := by
  unfold UpdateCall.checked at hchecked
  split at hchecked
  · cases hchecked
    rfl
  · dsimp only at hchecked
    split at hchecked
    · cases hchecked
    · split at hchecked
      · cases hchecked
      · split at hchecked
        · cases hchecked
        · cases hchecked
          rfl

/-- `update_task` goes on with a checked name. -/
theorem taskName_of_prepare {call checked : UpdateCall}
    (hchecked : call.prepare env = .ok checked) :
    env.storageName checked.taskName "task_name" = .ok checked.taskName ∧
      checked.taskName = pyStrip call.taskName := by
  unfold UpdateCall.prepare at hchecked
  split at hchecked
  · cases hchecked
  · next cleaned hcleaned =>
    rw [taskName_of_checked hchecked]
    exact ⟨storageName_checked hcleaned _, (storageName_eq_ok hcleaned).1⟩

theorem isAccount_of_given {call : UpdateCall} {ownAccounts accounts : List String}
    (hown : ∀ account ∈ ownAccounts, IsAccount env account)
    (haccounts : Service.givenAccounts env call ownAccounts = .ok accounts) :
    ∀ account ∈ accounts, IsAccount env account := by
  unfold Service.givenAccounts at haccounts
  split at haccounts
  · exact isAccount_of_normalized haccounts
  · cases haccounts
    exact hown

end Names

/-! ## Configurations that are written -/

section Written

variable {env : Environment} {account : String} {config : Config}

/-- The keys of a new configuration without a last run. -/
def builtKeys : List String :=
  ["_version", "task_group_id", "account_name", "account_names", "sign_at", "random_seconds",
    "jitter_seconds", "sign_interval", "chats", "execution_mode", "range_start", "range_end",
    "notify_on_failure", "notify_on_success", "retry_count", "enabled", "tags",
    "adaptive_schedule_enabled", "adaptive_schedule_patterns",
    "adaptive_schedule_padding_seconds", "next_task_on_success", "next_task_delay_seconds",
    "execution_engine"]

variable {accountNames : List String} {groupId : String} {fields : FieldValues} {lastRun : PyValue}

section

variable (hbuilt : buildSignTaskConfig account accountNames groupId fields lastRun = .ok config)

include hbuilt

theorem keyList_of_built :
    Dict.keyList config = builtKeys ∨ Dict.keyList config = builtKeys ++ ["last_run"] := by
  unfold buildSignTaskConfig at hbuilt
  obtain ⟨tags, -, hbuilt⟩ := bind_eq_ok.mp hbuilt
  obtain ⟨engine, -, hbuilt⟩ := bind_eq_ok.mp hbuilt
  cases lastRun with
  | none =>
    cases hbuilt
    exact .inl rfl
  | _ =>
    cases hbuilt
    exact .inr rfl

theorem nodup_of_built :
    (Dict.keyList config).Nodup ∧ ∀ key ∈ builtKeys, key ∈ Dict.keyList config := by
  rcases keyList_of_built hbuilt with hkeys | hkeys
  · rw [hkeys]
    exact ⟨by decide, fun _ hkey => hkey⟩
  · rw [hkeys]
    exact ⟨by decide, fun _ hkey => List.mem_append_left _ hkey⟩

end

theorem Readable.updated {previous : Config} {items : Config}
    (hprevious : Readable env account previous) (hconfig : Readable env account config)
    (hitems : ∀ key value, (key, value) ∈ items → Dict.getItem config key = some value) :
    Readable env account (Dict.update previous items) := by
  apply Readable.mix hprevious hconfig
  intro key _
  rcases @Dict.getItem_update_or _ _ _ previous items key with hkept | ⟨value, hvalue, hget⟩
  · exact .inl hkept
  · exact .inr (hget.trans (hitems key value hvalue).symm)

theorem readable_over {source : Config}
    (hbuilt : buildSignTaskConfig account accountNames groupId fields lastRun = .ok config)
    (hconfig : Readable env account config) (hsource : RunReadable source) :
    Readable env account (Dict.update source config) := by
  obtain ⟨hnodup, hkeys⟩ := nodup_of_built hbuilt
  have hread : ∀ key ∈ readKeys, key ≠ "last_run" → key ∈ builtKeys := by decide
  have hown : ∀ key ∈ readKeys, key ≠ "last_run" →
      Dict.getItem (Dict.update source config) key = Dict.getItem config key := by
    intro key hkey hother
    obtain ⟨value, hvalue⟩ :=
      Dict.exists_getItem_of_mem_keyList (hkeys key (hread key hkey hother))
    rw [Dict.getItem_update hnodup, hvalue, Option.some_or]
  have hnamed : getEntry (Dict.update source config) "account_name" =
      getEntry config "account_name" :=
    congrArg (·.getD .none) (hown "account_name" (by decide) (by decide))
  have hnames : getEntry (Dict.update source config) "account_names" =
      getEntry config "account_names" :=
    congrArg (·.getD .none) (hown "account_names" (by decide) (by decide))
  apply hconfig.change
  · intro key hkey hother
    exact hown key hkey fun hlast => hother (by simp [hlast])
  · rw [Environment.ownAccount, hnamed]
    exact hconfig.accountName
  · rw [hnames]
    exact hconfig.accountNames
  · have hlast : getEntry (Dict.update source config) "last_run" =
        ((Dict.getItem config "last_run").or (Dict.getItem source "last_run")).getD .none :=
      congrArg (·.getD .none) (Dict.getItem_update hnodup "last_run")
    unfold RunReadable
    cases hentry : Dict.getItem config "last_run" with
    | some value =>
      have hconfigRun := hconfig.lastRun
      rw [RunReadable, getEntry, hentry] at hconfigRun
      rw [hlast, hentry]
      exact hconfigRun
    | none =>
      rw [hlast, hentry, Option.none_or]
      exact hsource

theorem Readable.setOther {key : String} {value : PyValue} (hkey : key ∉ readKeys)
    (hreadable : Readable env account config) :
    Readable env account (Dict.setItem config key value) := by
  apply Readable.mix hreadable hreadable
  intro other hother
  exact .inl (Dict.getItem_setItem_of_ne config value fun hsame => hkey (hsame ▸ hother))

theorem Readable.handOver {owner : String} (haccount : IsAccount env account)
    (hreadable : Readable env owner config) :
    Readable env account (Dict.setItem config "account_name" (.str account)) := by
  have hkept : ∀ key, key ≠ "account_name" → getEntry
      (Dict.setItem config "account_name" (.str account)) key = getEntry config key :=
    fun key hother => congrArg (·.getD .none) (Dict.getItem_setItem_of_ne config _ hother)
  have hnamed : getEntry (Dict.setItem config "account_name" (.str account)) "account_name" =
      .str account := congrArg (·.getD .none) (Dict.getItem_setItem_self config _ _)
  apply hreadable.change
  · intro key _ hother
    exact Dict.getItem_setItem_of_ne config _ fun hsame => hother (by simp [hsame])
  · rw [Environment.ownAccount, hnamed]
    exact .inl haccount.strip.1
  · rw [hkept "account_names" (by decide)]
    exact hreadable.accountNames
  · rw [RunReadable, hkept "last_run" (by decide)]
    exact hreadable.lastRun

/-- The names that are left without the wildcard. -/
theorem isName_of_realNames {stored : List PyValue} {names : List String}
    (hstored : stored = names.map .str) (hnames : ∀ name ∈ names, IsName env name) :
    ∀ name ∈ Service.realNames env stored, IsName env name := by
  intro name hname
  unfold Service.realNames at hname
  obtain ⟨hname, -⟩ := List.mem_filter.mp hname
  obtain ⟨item, hitem, rfl⟩ := List.mem_map.mp hname
  rw [hstored] at hitem
  obtain ⟨text, htext, rfl⟩ := List.mem_map.mp hitem
  exact (hnames text htext).strip

theorem Readable.stripped {stored : List PyValue} (hreadable : Readable env account config)
    (hstored : Service.wildcardNames config = some stored) :
    Readable env account (Dict.setItem config "account_names"
      (.list ((Service.realNames env stored).map .str))) := by
  have hkept : ∀ key, key ≠ "account_names" → getEntry (Dict.setItem config "account_names"
      (.list ((Service.realNames env stored).map .str))) key = getEntry config key :=
    fun key hother => congrArg (·.getD .none) (Dict.getItem_setItem_of_ne config _ hother)
  have hnames : ∃ names : List String, stored = names.map .str ∧
      ∀ name ∈ names, IsName env name := by
    unfold Service.wildcardNames at hstored
    rcases hreadable.accountNames with hfalse | ⟨names, hnames, hvalid⟩
    · -- A list that is not empty counts as true.
      split at hstored
      · next items hitems =>
        rw [hitems] at hfalse
        cases items with
        | nil => cases hstored
        | cons item rest => cases hfalse
      · cases hstored
    · rw [hnames] at hstored
      dsimp only at hstored
      split at hstored
      · exact ⟨names, (Option.some.inj hstored).symm, hvalid⟩
      · cases hstored
  obtain ⟨names, hnames, hvalid⟩ := hnames
  apply hreadable.change
  · intro key _ hother
    exact Dict.getItem_setItem_of_ne config _ fun hsame => hother (by simp [hsame])
  · rw [Environment.ownAccount, hkept "account_name" (by decide)]
    exact hreadable.accountName
  · exact .inr ⟨_, congrArg (·.getD .none) (Dict.getItem_setItem_self config _ _),
      isName_of_realNames hnames hvalid⟩
  · rw [RunReadable, hkept "last_run" (by decide)]
    exact hreadable.lastRun

end Written

/-! ## Operations -/

namespace Stored

variable {env : Environment} {situation : Situation} {service : Service}
variable {database : String → Bool} {drawn taskName : String}

theorem createTask {args : CreateArgs} (hservice : Stored env service)
    (hregistered : Registered env situation) :
    Stored env (service.createTask env situation database drawn taskName args).2 := by
  apply Service.createTask_keeps bookKeeping _ hservice
  intro plan hplan account haccount config hconfig state hstate
  obtain ⟨hname, hnames, -, htargets⟩ := Service.of_planCreate hplan
  have hvalid := isAccount_of_normalized hnames
  unfold Service.createdConfig at hconfig
  obtain ⟨signInterval, -, hconfig⟩ := bind_eq_ok.mp hconfig
  apply hstate.write
  · exact isAccount_of_expanded hregistered hvalid account (htargets ▸ haccount)
  · exact storageName_checked hname _
  · apply readable_of_built _ hvalid _ hconfig
    · exact isAccount_of_expanded hregistered hvalid account (htargets ▸ haccount)
    · intro hfalse
      cases hfalse

theorem lastRunFromRelated (hservice : Stored env service) {related : List TaskInfo}
    (hrelated : related ⊆ service.listTasks) (account : String)
    (htrue : isTrue (lastRunFromRelated related account) = true) :
    ∃ entry, lastRunFromRelated related account = .dict entry := by
  unfold TaskConfigs.lastRunFromRelated at htrue ⊢
  split at htrue
  · next task htask =>
    apply hservice.listed task _ htrue
    exact hrelated (List.mem_reverse.mp (List.mem_of_find?_eq_some htask))
  · cases htrue

/-- What `_update_task_impl` writes over a readable configuration is readable. -/
theorem mergedConfig {plan : UpdatePlan} {mask : Option (List String)} {account : String}
    {config merged : Config} {previous source : Config}
    (hbuilt : buildSignTaskConfig account plan.storedAccountNames plan.groupId plan.fields
      (TaskConfigs.lastRunFromRelated plan.related account) = .ok config)
    (hconfig : Readable env account config)
    (hprevious : previous = [] ∨ Readable env account previous)
    (hsourceConfig : plan.sourceConfig = .dict source)
    (hsource : RunReadable source)
    (hmerged : Service.mergedConfig mask plan config (.dict previous) = .ok merged) :
    Readable env account merged := by
  cases previous with
  | nil =>
    simp only [Service.mergedConfig] at hmerged
    rw [hsourceConfig] at hmerged
    cases hmerged
    exact readable_over hbuilt hconfig hsource
  | cons entry rest =>
    have hreadable := hprevious.resolve_left (List.cons_ne_nil entry rest)
    unfold Service.mergedConfig at hmerged
    cases mask with
    | none =>
      cases hmerged
      apply hreadable.updated hconfig
      intro key value hitem
      exact Dict.getItem_of_mem (nodup_of_built hbuilt).1 hitem
    | some mask =>
      have hmasked := @Readable.updated env account config (entry :: rest)
        (mask.filterMap fun key => (Dict.getItem config key).map (Prod.mk key))
        hreadable hconfig (by
          intro key value hitem
          obtain ⟨field, -, hfield⟩ := List.mem_filterMap.mp hitem
          obtain ⟨found, hfound, hsame⟩ := Option.map_eq_some_iff.mp hfield
          obtain ⟨rfl, rfl⟩ := Prod.mk.inj hsame
          exact hfound)
      cases hmerged
      split
      · exact hmasked.setOther (by decide)
      · exact hmasked

theorem updateKeeps {call : UpdateCall} {plan : UpdatePlan} (hservice : Stored env service)
    (hregistered : Registered env situation)
    (htask : env.storageName call.taskName "task_name" = .ok call.taskName)
    (hplan : service.planUpdate env situation drawn call = .ok plan) :
    Service.UpdateKeeps (Stored env) call plan := by
  obtain ⟨existing, ownAccounts, values, -, hown, haccounts, htargets, -, -, -, hrelated, -, -,
    dir, -, hsourceConfig⟩ := Service.of_planUpdate hplan
  have hvalid := isAccount_of_given (isAccount_of_normalized hown) haccounts
  have hsource : ∃ source, plan.sourceConfig = .dict source ∧ RunReadable source := by
    rw [hsourceConfig]
    cases dir with
    | none => exact ⟨[], rfl, runReadable_nil⟩
    | some dir => exact hservice.readJson_dict dir
  obtain ⟨source, hsourceConfig, hsource⟩ := hsource
  constructor
  · intro account _ dir _ state hstate
    exact hstate.rmtree dir
  · intro account haccount config merged state hbuilt hmerged hstate
    have htarget := isAccount_of_expanded hregistered hvalid account (htargets ▸ haccount)
    have hconfig := readable_of_built htarget hvalid
      (hservice.lastRunFromRelated (subset_of_filterRelated hrelated) account) hbuilt
    apply hstate.write
    · exact htarget
    · exact htask
    · rcases hstate.readJson_nested account call.taskName with
        hnone | ⟨previous, hprevious, -, hreadable⟩
      · rw [hnone] at hmerged
        exact mergedConfig hbuilt hconfig (.inl rfl) hsourceConfig hsource hmerged
      · rw [hprevious] at hmerged
        exact mergedConfig hbuilt hconfig (.inr hreadable) hsourceConfig hsource hmerged
  · intro account _ dir _ _ state hstate
    exact hstate.rmtree dir

theorem updateTask {call : UpdateCall} (hservice : Stored env service)
    (hregistered : Registered env situation) :
    Stored env (service.updateTask env situation database drawn call).2 := by
  apply Service.updateTask_keeps bookKeeping _ hservice
  intro checked hchecked plan hplan
  exact (Stored.bookKeeping.load env situation hservice).updateKeeps hregistered
    (taskName_of_prepare hchecked).1 hplan

theorem deleteTask {jobsRemain : Bool} {accountName : Option String}
    (hservice : Stored env service) :
    Stored env (service.deleteTask env situation database jobsRemain taskName accountName).2 := by
  apply Service.deleteTask_keeps bookKeeping _ hservice
  intro name hname copies hcopies
  constructor
  · intro copy _ state hstate
    exact hstate.rmtree copy.2
  · intro account _ _ state _ _ _ hstate
    exact hstate.rmtree _
  · intro account _ config stored state hconfig hstored _ hstate
    obtain ⟨-, haccount, htask, hreadable⟩ := hstate.of_readJson hconfig
    exact hstate.write haccount htask (hreadable.stripped hstored)

theorem writeWildcardCopy {removed : List Tombstone} {copy : WildcardCopy}
    (hservice : Stored env service) (haccount : IsAccount env copy.account)
    (htask : env.storageName copy.taskName "task_name" = .ok copy.taskName)
    (hbase : ∃ owner, Readable env owner copy.base) :
    Stored env (Service.writeWildcardCopy removed service copy) := by
  obtain ⟨owner, hreadable⟩ := hbase
  apply Service.writeWildcardCopy_keeps _ hservice
  intro _ _
  exact hservice.write haccount htask (hreadable.handOver haccount)

theorem of_mem_wildcardCopies {copy : WildcardCopy} (hservice : Stored env service)
    (hregistered : Registered env situation)
    (hcopy : copy ∈ service.wildcardCopies situation) :
    IsAccount env copy.account ∧ env.storageName copy.taskName "task_name" = .ok copy.taskName ∧
      ∃ owner, Readable env owner copy.base := by
  obtain ⟨haccount, owner, stored, hconfig, -⟩ := Service.of_mem_wildcardCopies hcopy
  obtain ⟨-, -, htask, hreadable⟩ := hservice.of_readJson hconfig
  exact ⟨.inr (hregistered copy.account haccount), htask, owner, hreadable⟩

theorem restart (hservice : Stored env service) : Stored env service.restart where
  file := hservice.file
  listed := by
    intro task htask
    cases htask

end Stored

/-! ## Tidy stores -/

section Tidying

variable {env : Environment} {situation : Situation} {service : Service}
variable {database : String → Bool} {drawn taskName : String}

theorem nested_bookKeeping : Service.BookKeeping Nested := by
  apply Service.bookKeeping_of_files
  intro state other hfiles hnested task
  rw [hfiles]
  exact hnested task

theorem Nested.write {account task : String} {config : Config} (hnested : Nested service) :
    Nested (service.writeConfig (.nested account task) config) := by
  intro other
  rw [Service.select_writeConfig, if_neg (by simp)]
  exact hnested other

theorem Nested.rmtree (hnested : Nested service) (dir : TaskDir) : Nested (service.rmtree dir) := by
  intro task
  rw [Service.select_rmtree]
  split
  · rfl
  · exact hnested task

theorem Nested.createTask {args : CreateArgs} (hnested : Nested service) :
    Nested (service.createTask env situation database drawn taskName args).2 := by
  apply Service.createTask_keeps nested_bookKeeping _ hnested
  intro plan _ account _ config _ state hstate
  exact hstate.write

theorem Nested.updateTask {call : UpdateCall} (hnested : Nested service) :
    Nested (service.updateTask env situation database drawn call).2 := by
  apply Service.updateTask_keeps nested_bookKeeping _ hnested
  intro checked _ plan _
  constructor
  · intro account _ dir _ state hstate
    exact hstate.rmtree dir
  · intro account _ config merged state _ _ hstate
    exact hstate.write
  · intro account _ dir _ _ state hstate
    exact hstate.rmtree dir

theorem Nested.deleteTask {jobsRemain : Bool} {accountName : Option String}
    (hnested : Nested service) :
    Nested (service.deleteTask env situation database jobsRemain taskName accountName).2 := by
  apply Service.deleteTask_keeps nested_bookKeeping _ hnested
  intro name _ copies _
  constructor
  · intro copy _ state hstate
    exact hstate.rmtree copy.2
  · intro account _ _ state _ _ _ hstate
    exact hstate.rmtree _
  · intro account _ config stored state _ _ _ hstate
    exact hstate.write

theorem Tidy.bookKeeping : Service.BookKeeping (Tidy env) where
  refresh := fun state env situation htidy =>
    ⟨Stored.bookKeeping.refresh state env situation htidy.toStored, htidy.nested⟩
  reload := fun state available htidy =>
    ⟨Stored.bookKeeping.reload state available htidy.toStored,
      nested_bookKeeping.reload state available htidy.nested⟩
  record := fun state available account task htidy =>
    ⟨Stored.bookKeeping.record state available account task htidy.toStored,
      nested_bookKeeping.record state available account task htidy.nested⟩
  clear := fun state available account task htidy =>
    ⟨Stored.bookKeeping.clear state available account task htidy.toStored,
      nested_bookKeeping.clear state available account task htidy.nested⟩

theorem Tidy.createTask {args : CreateArgs} (htidy : Tidy env service)
    (hregistered : Registered env situation) :
    Tidy env (service.createTask env situation database drawn taskName args).2 where
  toStored := htidy.toStored.createTask hregistered
  nested := htidy.nested.createTask

theorem Tidy.updateTask {call : UpdateCall} (htidy : Tidy env service)
    (hregistered : Registered env situation) :
    Tidy env (service.updateTask env situation database drawn call).2 where
  toStored := htidy.toStored.updateTask hregistered
  nested := htidy.nested.updateTask

theorem Tidy.deleteTask {jobsRemain : Bool} {accountName : Option String}
    (htidy : Tidy env service) :
    Tidy env (service.deleteTask env situation database jobsRemain taskName accountName).2 where
  toStored := htidy.toStored.deleteTask
  nested := htidy.nested.deleteTask

end Tidying

end SignPulse.TaskConfigs
