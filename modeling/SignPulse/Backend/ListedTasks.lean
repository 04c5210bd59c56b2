import SignPulse.Backend.StoredEdits

/-!
# Listed tasks

The files that a scan lists, and that their records can be compared and grouped: no name of
an account on a record is refused.
-/

namespace SignPulse.TaskConfigs

open Foundation
open FlowModels (PyError pyOr pyOrElse)
open ChainedRuns (Config getEntry isTrue)

/-- The names of accounts on a record pass their checks. -/
structure Listable (env : Environment) (task : TaskInfo) : Prop where
  accountName : IsName env task.accountName
  accountNames : ∀ name ∈ task.accountNames, IsName env name

/-- The names of accounts on a group do, if it has one. -/
structure Grouped (env : Environment) (task : TaskInfo) : Prop where
  accountName : task.accountName = "" ∨ IsName env task.accountName
  accountNames : ∀ name ∈ task.accountNames, IsName env name

section Names

variable {env : Environment} {situation : Situation} {service : Service}

/-- Names that have been normalized passed their checks. -/
theorem isName_of_appended {ordered values names : List String}
    (hnames : env.appendAccountNames ordered values = .ok names) :
    ∀ value ∈ values, IsName env value := by
  induction values generalizing ordered with
  | nil =>
    intro value hvalue
    cases hvalue
  | cons first rest ih =>
    rw [Environment.appendAccountNames] at hnames
    cases hfirst : env.appendAccountName ordered first with
    | error error =>
      rw [hfirst] at hnames
      cases hnames
    | ok extended =>
      rw [hfirst] at hnames
      intro value hvalue
      rcases List.mem_cons.mp hvalue with rfl | hrest
      · unfold Environment.appendAccountName at hfirst
        split at hfirst
        · next hwildcard => exact .inl hwildcard
        · split at hfirst
          · cases hfirst
          · next cleaned hcleaned => exact .inr ⟨cleaned, hcleaned⟩
      · exact ih hnames value hrest

theorem isName_of_normalized {values names : List String} {value : String}
    (hnames : env.normalizeAccountNames values (some value) = .ok names) :
    IsName env value :=
  isName_of_appended hnames value (List.mem_append_right _ List.mem_cons_self)

theorem listable_of_loaded {dir : TaskDir} {content : PyValue} {task : TaskInfo}
    (hload : env.loadTaskConfig situation dir content = some task) : Listable env task := by
  unfold Environment.loadTaskConfig at hload
  split at hload
  · next config =>
    cases hbuilt : env.buildTaskInfo situation config dir with
    | error error =>
      rw [hbuilt] at hload
      cases hload
    | ok built =>
      rw [hbuilt] at hload
      cases hload
      obtain ⟨-, -, ⟨names, hnames⟩, -⟩ := of_buildTaskInfo hbuilt
      constructor
      · exact isName_of_normalized hnames
      · intro name hname
        exact (isAccount_of_normalized hnames name hname).isName
  · cases hload

theorem listable_of_scanned {task : TaskInfo} (htask : task ∈ service.scanTasks env situation) :
    Listable env task := by
  obtain ⟨dir, hload, -⟩ := mem_scanTasks.mp htask
  exact listable_of_loaded hload

theorem Listable.accountsOf {task : TaskInfo} (htask : Listable env task) :
    ∃ names, env.accountsOf task = .ok names := by
  apply normalized_of_isName htask.accountNames
  intro name hname
  cases hname
  exact htask.accountName

theorem isName_firstRealAccount {names : List String} {fallback : String}
    (hnames : ∀ name ∈ names, IsName env name)
    (hfallback : fallback = "" ∨ IsName env fallback) :
    Environment.firstRealAccount names fallback = "" ∨
      IsName env (Environment.firstRealAccount names fallback) := by
  unfold Environment.firstRealAccount
  split
  · next name hname => exact .inr (hnames name (List.mem_of_find?_eq_some hname))
  · split
    · exact hfallback
    · exact .inl rfl

end Names

/-! ## Groups -/

section Groups

variable {env : Environment}

theorem Listable.firstMerged {task : TaskInfo} (htask : Listable env task) :
    ∃ merged, env.firstMerged task = .ok merged ∧ Grouped env merged := by
  obtain ⟨names, hnames⟩ := htask.accountsOf
  have hvalid := fun name hname => (isAccount_of_normalized hnames name hname).isName
  unfold Environment.accountsOf at hnames
  rw [Environment.firstMerged, hnames]
  refine ⟨_, rfl, ?_, hvalid⟩
  split
  · exact isName_firstRealAccount hvalid (.inr htask.accountName)
  · exact .inr htask.accountName

theorem Grouped.mergeTask {existing task : TaskInfo} (hexisting : Grouped env existing)
    (htask : Listable env task) :
    ∃ merged, env.mergeTask existing task = .ok merged ∧ Grouped env merged := by
  have hprimary : IsName env (pyOrElse (some existing.accountName) task.accountName) := by
    rcases hexisting.accountName with hempty | hname
    · rw [hempty]
      exact htask.accountName
    · unfold pyOrElse pyOr
      split
      · exact hname
      · exact htask.accountName
  have hjoined : ∀ name ∈ existing.accountNames ++ task.accountNames, IsName env name := by
    intro name hname
    rcases List.mem_append.mp hname with hold | hnew
    · exact hexisting.accountNames name hold
    · exact htask.accountNames name hnew
  simp only [Environment.mergeTask]
  obtain ⟨names, hnames⟩ := @normalized_of_isName env _
    (if pyOrElse (some existing.accountName) task.accountName ≠ "" then
      some (pyOrElse (some existing.accountName) task.accountName) else none) hjoined (by
        intro name hname
        split at hname
        · cases hname
          exact hprimary
        · cases hname)
  have hvalid := fun name hname => (isAccount_of_normalized hnames name hname).isName
  rw [hnames]
  exact ⟨_, rfl, isName_firstRealAccount hvalid (.inr hprimary), hvalid⟩

theorem exists_groupTasks {tasks : List TaskInfo} (htasks : ∀ task ∈ tasks, Listable env task)
    {grouped : Dict String TaskInfo}
    (hgrouped : ∀ key task, Dict.getItem grouped key = some task → Grouped env task) :
    ∃ result, env.groupTasks grouped tasks = .ok result := by
  induction tasks generalizing grouped with
  | nil => exact ⟨grouped, rfl⟩
  | cons task rest ih =>
    have htask := htasks task List.mem_cons_self
    have hturn : ∃ merged, Grouped env merged ∧ env.groupTasks grouped (task :: rest) =
        env.groupTasks (Dict.setItem grouped (Environment.taskGroupKey task) merged) rest := by
      rw [Environment.groupTasks]
      cases hexisting : Dict.getItem grouped (Environment.taskGroupKey task) with
      | none =>
        obtain ⟨merged, hmerged, hnames⟩ := htask.firstMerged
        exact ⟨merged, hnames, by simp only [hmerged]⟩
      | some existing =>
        obtain ⟨merged, hmerged, hnames⟩ := (hgrouped _ existing hexisting).mergeTask htask
        exact ⟨merged, hnames, by simp only [hmerged]⟩
    obtain ⟨merged, hnames, hturn⟩ := hturn
    rw [hturn]
    apply ih fun other hother => htasks other (List.mem_cons_of_mem _ hother)
    intro key found hfound
    by_cases hsame : key = Environment.taskGroupKey task
    · rw [hsame, Dict.getItem_setItem_self] at hfound
      cases hfound
      exact hnames
    · rw [Dict.getItem_setItem_of_ne _ _ hsame] at hfound
      exact hgrouped key found hfound

theorem exists_aggregateTasks {tasks : List TaskInfo} (htasks : ∀ task ∈ tasks, Listable env task) :
    ∃ grouped, env.aggregateTasks tasks = .ok grouped := by
  obtain ⟨grouped, hgrouped⟩ := @exists_groupTasks env tasks htasks [] (by
    intro key task htask
    cases htask)
  rw [Environment.aggregateTasks, hgrouped]
  exact ⟨_, rfl⟩

theorem exists_relatedForAccount {rawTasks : List TaskInfo} {taskName accountName : String}
    (htasks : ∀ task ∈ rawTasks, Listable env task) :
    ∃ related, env.relatedForAccount rawTasks taskName accountName = .ok related := by
  have haccounts : ∀ tasks : List TaskInfo, (∀ task ∈ tasks, Listable env task) →
      ∃ accounts, tasks.mapM env.accountsOf = .ok accounts := by
    intro tasks
    induction tasks with
    | nil => exact fun _ => ⟨[], rfl⟩
    | cons task rest ih =>
      intro hall
      obtain ⟨names, hnames⟩ := (hall task List.mem_cons_self).accountsOf
      obtain ⟨others, hothers⟩ := ih fun other hother => hall other (List.mem_cons_of_mem _ hother)
      rw [List.mapM_cons, hnames, hothers]
      exact ⟨names :: others, rfl⟩
  have hsame : ∀ task ∈ rawTasks.filter (·.name == taskName), Listable env task :=
    fun task htask => htasks task (List.mem_of_mem_filter htask)
  simp only [Environment.relatedForAccount]
  split
  · exact ⟨[], rfl⟩
  · next current hcurrent =>
    split
    · exact ⟨_, rfl⟩
    · obtain ⟨own, hown⟩ :=
        (hsame current (List.mem_of_find?_eq_some hcurrent)).accountsOf
      obtain ⟨accounts, hall⟩ := haccounts _ hsame
      rw [hown, hall]
      dsimp only [bind, Except.bind]
      split
      · exact ⟨_, rfl⟩
      · split
        · exact ⟨_, rfl⟩
        · exact ⟨_, rfl⟩

end Groups

end SignPulse.TaskConfigs
