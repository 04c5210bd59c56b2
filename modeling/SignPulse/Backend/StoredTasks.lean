import SignPulse.Backend.ReadableTasks

/-!
# Stored tasks

Each file of a store of tasks can be read below the directory of its account, or it is one of
the old layout.  A store that only the service has written is tidy: it has no directories of
the old layout.
-/

namespace SignPulse.TaskConfigs

open Foundation
open FlowModels (PyError)
open ChainedRuns (Config getEntry isTrue)

/-- A file that can be read under the names of its directory.  In the old layout only the
last run matters to what is written over it. -/
inductive IsTaskFile (env : Environment) : TaskDir → Option PyValue → Prop where
  | nested {account task : String} {config : Config} (haccount : IsAccount env account)
      (htask : env.storageName task "task_name" = .ok task)
      (hreadable : Readable env account config) :
      IsTaskFile env (.nested account task) (some (.dict config))
  | legacy {task : String} {config : Config} (hlastRun : RunReadable config) :
      IsTaskFile env (.legacy task) (some (.dict config))

/-- Every file can be read, and so can the last run of every record on hand. -/
structure Stored (env : Environment) (service : Service) : Prop where
  file : ∀ dir content, service.files.select dir = some content → IsTaskFile env dir content
  listed : ∀ task ∈ service.listTasks, isTrue task.lastRun = true →
    ∃ entry, task.lastRun = .dict entry

theorem stored_empty (env : Environment) : Stored env {} where
  file := by
    intro dir content hcontent
    cases hcontent
  listed := by
    intro task htask
    cases htask

/-- There is no directory of the old layout. -/
def Nested (service : Service) : Prop :=
  ∀ task, service.files.select (.legacy task) = none

/-- A store that has only been written in the present layout. -/
structure Tidy (env : Environment) (service : Service) : Prop extends Stored env service where
  nested : Nested service

theorem tidy_empty (env : Environment) : Tidy env {} where
  toStored := stored_empty env
  nested := fun _ => rfl

section Records

variable {env : Environment} {situation : Situation} {service : Service}

theorem lastRun_of_loaded {dir : TaskDir} {content : PyValue} {task : TaskInfo}
    (htask : env.loadTaskConfig situation dir content = some task)
    (htrue : isTrue task.lastRun = true) : ∃ entry, task.lastRun = .dict entry := by
  unfold Environment.loadTaskConfig at htask
  split at htask
  · next config =>
    cases hbuilt : env.buildTaskInfo situation config dir with
    | error error =>
      rw [hbuilt] at htask
      cases htask
    | ok built =>
      rw [hbuilt] at htask
      cases htask
      exact lastRun_of_built hbuilt htrue
  · cases htask

theorem select_of_loaded {dir : TaskDir} {task : TaskInfo}
    (htask : env.loadTaskConfig situation dir (service.readJson dir) = some task) :
    ∃ config, service.files.select dir = some (some (.dict config)) ∧
      env.buildTaskInfo situation config dir = .ok task := by
  unfold Environment.loadTaskConfig at htask
  split at htask
  · next config hconfig =>
    refine ⟨config, ?_, ?_⟩
    · unfold Service.readJson at hconfig
      rcases hcontent : service.files.select dir with _ | _ | content
      · rw [hcontent] at hconfig
        cases hconfig
      · rw [hcontent] at hconfig
        cases hconfig
      · rw [hcontent] at hconfig
        exact congrArg (fun value => some (some value)) hconfig
    · cases hbuilt : env.buildTaskInfo situation config dir with
      | error error =>
        rw [hbuilt] at htask
        cases htask
      | ok built =>
        rw [hbuilt] at htask
        exact congrArg Except.ok (Option.some.inj htask)
  · cases htask

/-- The directory of an account is taken for that of a task if it has a configuration. -/
def Shadowed (service : Service) : TaskDir → Prop
  | .nested account _ => service.configExists (.legacy account) = true
  | .legacy _ => False

/-- A scan lists the readable files, but for those below directories of tasks. -/
theorem mem_scanTasks {task : TaskInfo} : task ∈ service.scanTasks env situation ↔
      ∃ dir, env.loadTaskConfig situation dir (service.readJson dir) = some task ∧
        ¬Shadowed service dir := by
  have hlisted : ∀ dir, env.loadTaskConfig situation dir (service.readJson dir) = some task →
      dir ∈ service.dirs ∧ service.configExists dir = true := by
    intro dir hload
    obtain ⟨config, hconfig, -⟩ := select_of_loaded hload
    refine ⟨Dict.mem_keyList_of_getItem hconfig, ?_⟩
    unfold Service.configExists
    rw [hconfig]
    rfl
  unfold Service.scanTasks Environment.sortedBy
  rw [List.mem_insertionSort, List.mem_flatMap]
  constructor
  · rintro ⟨top, -, htask⟩
    simp only [Service.scanDirectory] at htask
    split at htask
    · exact ⟨.legacy top, Option.mem_toList.mp htask, id⟩
    · next hnested =>
      obtain ⟨dir, hdir, hload⟩ := List.mem_filterMap.mp htask
      refine ⟨dir, hload, ?_⟩
      obtain rfl := eq_of_beq (List.mem_filter.mp hdir).2
      cases dir with
      | nested account name => exact hnested
      | legacy name => exact id
  · rintro ⟨dir, hload, hshadow⟩
    obtain ⟨hdir, hexists⟩ := hlisted dir hload
    refine ⟨dir.top, List.mem_eraseDups.mpr (List.mem_map_of_mem hdir), ?_⟩
    simp only [Service.scanDirectory]
    cases dir with
    | nested account name =>
      split
      · next hshadowed => exact absurd hshadowed hshadow
      · apply List.mem_filterMap.mpr
        exact ⟨.nested account name, List.mem_filter.mpr ⟨hdir, beq_self_eq_true _⟩, hload⟩
    | legacy name =>
      split
      · exact Option.mem_toList.mpr hload
      · next hmissing => exact absurd hexists hmissing

theorem Stored.bookKeeping : Service.BookKeeping (Stored env) where
  refresh := by
    intro state other found hservice
    constructor
    · exact hservice.file
    · intro task htask
      obtain ⟨dir, hdir, -⟩ := mem_scanTasks.mp htask
      exact lastRun_of_loaded hdir
  reload := by
    intro state available hservice
    cases available with
    | true => exact ⟨hservice.file, hservice.listed⟩
    | false => exact hservice
  record := by
    intro state available account task hservice
    unfold Service.recordWildcardRemoved
    split
    · exact hservice
    · exact ⟨hservice.file, hservice.listed⟩
  clear := by
    intro state available account task hservice
    simp only [Service.clearWildcardRemoved]
    split
    · exact hservice
    · exact ⟨hservice.file, hservice.listed⟩

end Records

section Resolving

variable {env : Environment} {situation : Situation} {service : Service}

theorem of_resolveTaskDir {task name : String} {found : Option TaskDir} (hname : IsAccount env name)
    (hfound : service.resolveTaskDir env situation task (some name) = .ok found) :
    ∃ cleaned, env.storageName task "task_name" = .ok cleaned ∧
      ((found = some (.nested name cleaned) ∧
          (service.files.select (.nested name cleaned)).isSome) ∨
        service.files.select (.nested name cleaned) = none ∧
          (found = none ∨ found = some (.legacy cleaned) ∧
            (service.files.select (.legacy cleaned)).isSome)) := by
  obtain ⟨hstrip, hnonempty⟩ := hname.strip
  unfold Service.resolveTaskDir at hfound
  obtain ⟨cleaned, hcleaned, hfound⟩ := bind_eq_ok.mp hfound
  rw [Option.filter_some, if_pos (by simpa using hnonempty)] at hfound
  obtain ⟨own, hown, hfound⟩ := bind_eq_ok.mp hfound
  obtain ⟨rfl, -⟩ := storageName_eq_ok hown
  rw [hstrip] at hfound
  refine ⟨cleaned, hcleaned, ?_⟩
  have hexists : service.configExists (.nested name cleaned) =
      (service.files.select (.nested name cleaned)).isSome := Bool.or_false _
  rw [hexists] at hfound
  split at hfound
  · next hsome => exact .inl ⟨(Except.ok.inj hfound).symm, hsome⟩
  · next hnone =>
    refine .inr ⟨Option.not_isSome_iff_eq_none.mp hnone, ?_⟩
    split at hfound
    · next config hconfig =>
      have hsome : (service.files.select (.legacy cleaned)).isSome := by
        cases hcontent : service.files.select (.legacy cleaned) with
        | some content => rfl
        | none =>
          rw [Service.readJson, hcontent] at hconfig
          cases hconfig
      have hresolved := Except.ok.inj hfound
      split at hresolved
      · exact .inr ⟨hresolved.symm, hsome⟩
      · exact .inl hresolved.symm
    · exact .inl (Except.ok.inj hfound).symm

theorem of_iterTaskDirs {task : String} {names : List String}
    (hnames : ∀ name ∈ names, IsAccount env name)
    (htask : env.storageName task "task_name" = .ok task)
    {dirs : List (String × TaskDir)}
    (hdirs : service.iterTaskDirs env situation task names = .ok dirs) :
    ∀ copy ∈ dirs, copy.2 = .nested copy.1 task ∨
      copy.2 = .legacy task ∧ (service.files.select (.legacy task)).isSome := by
  induction names generalizing dirs with
  | nil =>
    cases hdirs
    intro copy hcopy
    cases hcopy
  | cons name rest ih =>
    rw [Service.iterTaskDirs] at hdirs
    obtain ⟨found, hfound, hdirs⟩ := bind_eq_ok.mp hdirs
    obtain ⟨others, hothers, hdirs⟩ := bind_eq_ok.mp hdirs
    cases hdirs
    intro copy hcopy
    rcases List.mem_append.mp hcopy with hown | hother
    · obtain ⟨cleaned, hcleaned, hdir⟩ :=
        of_resolveTaskDir (hnames name List.mem_cons_self) hfound
      obtain rfl := Except.ok.inj (htask.symm.trans hcleaned)
      obtain ⟨dir, hsome, rfl⟩ := Option.map_eq_some_iff.mp (Option.mem_toList.mp hown)
      rw [hsome] at hdir
      rcases hdir with ⟨hnested, -⟩ | ⟨-, hnone | ⟨hlegacy, hexists⟩⟩
      · exact .inl (Option.some.inj hnested)
      · cases hnone
      · exact .inr ⟨Option.some.inj hlegacy, hexists⟩
    · exact ih (fun other hmem => hnames other (List.mem_cons_of_mem _ hmem)) hothers copy hother

end Resolving

/-- What `get_task` gives for a file below the directory of an account. -/
theorem getTask_of_loaded {env : Environment} {situation : Situation} {service : Service}
    {task name : String} {config : Config} {info : TaskInfo}
    (htask : env.storageName task "task_name" = .ok task)
    (hconfig : service.files.select (.nested name task) = some (some (.dict config)))
    (hinfo : env.loadTaskConfig situation (.nested name task) (.dict config) = some info)
    (hvalid : env.storageName name "account_name" = .ok name) :
    service.getTask env situation task (some name) = .ok (some info) := by
  have hread : service.readJson (.nested name task) = .dict config := by
    rw [Service.readJson, hconfig]
    rfl
  have hexists : service.configExists (.nested name task) = true := by
    rw [Service.configExists, hconfig]
    rfl
  unfold Service.getTask Service.resolveTaskDir
  rw [htask, Option.filter_some, if_pos (by simpa using (storageName_eq_ok hvalid).2)]
  dsimp only [bind, Except.bind]
  rw [hvalid]
  dsimp only
  rw [if_pos hexists]
  dsimp only [pure, Except.pure]
  rw [hread, hinfo]

namespace Stored

variable {env : Environment} {situation : Situation} {service : Service}

/-! ## Writing and removing -/

theorem write {account task : String} {config : Config} (hservice : Stored env service)
    (haccount : IsAccount env account)
    (htask : env.storageName task "task_name" = .ok task)
    (hreadable : Readable env account config) :
    Stored env (service.writeConfig (.nested account task) config) where
  file := by
    intro dir content hcontent
    rw [Service.select_writeConfig] at hcontent
    split at hcontent
    · next hsame =>
      cases hcontent
      rw [hsame]
      exact .nested haccount htask hreadable
    · exact hservice.file dir content hcontent
  listed := hservice.listed

theorem rmtree (hservice : Stored env service) (dir : TaskDir) : Stored env (service.rmtree dir) where
  file := by
    intro other content hcontent
    rw [Service.select_rmtree] at hcontent
    split at hcontent
    · cases hcontent
    · exact hservice.file other content hcontent
  listed := hservice.listed

/-! ## Reading -/

theorem select_nested (hservice : Stored env service) (account task : String) :
    service.files.select (.nested account task) = none ∨
      ∃ config, service.files.select (.nested account task) = some (some (.dict config)) ∧
        IsAccount env account ∧ env.storageName task "task_name" = .ok task ∧
        Readable env account config := by
  cases hcontent : service.files.select (.nested account task) with
  | none => exact .inl rfl
  | some content =>
    cases hservice.file _ content hcontent with
    | @nested _ _ config haccount htask hreadable =>
      exact .inr ⟨config, rfl, haccount, htask, hreadable⟩

theorem runReadable_nil : RunReadable [] := by
  intro hfalse
  cases hfalse

section

variable (hservice : Stored env service)

include hservice

theorem readJson_dict (dir : TaskDir) :
    ∃ config, service.readJson dir (.dict []) = .dict config ∧ RunReadable config := by
  unfold Service.readJson
  cases hcontent : service.files.select dir with
  | none => exact ⟨[], rfl, runReadable_nil⟩
  | some content =>
    cases hservice.file dir content hcontent with
    | @nested account _ config _ _ hreadable => exact ⟨config, rfl, hreadable.lastRun⟩
    | @legacy _ config hlastRun => exact ⟨config, rfl, hlastRun⟩

theorem readJson_nested (account task : String) :
    service.readJson (.nested account task) (.dict []) = .dict [] ∨
      ∃ config, service.readJson (.nested account task) (.dict []) = .dict config ∧
        service.files.select (.nested account task) = some (some (.dict config)) ∧
        Readable env account config := by
  unfold Service.readJson
  rcases hservice.select_nested account task with hnone | ⟨config, hconfig, -, -, hreadable⟩
  · rw [hnone]
    exact .inl rfl
  · rw [hconfig]
    exact .inr ⟨config, rfl, rfl, hreadable⟩

theorem of_readJson {account task : String} {config : Config}
    (hconfig : service.readJson (.nested account task) = .dict config) :
    service.files.select (.nested account task) = some (some (.dict config)) ∧
      IsAccount env account ∧ env.storageName task "task_name" = .ok task ∧
      Readable env account config := by
  unfold Service.readJson at hconfig
  rcases hservice.select_nested account task with
    hnone | ⟨found, hfound, haccount, htask, hreadable⟩
  · rw [hnone] at hconfig
    cases hconfig
  · rw [hfound] at hconfig
    cases hconfig
    exact ⟨hfound, haccount, htask, hreadable⟩

theorem getTask_of_file {task name : String} {config : Config}
    (hconfig : service.files.select (.nested name task) = some (some (.dict config))) :
    ∃ info, env.loadTaskConfig situation (.nested name task) (.dict config) = some info ∧
      info.nextTaskOnSuccess = env.toText (getEntry config "next_task_on_success") ∧
      (env.storageName name "account_name" = .ok name →
        service.getTask env situation task (some name) = .ok (some info)) := by
  cases hservice.file _ _ hconfig with
  | nested haccount htask hreadable =>
    obtain ⟨info, hinfo, -, -, hnext⟩ :=
      hreadable.loaded haccount situation task
    exact ⟨info, hinfo, hnext, getTask_of_loaded htask hconfig hinfo⟩

end

end Stored

theorem Tidy.of_getTask {env : Environment} {situation : Situation} {service : Service}
    (htidy : Tidy env service) {task name : String} {found : Option TaskInfo}
    (hname : IsAccount env name)
    (hfound : service.getTask env situation task (some name) = .ok found) :
    ∃ cleaned, env.storageName task "task_name" = .ok cleaned ∧
      ((found = none ∧ service.files.select (.nested name cleaned) = none) ∨
        ∃ info config, found = some info ∧
          service.files.select (.nested name cleaned) = some (some (.dict config)) ∧
          info.nextTaskOnSuccess = env.toText (getEntry config "next_task_on_success")) := by
  unfold Service.getTask at hfound
  obtain ⟨dir, hdir, hfound⟩ := bind_eq_ok.mp hfound
  obtain ⟨cleaned, hcleaned, hresolved⟩ := of_resolveTaskDir hname hdir
  refine ⟨cleaned, hcleaned, ?_⟩
  rcases hresolved with ⟨rfl, hsome⟩ | ⟨hnone, rfl | ⟨-, hlegacy⟩⟩
  · rcases htidy.select_nested name cleaned with hnone | ⟨config, hconfig, -⟩
    · rw [hnone] at hsome
      cases hsome
    · obtain ⟨info, hinfo, hnext, -⟩ :=
        @Stored.getTask_of_file env situation service htidy.toStored cleaned name config hconfig
      have hread : service.readJson (.nested name cleaned) = .dict config := by
        rw [Service.readJson, hconfig]
        rfl
      dsimp only at hfound
      rw [hread, hinfo] at hfound
      exact .inr ⟨info, config, (Except.ok.inj hfound).symm, hconfig, hnext⟩
  · exact .inl ⟨(Except.ok.inj hfound).symm, hnone⟩
  · rw [htidy.nested] at hlegacy
    cases hlegacy

end SignPulse.TaskConfigs
