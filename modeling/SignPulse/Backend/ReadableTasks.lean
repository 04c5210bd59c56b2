import SignPulse.Backend.EditRules

/-!
# Configurations that can be read

The service writes configurations that it can read again: `_load_task_config` makes a record
of them under the account and the task of their directory.
-/

namespace SignPulse.TaskConfigs

open Foundation
open FlowModels (PyError)
open ChainedRuns (Config getEntry isTrue validateStorageName)

/-! ## Names -/

section Names

variable {env : Environment}

section

variable {value fieldName cleaned : String} (hvalid : env.storageName value fieldName = .ok cleaned)

include hvalid

theorem storageName_checked (other : String) : env.storageName cleaned other = .ok cleaned := by
  simp only [Environment.storageName, validateStorageName] at hvalid ⊢
  split at hvalid
  · cases hvalid
  next hempty =>
    split at hvalid
    · cases hvalid
    next hdots =>
      split at hvalid
      · cases hvalid
      next hslash =>
        split at hvalid
        · cases hvalid
        next hreject =>
          split at hvalid
          · cases hvalid
          next hlong =>
            cases hvalid
            rw [pyStrip_pyStrip, if_neg hempty, if_neg hdots, if_neg hslash, if_neg hreject,
              if_neg hlong]

theorem storageName_eq_ok : cleaned = pyStrip value ∧ cleaned ≠ "" :=
  ChainedRuns.validateStorageName_ok hvalid

end

/-- A name that stands for an account, or the wildcard. -/
def IsAccount (env : Environment) (account : String) : Prop :=
  account = "*" ∨ env.storageName account "account_name" = .ok account

theorem IsAccount.strip {account : String} (haccount : IsAccount env account) :
    pyStrip account = account ∧ account ≠ "" := by
  rcases haccount with rfl | hvalid
  · exact ⟨by decide, by decide⟩
  · obtain ⟨hstrip, hnonempty⟩ := storageName_eq_ok hvalid
    exact ⟨hstrip.symm, hnonempty⟩

theorem isAccount_of_appended {ordered values names : List String}
    (hordered : ∀ account ∈ ordered, IsAccount env account)
    (happended : env.appendAccountNames ordered values = .ok names) :
    ∀ account ∈ names, IsAccount env account := by
  induction values generalizing ordered with
  | nil =>
    cases happended
    exact hordered
  | cons value rest ih =>
    rw [Environment.appendAccountNames] at happended
    cases hvalue : env.appendAccountName ordered value with
    | error error =>
      rw [hvalue] at happended
      cases happended
    | ok extended =>
      rw [hvalue] at happended
      refine ih ?_ happended
      unfold Environment.appendAccountName at hvalue
      split at hvalue
      · cases hvalue
        intro account haccount
        split at haccount
        · exact hordered account haccount
        · rcases List.mem_append.mp haccount with hold | hnew
          · exact hordered account hold
          · obtain rfl := List.mem_singleton.mp hnew
            exact .inl rfl
      · split at hvalue
        · cases hvalue
        · next cleaned hcleaned =>
          cases hvalue
          intro account haccount
          split at haccount
          · exact hordered account haccount
          · rcases List.mem_append.mp haccount with hold | hnew
            · exact hordered account hold
            · obtain rfl := List.mem_singleton.mp hnew
              exact .inr (storageName_checked hcleaned _)

theorem isAccount_of_normalized {values names : List String} {value : Option String}
    (hnames : env.normalizeAccountNames values value = .ok names) :
    ∀ account ∈ names, IsAccount env account :=
  isAccount_of_appended (fun _ hnone => absurd hnone List.not_mem_nil) hnames

/-- A text that can be normalized as the name of an account. -/
def IsName (env : Environment) (name : String) : Prop :=
  pyStrip name = "*" ∨ ∃ cleaned, env.storageName name "account_name" = .ok cleaned

theorem IsAccount.isName {account : String} (haccount : IsAccount env account) :
    IsName env account := by
  rcases haccount with rfl | hvalid
  · exact .inl (by decide)
  · exact .inr ⟨account, hvalid⟩

theorem IsName.ne_empty {name : String} (hname : IsName env name) : name ≠ "" := by
  rintro rfl
  rcases hname with hwildcard | ⟨cleaned, hcleaned⟩
  · exact absurd hwildcard (by decide)
  · obtain ⟨rfl, hempty⟩ := storageName_eq_ok hcleaned
    exact hempty (by decide)

theorem IsName.strip {name : String} (hname : IsName env name) : IsName env (pyStrip name) := by
  rcases hname with hwildcard | ⟨cleaned, hcleaned⟩
  · exact .inl ((pyStrip_pyStrip name).trans hwildcard)
  · obtain ⟨rfl, -⟩ := storageName_eq_ok hcleaned
    exact .inr ⟨_, storageName_checked hcleaned _⟩

theorem appended_of_isName {values : List String} (hvalues : ∀ name ∈ values, IsName env name)
    (ordered : List String) : ∃ names, env.appendAccountNames ordered values = .ok names := by
  induction values generalizing ordered with
  | nil => exact ⟨ordered, rfl⟩
  | cons value rest ih =>
    have hvalue : ∃ extended, env.appendAccountName ordered value = .ok extended := by
      unfold Environment.appendAccountName
      split
      · exact ⟨_, rfl⟩
      · next hother =>
        obtain ⟨cleaned, hcleaned⟩ :=
          (hvalues value List.mem_cons_self).resolve_left hother
        rw [hcleaned]
        exact ⟨_, rfl⟩
    obtain ⟨extended, hextended⟩ := hvalue
    obtain ⟨names, hnames⟩ :=
      ih (fun name hname => hvalues name (List.mem_cons_of_mem _ hname)) extended
    refine ⟨names, ?_⟩
    rw [Environment.appendAccountNames, hextended]
    exact hnames

theorem normalized_of_isName {values : List String} {value : Option String}
    (hvalues : ∀ name ∈ values, IsName env name)
    (hvalue : ∀ name ∈ value, IsName env name) :
    ∃ names, env.normalizeAccountNames values value = .ok names := by
  apply appended_of_isName
  intro name hname
  rcases List.mem_append.mp hname with hmem | hmem
  · exact hvalues name hmem
  · exact hvalue name (Option.mem_toList.mp hmem)

end Names

/-! ## Readable configurations -/

/-- The last run of a configuration, if there is one, is a dictionary. -/
def RunReadable (config : Config) : Prop :=
  isTrue (getEntry config "last_run") = true → ∃ entry, getEntry config "last_run" = .dict entry

/-- Each entry of a configuration that its reading depends on can be read, and the account
that it names, if any, is the given one. -/
structure Readable (env : Environment) (account : String) (config : Config) : Prop where
  accountName : Environment.ownAccount config = account ∨ Environment.ownAccount config = ""
  accountNames : isTrue (getEntry config "account_names") = false ∨
    ∃ names : List String, getEntry config "account_names" = .list (names.map .str) ∧
      ∀ name ∈ names, IsName env name
  lastRun : RunReadable config
  jitterSeconds : ∃ value, env.toInt
    (Environment.orDefault (getEntry config "jitter_seconds" (.int 0)) (.int 0)) = .ok value
  retryCount : ∃ value, env.toInt (getEntry config "retry_count" (.int 3)) = .ok value
  patterns : ∃ items,
    Environment.toListOrEmpty (getEntry config "adaptive_schedule_patterns") = .ok items
  paddingSeconds : ∃ value, env.toInt (Environment.orDefault
    (getEntry config "adaptive_schedule_padding_seconds" (.int 30)) (.int 30)) = .ok value
  nextTaskDelay :
    ∃ value, env.toDelay (getEntry config "next_task_delay_seconds" (.float 2)) = .ok value
  tags : ∃ items, Environment.toListOrEmpty (getEntry config "tags" (.list [])) = .ok items

section Reading

variable {env : Environment} {account : String} {config : Config}

theorem Readable.inferred (hreadable : Readable env account config)
    (haccount : IsAccount env account) (situation : Situation) (task : String) :
    Environment.inferAccountName situation config (.nested account task) = account := by
  unfold Environment.inferAccountName
  rcases hreadable.accountName with hown | hnone
  · rw [hown, if_pos haccount.strip.2]
  · rw [hnone, if_neg (by simp)]

theorem toListOrEmpty_list (items : List PyValue) :
    Environment.toListOrEmpty (.list items) = .ok items := by
  cases items with
  | nil => rfl
  | cons item rest => rfl

theorem namesOf_list (names : List String) :
    Environment.namesOf (.list (names.map .str)) = .ok names := by
  rw [Environment.namesOf, toListOrEmpty_list]
  refine congrArg Except.ok ?_
  induction names with
  | nil => rfl
  | cons name rest ih => exact congrArg (name :: ·) ih

theorem Readable.resolved (hreadable : Readable env account config)
    (haccount : IsAccount env account) :
    ∃ names, env.resolveAccountNames config account = .ok names ∧
      ∀ name ∈ names, IsAccount env name := by
  have hstored : ∃ stored, Environment.namesOf (getEntry config "account_names") = .ok stored ∧
        ∀ name ∈ stored, IsName env name := by
    rcases hreadable.accountNames with hfalse | ⟨names, hnames, hvalid⟩
    · refine ⟨[], ?_, fun _ hnone => absurd hnone List.not_mem_nil⟩
      rw [Environment.namesOf, Environment.toListOrEmpty, hfalse]
      rfl
    · rw [hnames, namesOf_list]
      exact ⟨names, rfl, hvalid⟩
  obtain ⟨stored, hstored, hvalid⟩ := hstored
  rw [Environment.resolveAccountNames, hstored]
  dsimp only
  obtain ⟨names, hnames⟩ := @normalized_of_isName env stored none hvalid (by simp)
  rw [hnames]
  cases names with
  | nil =>
    obtain ⟨own, hown⟩ := @normalized_of_isName env [] (some account) (by simp) (by
      intro name hname
      cases hname
      exact haccount.isName)
    exact ⟨own, hown, isAccount_of_normalized hown⟩
  | cons first rest => exact ⟨first :: rest, rfl, isAccount_of_normalized hnames⟩

theorem Readable.lastRunAccount (hreadable : Readable env account config)
    (situation : Situation) (dir : TaskDir) :
    ∃ value, Environment.lastRunAccount
      (Environment.lastRunOf situation config dir account) = .ok value := by
  simp only [Environment.lastRunOf]
  split
  · next htrue =>
    obtain ⟨entry, hentry⟩ := hreadable.lastRun htrue
    rw [hentry] at htrue ⊢
    exact ⟨_, by rw [Environment.lastRunAccount, if_pos htrue]⟩
  · split
    · next entry _ =>
      unfold Environment.lastRunAccount
      split
      · exact ⟨_, rfl⟩
      · exact ⟨_, rfl⟩
    · exact ⟨_, rfl⟩

section

variable {situation : Situation} {dir : TaskDir} {task : TaskInfo}
  (htask : env.buildTaskInfo situation config dir = .ok task)

include htask

theorem of_buildTaskInfo :
    task.name = dir.name ∧ task.accountName = Environment.inferAccountName situation config dir ∧
      (∃ names, env.normalizeAccountNames names (some task.accountName) = .ok task.accountNames) ∧
      ∃ value, Environment.lastRunAccount task.lastRun = .ok value := by
  unfold Environment.buildTaskInfo at htask
  obtain ⟨names, -, htask⟩ := bind_eq_ok.mp htask
  obtain ⟨jitterSeconds, -, htask⟩ := bind_eq_ok.mp htask
  obtain ⟨lastRunAccount, hlastRun, htask⟩ := bind_eq_ok.mp htask
  obtain ⟨retryCount, -, htask⟩ := bind_eq_ok.mp htask
  obtain ⟨patterns, -, htask⟩ := bind_eq_ok.mp htask
  obtain ⟨padding, -, htask⟩ := bind_eq_ok.mp htask
  obtain ⟨delay, -, htask⟩ := bind_eq_ok.mp htask
  obtain ⟨accounts, haccounts, htask⟩ := bind_eq_ok.mp htask
  obtain ⟨tags, -, htask⟩ := bind_eq_ok.mp htask
  cases htask
  exact ⟨rfl, rfl, ⟨names, haccounts⟩, lastRunAccount, hlastRun⟩

theorem lastRun_of_built
    (htrue : isTrue task.lastRun = true) : ∃ entry, task.lastRun = .dict entry := by
  obtain ⟨-, -, -, value, hvalue⟩ := of_buildTaskInfo htask
  unfold Environment.lastRunAccount at hvalue
  rw [if_pos htrue] at hvalue
  split at hvalue
  · next entry hentry => exact ⟨entry, hentry⟩
  · cases hvalue

end

section

variable (hreadable : Readable env account config) (haccount : IsAccount env account)
  (situation : Situation) (taskName : String)

include hreadable haccount

theorem Readable.built :
    ∃ task, env.buildTaskInfo situation config (.nested account taskName) = .ok task ∧
      task.name = taskName ∧ task.accountName = account ∧
      task.nextTaskOnSuccess = env.toText (getEntry config "next_task_on_success") := by
  obtain ⟨names, hnames, hvalid⟩ := hreadable.resolved haccount
  obtain ⟨lastRunAccount, hlastRun⟩ :=
    hreadable.lastRunAccount situation (.nested account taskName)
  obtain ⟨jitter, hjitter⟩ := hreadable.jitterSeconds
  obtain ⟨retry, hretry⟩ := hreadable.retryCount
  obtain ⟨patterns, hpatterns⟩ := hreadable.patterns
  obtain ⟨padding, hpadding⟩ := hreadable.paddingSeconds
  obtain ⟨delay, hdelay⟩ := hreadable.nextTaskDelay
  obtain ⟨tags, htags⟩ := hreadable.tags
  obtain ⟨accounts, haccounts⟩ := @normalized_of_isName env names (some account)
    (fun name hname => (hvalid name hname).isName) (by
      intro name hname
      cases hname
      exact haccount.isName)
  unfold Environment.buildTaskInfo
  simp only [hreadable.inferred haccount, hnames, hlastRun, hjitter, hretry, hpatterns,
    hpadding, hdelay, htags, haccounts, bind, Except.bind, pure, Except.pure]
  exact ⟨_, rfl, rfl, rfl, rfl⟩

theorem Readable.loaded :
    ∃ task, env.loadTaskConfig situation (.nested account taskName) (.dict config) =
        some task ∧ task.name = taskName ∧ task.accountName = account ∧
      task.nextTaskOnSuccess = env.toText (getEntry config "next_task_on_success") := by
  obtain ⟨task, htask, hfields⟩ := hreadable.built haccount situation taskName
  refine ⟨task, ?_, hfields⟩
  rw [Environment.loadTaskConfig, htask]
  rfl

end

end Reading

/-! ## What keeps configurations readable -/

section Writing

variable {env : Environment} {account : String} {config : Config}

/-- The entries that reading depends on. -/
def readKeys : List String :=
  ["account_name", "account_names", "last_run", "jitter_seconds", "retry_count",
    "adaptive_schedule_patterns", "adaptive_schedule_padding_seconds",
    "next_task_delay_seconds", "tags"]

/-- A configuration whose entries come from two readable ones is readable. -/
theorem Readable.mix {left right : Config} (hleft : Readable env account left)
    (hright : Readable env account right)
    (hmixed : ∀ key ∈ readKeys, Dict.getItem config key = Dict.getItem left key ∨
      Dict.getItem config key = Dict.getItem right key) : Readable env account config := by
  have hentry : ∀ key ∈ readKeys, ∀ default : PyValue,
      getEntry config key default = getEntry left key default ∨
        getEntry config key default = getEntry right key default := by
    intro key hkey default
    rcases hmixed key hkey with hsame | hsame
    · exact .inl (congrArg (·.getD default) hsame)
    · exact .inr (congrArg (·.getD default) hsame)
  constructor
  · unfold Environment.ownAccount
    rcases hentry "account_name" (by decide) .none with h | h
    · exact h ▸ hleft.accountName
    · exact h ▸ hright.accountName
  · rcases hentry "account_names" (by decide) .none with h | h
    · exact h ▸ hleft.accountNames
    · exact h ▸ hright.accountNames
  · unfold RunReadable
    rcases hentry "last_run" (by decide) .none with h | h
    · exact h ▸ hleft.lastRun
    · exact h ▸ hright.lastRun
  · rcases hentry "jitter_seconds" (by decide) (.int 0) with h | h
    · exact h ▸ hleft.jitterSeconds
    · exact h ▸ hright.jitterSeconds
  · rcases hentry "retry_count" (by decide) (.int 3) with h | h
    · exact h ▸ hleft.retryCount
    · exact h ▸ hright.retryCount
  · rcases hentry "adaptive_schedule_patterns" (by decide) .none with h | h
    · exact h ▸ hleft.patterns
    · exact h ▸ hright.patterns
  · rcases hentry "adaptive_schedule_padding_seconds" (by decide) (.int 30) with h | h
    · exact h ▸ hleft.paddingSeconds
    · exact h ▸ hright.paddingSeconds
  · rcases hentry "next_task_delay_seconds" (by decide) (.float 2) with h | h
    · exact h ▸ hleft.nextTaskDelay
    · exact h ▸ hright.nextTaskDelay
  · rcases hentry "tags" (by decide) (.list []) with h | h
    · exact h ▸ hleft.tags
    · exact h ▸ hright.tags

theorem Readable.change {owner : String} {changed : Config} (hreadable : Readable env owner config)
    (hothers : ∀ key ∈ readKeys, key ∉ ["account_name", "account_names", "last_run"] →
      Dict.getItem changed key = Dict.getItem config key)
    (haccountName : Environment.ownAccount changed = account ∨ Environment.ownAccount changed = "")
    (haccountNames : isTrue (getEntry changed "account_names") = false ∨
      ∃ names : List String, getEntry changed "account_names" = .list (names.map .str) ∧
        ∀ name ∈ names, IsName env name)
    (hlastRun : RunReadable changed) :
    Readable env account changed := by
  have hentry : ∀ key ∈ readKeys, key ∉ ["account_name", "account_names", "last_run"] →
      ∀ default : PyValue, getEntry changed key default = getEntry config key default :=
    fun key hkey hother default => congrArg (·.getD default) (hothers key hkey hother)
  constructor
  · exact haccountName
  · exact haccountNames
  · exact hlastRun
  · rw [hentry "jitter_seconds" (by decide) (by decide)]
    exact hreadable.jitterSeconds
  · rw [hentry "retry_count" (by decide) (by decide)]
    exact hreadable.retryCount
  · rw [hentry "adaptive_schedule_patterns" (by decide) (by decide)]
    exact hreadable.patterns
  · rw [hentry "adaptive_schedule_padding_seconds" (by decide) (by decide)]
    exact hreadable.paddingSeconds
  · rw [hentry "next_task_delay_seconds" (by decide) (by decide)]
    exact hreadable.nextTaskDelay
  · rw [hentry "tags" (by decide) (by decide)]
    exact hreadable.tags

theorem readable_of_built {accountNames : List String} {groupId : String}
    {fields : FieldValues} {lastRun : PyValue} (haccount : IsAccount env account)
    (hnames : ∀ name ∈ accountNames, IsAccount env name)
    (hlastRun : isTrue lastRun = true → ∃ entry, lastRun = .dict entry)
    (hbuilt : buildSignTaskConfig account accountNames groupId fields lastRun = .ok config) :
    Readable env account config := by
  have hints : ∀ value default : ℤ, ∃ result,
      env.toInt (Environment.orDefault (.int value) (.int default)) = .ok result := by
    intro value default
    unfold Environment.orDefault
    split
    · exact ⟨value, rfl⟩
    · exact ⟨default, rfl⟩
  unfold buildSignTaskConfig at hbuilt
  obtain ⟨tags, -, hbuilt⟩ := bind_eq_ok.mp hbuilt
  obtain ⟨engine, -, hbuilt⟩ := bind_eq_ok.mp hbuilt
  have hstored : ∀ name ∈ accountNames, IsName env name :=
    fun name hname => (hnames name hname).isName
  cases lastRun with
  | none =>
    cases hbuilt
    constructor
    · exact .inl haccount.strip.1
    · exact .inr ⟨accountNames, rfl, hstored⟩
    · intro hfalse
      cases hfalse
    · exact hints _ _
    · exact ⟨_, rfl⟩
    · exact ⟨_, toListOrEmpty_list _⟩
    · exact hints _ _
    · exact ⟨_, rfl⟩
    · exact ⟨_, toListOrEmpty_list _⟩
  | _ =>
    cases hbuilt
    constructor
    · exact .inl haccount.strip.1
    · exact .inr ⟨accountNames, rfl, hstored⟩
    · exact hlastRun
    · exact hints _ _
    · exact ⟨_, rfl⟩
    · exact ⟨_, toListOrEmpty_list _⟩
    · exact hints _ _
    · exact ⟨_, rfl⟩
    · exact ⟨_, toListOrEmpty_list _⟩

end Writing

end SignPulse.TaskConfigs
