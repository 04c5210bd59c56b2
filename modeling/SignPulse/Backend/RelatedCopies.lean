import SignPulse.Backend.ListedTasks

/-!
# Related copies of a task

Which records of one name `filter_related_task_infos` of `sign_task_group.py` takes for copies of
one task.  The answer for a record with a group id is its group; that for a record without one
can hold records of groups as well, whose own answer is another.
-/

namespace SignPulse.TaskConfigs

open Foundation

variable (env : Environment)

/-- A raw record, as `_load_task_config` makes it. -/
def IsRecord (task : TaskInfo) : Prop :=
  ∃ situation dir content, env.loadTaskConfig situation dir content = some task

def copies (rawTasks : List TaskInfo) (taskName : String) : List TaskInfo :=
  rawTasks.filter (·.name == taskName)

/-- The accounts of a record, where they can be normalized. -/
def accountList (task : TaskInfo) : List String :=
  match env.accountsOf task with
  | .ok names => names
  | .error _ => []

def groupOf (task : TaskInfo) : String :=
  pyStrip task.taskGroupId

def hasWildcard (tasks : List TaskInfo) : Bool :=
  tasks.any fun task => (accountList env task).contains "*"

/-- Both records list the same accounts, more than one. -/
def SameAccounts (task other : TaskInfo) : Prop :=
  1 < (accountList env task).length ∧ accountList env other = accountList env task

/-- No record with a group id is taken for a copy of one without. -/
def Unmixed (tasks : List TaskInfo) : Prop :=
  ∀ task ∈ tasks, groupOf task = "" → ∀ other ∈ tasks, groupOf other ≠ "" →
    hasWildcard env tasks = false ∧ ¬SameAccounts env task other

/-- Each record is related to itself, and the records that are related to it have the same
related records. -/
def FallIntoClasses (rawTasks : List TaskInfo) (taskName : String) : Prop :=
  ∀ task ∈ copies rawTasks taskName, ∃ related,
    env.filterRelatedTaskInfos rawTasks taskName (some task.accountName) = .ok related ∧
      task ∈ related ∧
      ∀ other ∈ related,
        env.filterRelatedTaskInfos rawTasks taskName (some other.accountName) = .ok related

/-- Whether a record is taken for a copy of another. -/
def relates (tasks : List TaskInfo) (task other : TaskInfo) : Bool :=
  if groupOf task ≠ "" then groupOf other == groupOf task
  else if hasWildcard env tasks then true
  else if 1 < (accountList env task).length then accountList env other == accountList env task
  else other.accountName == task.accountName

section Copies

variable {env} {rawTasks tasks : List TaskInfo} {taskName : String} {task other : TaskInfo}

theorem IsRecord.listable (hrecord : IsRecord env task) : Listable env task := by
  obtain ⟨situation, dir, content, hload⟩ := hrecord
  exact listable_of_loaded hload

theorem Listable.accountsOf_eq (htask : Listable env task) :
    env.accountsOf task = .ok (accountList env task) := by
  obtain ⟨names, hnames⟩ := htask.accountsOf
  rw [accountList, hnames]

theorem mapM_accountsOf (htasks : ∀ task ∈ tasks, Listable env task) :
    tasks.mapM env.accountsOf = .ok (tasks.map (accountList env)) := by
  induction tasks with
  | nil => rfl
  | cons task rest ih =>
    rw [List.mapM_cons, (htasks task List.mem_cons_self).accountsOf_eq,
      ih fun other hother => htasks other (List.mem_cons_of_mem _ hother)]
    rfl

theorem map_fst_filter_zip {α β : Type*} (p : β → Bool) (f : α → β) (items : List α) :
    ((items.zip (items.map f)).filter fun pair => p pair.2).map Prod.fst =
      items.filter fun item => p (f item) := by
  induction items with
  | nil => rfl
  | cons item rest ih =>
    rw [List.map_cons, List.zip_cons_cons, List.filter_cons, List.filter_cons]
    by_cases hitem : p (f item) = true
    · rw [if_pos hitem, if_pos hitem, List.map_cons, ih]
    · rw [if_neg hitem, if_neg hitem, ih]

theorem filter_account (hdistinct : (tasks.map TaskInfo.accountName).Nodup) (hmem : task ∈ tasks) :
    tasks.filter (·.accountName == task.accountName) = [task] := by
  induction tasks with
  | nil => exact absurd hmem List.not_mem_nil
  | cons head rest ih =>
    obtain ⟨hfresh, hrest⟩ := List.nodup_cons.mp hdistinct
    rw [List.filter_cons]
    obtain rfl | htail := List.mem_cons.mp hmem
    · have hnone : rest.filter (·.accountName == task.accountName) = [] := by
        refine List.filter_eq_nil_iff.mpr fun other hother hsame => hfresh ?_
        rw [← eq_of_beq hsame]
        exact List.mem_map_of_mem hother
      rw [if_pos (beq_self_eq_true _), hnone]
    · have hne : ¬(head.accountName == task.accountName) = true := fun hsame =>
        hfresh (eq_of_beq hsame ▸ List.mem_map_of_mem htail)
      rw [if_neg hne, ih hrest htail]

theorem find?_account (hdistinct : (tasks.map TaskInfo.accountName).Nodup) (hmem : task ∈ tasks) :
    tasks.find? (·.accountName == task.accountName) = some task := by
  rw [← List.head?_filter, filter_account hdistinct hmem]
  rfl

theorem filterRelated_eq (hrecords : ∀ task ∈ rawTasks, IsRecord env task)
    (hdistinct : ((copies rawTasks taskName).map TaskInfo.accountName).Nodup)
    (hmem : task ∈ copies rawTasks taskName) :
    env.filterRelatedTaskInfos rawTasks taskName (some task.accountName) =
      .ok ((copies rawTasks taskName).filter (relates env (copies rawTasks taskName) task)) := by
  have hlistable : ∀ other ∈ copies rawTasks taskName, Listable env other :=
    fun other hother => (hrecords other (List.mem_of_mem_filter hother)).listable
  have hname : task.accountName ≠ "" := (hlistable task hmem).accountName.ne_empty
  rw [Environment.filterRelatedTaskInfos, Option.filter_some, if_pos (by simpa using hname)]
  dsimp only
  simp only [Environment.relatedForAccount]
  rw [← copies]
  generalize copies rawTasks taskName = tasks at hlistable hdistinct hmem
  rw [find?_account hdistinct hmem]
  dsimp only
  rw [← groupOf]
  unfold relates
  by_cases hgroup : groupOf task = ""
  · rw [if_neg (not_not.mpr hgroup), (hlistable task hmem).accountsOf_eq, mapM_accountsOf hlistable]
    dsimp only [bind, Except.bind]
    rw [List.any_map]
    change (if hasWildcard env tasks = true then _ else _) = _
    by_cases hwildcard : hasWildcard env tasks = true
    · rw [if_pos hwildcard]
      refine congrArg Except.ok (List.filter_eq_self.mpr fun other _ => ?_).symm
      rw [if_neg (not_not.mpr hgroup), if_pos hwildcard]
    · rw [if_neg hwildcard]
      by_cases hseveral : 1 < (accountList env task).length
      · rw [if_pos hseveral]
        refine congrArg Except.ok ((map_fst_filter_zip (· == accountList env task)
          (accountList env) tasks).trans (List.filter_congr fun other _ => ?_))
        rw [if_neg (not_not.mpr hgroup), if_neg hwildcard, if_pos hseveral]
      · rw [if_neg hseveral]
        refine congrArg Except.ok ((filter_account hdistinct hmem).symm.trans
          (List.filter_congr fun other _ => ?_))
        rw [if_neg (not_not.mpr hgroup), if_neg hwildcard, if_neg hseveral]
  · rw [if_pos hgroup]
    refine congrArg Except.ok (List.filter_congr fun other _ => ?_)
    rw [if_pos hgroup]
    rfl

theorem relates_self (tasks : List TaskInfo) (task : TaskInfo) :
    relates env tasks task task = true := by
  unfold relates
  split_ifs <;> first | exact beq_self_eq_true _ | rfl

theorem relates_of_group (hgroup : groupOf task ≠ "") :
    relates env tasks task other = (groupOf other == groupOf task) :=
  if_pos hgroup

/-- A record that is taken for a copy of another is taken for one of the same records. -/
theorem relates_congr (hunmixed : Unmixed env tasks)
    (hdistinct : (tasks.map TaskInfo.accountName).Nodup) (htask : task ∈ tasks)
    (hother : other ∈ tasks) (hrelates : relates env tasks task other = true) :
    relates env tasks other = relates env tasks task := by
  by_cases hgroup : groupOf task = ""
  · have hmixed := hunmixed task htask hgroup other hother
    unfold relates at hrelates
    rw [if_neg (not_not.mpr hgroup)] at hrelates
    -- the other record has no group either
    have hplain : groupOf other = "" := by
      by_contra hgrouped
      obtain ⟨hwildcard, hsame⟩ := hmixed hgrouped
      rw [if_neg (Bool.eq_false_iff.mp hwildcard)] at hrelates
      split_ifs at hrelates with hseveral
      · exact hsame ⟨hseveral, eq_of_beq hrelates⟩
      · have hequal := List.inj_on_of_nodup_map hdistinct hother htask (eq_of_beq hrelates)
        exact hgrouped (hequal ▸ hgroup)
    funext third
    unfold relates
    rw [if_neg (not_not.mpr hgroup), if_neg (not_not.mpr hplain)]
    split_ifs at hrelates with hwildcard hseveral
    · rw [if_pos hwildcard, if_pos hwildcard]
    · have hsame : accountList env other = accountList env task := eq_of_beq hrelates
      rw [if_neg hwildcard, if_neg hwildcard, hsame, if_pos hseveral, if_pos hseveral]
    · rw [List.inj_on_of_nodup_map hdistinct hother htask (eq_of_beq hrelates)]
  · rw [relates_of_group hgroup] at hrelates
    have hsame : groupOf other = groupOf task := eq_of_beq hrelates
    funext third
    rw [relates_of_group hgroup, relates_of_group (hsame ▸ hgroup), hsame]

section

variable (hrecords : ∀ task ∈ rawTasks, IsRecord env task)
  (hdistinct : ((copies rawTasks taskName).map TaskInfo.accountName).Nodup)

include hrecords hdistinct

theorem unmixed_of_fallIntoClasses (hclasses : FallIntoClasses env rawTasks taskName) :
    Unmixed env (copies rawTasks taskName) := by
  intro task htask hplain other hother hgroup
  obtain ⟨related, hrelated, hself, hall⟩ := hclasses task htask
  have hown := filterRelated_eq hrecords hdistinct htask
  obtain rfl := Except.ok.inj (hrelated.symm.trans hown)
  -- otherwise the other record would have to be related to this one as well
  have hapart : ¬relates env (copies rawTasks taskName) task other = true := by
    intro hrelates
    have hmem := List.mem_filter.mpr ⟨hother, hrelates⟩
    have hsame := Except.ok.inj ((hall other hmem).symm.trans
      (filterRelated_eq hrecords hdistinct hother))
    rw [hsame] at hself
    have hback := (List.mem_filter.mp hself).2
    rw [relates_of_group hgroup] at hback
    exact hgroup ((eq_of_beq hback).symm.trans hplain)
  rw [relates, if_neg (not_not.mpr hplain)] at hapart
  split_ifs at hapart with hwildcard hseveral
  · exact absurd rfl hapart
  · exact ⟨Bool.eq_false_iff.mpr hwildcard, fun hsame => hapart (by simp [hsame.2])⟩
  · exact ⟨Bool.eq_false_iff.mpr hwildcard, fun hsame => hseveral hsame.1⟩

/-- The records of a name fall into classes if and only if no record of a group is taken for a
copy of one without a group. -/
theorem fallIntoClasses_iff_unmixed :
    FallIntoClasses env rawTasks taskName ↔ Unmixed env (copies rawTasks taskName) := by
  refine ⟨unmixed_of_fallIntoClasses hrecords hdistinct, fun hunmixed task htask => ?_⟩
  refine ⟨_, filterRelated_eq hrecords hdistinct htask,
    List.mem_filter.mpr ⟨htask, relates_self _ _⟩, fun other hother => ?_⟩
  obtain ⟨hmem, hrelates⟩ := List.mem_filter.mp hother
  rw [filterRelated_eq hrecords hdistinct hmem,
    relates_congr hunmixed hdistinct htask hmem hrelates]

end

end Copies

/-! ## A wildcard record beside a group -/

def dailyRecords (account : String) (config : ChainedRuns.Config) : List TaskInfo :=
  (plainEnvironment.loadTaskConfig {} (.nested account "daily") (.dict config)).toList

theorem isRecord_dailyRecords {account : String} {config : ChainedRuns.Config} {task : TaskInfo}
    (hmem : task ∈ dailyRecords account config) : IsRecord plainEnvironment task :=
  ⟨{}, .nested account "daily", .dict config, Option.mem_toList.mp hmem⟩

/-- Two copies made for two accounts. -/
def sharedRecords : List TaskInfo :=
  dailyRecords "alice" [("account_names", .list [.str "alice", .str "bob"])] ++
    dailyRecords "bob" [("account_names", .list [.str "alice", .str "bob"])]

/-- A copy for all accounts, and one of a group. -/
def mixedRecords : List TaskInfo :=
  dailyRecords "alice" [("account_names", .list [.str "*"])] ++ dailyRecords "bob"
      [("account_names", .list [.str "bob", .str "carol"]), ("task_group_id", .str "g1")]

theorem isRecord_of_append {account other : String} {config config' : ChainedRuns.Config} :
    ∀ task ∈ dailyRecords account config ++ dailyRecords other config',
      IsRecord plainEnvironment task := by
  intro task hmem
  obtain hleft | hright := List.mem_append.mp hmem
  · exact isRecord_dailyRecords hleft
  · exact isRecord_dailyRecords hright

theorem not_fallIntoClasses_mixedRecords :
    ¬ ∀ (env : Environment) (rawTasks : List TaskInfo) (taskName : String),
      (∀ task ∈ rawTasks, IsRecord env task) →
        ((copies rawTasks taskName).map TaskInfo.accountName).Nodup →
          FallIntoClasses env rawTasks taskName := by
  intro hall
  have hdistinct : ((copies mixedRecords "daily").map TaskInfo.accountName).Nodup := by
    decide
  have hunmixed := unmixed_of_fallIntoClasses isRecord_of_append hdistinct
    (hall plainEnvironment mixedRecords "daily" isRecord_of_append hdistinct)
  have hmixed : ((copies mixedRecords "daily").any fun task => groupOf task == "" &&
      (copies mixedRecords "daily").any fun other => groupOf other != "") = true := by
    decide
  obtain ⟨task, htask, hboth⟩ := List.any_eq_true.mp hmixed
  obtain ⟨hplain, hgroups⟩ := Bool.and_eq_true_iff.mp hboth
  obtain ⟨other, hother, hgroup⟩ := List.any_eq_true.mp hgroups
  have hwildcard : hasWildcard plainEnvironment (copies mixedRecords "daily") = true := by
    decide
  obtain ⟨hnone, -⟩ := hunmixed task htask (eq_of_beq hplain) other hother (bne_iff_ne.mp hgroup)
  exact Bool.false_ne_true (hnone.symm.trans hwildcard)

theorem fallIntoClasses_iff_sharedRecords : (copies sharedRecords "daily").length = 2 ∧
      (FallIntoClasses plainEnvironment sharedRecords "daily" ↔
        Unmixed plainEnvironment (copies sharedRecords "daily")) :=
  ⟨by decide, fallIntoClasses_iff_unmixed isRecord_of_append (by decide)⟩

end SignPulse.TaskConfigs
