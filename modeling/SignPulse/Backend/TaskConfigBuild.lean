import Mathlib.Algebra.GroupWithZero.Nat
import SignPulse.Backend.TaskInfos

/-!
# Building task configurations

The pure functions of `sign_task_config_build.py` behind `create_task` and `update_task`.
-/

namespace SignPulse.TaskConfigs

open Foundation
open FlowModels (PyError)
open ChainedRuns (Config getEntry isTrue)

/-! ## Tags and engines -/

/-- The loop of `normalize_task_tags`, with the tags kept so far. -/
def collectTags : List String → List String → Except PyError (List String)
  | kept, [] => .ok kept
  | kept, raw :: rest =>
    let value := pyStrip raw
    if value = "" then collectTags kept rest
    else if value.length > 50 then .error (valueError "单个任务标签最多允许 50 个字符")
    else collectTags (if value ∈ kept then kept else kept ++ [value]) rest

/-- `normalize_task_tags`. -/
def normalizeTaskTags (tags : List String) : Except PyError (List String) :=
  if tags.length > 20 then .error (valueError "任务标签最多允许 20 个")
  else
    match collectTags [] tags with
    | .error error => .error error
    | .ok kept =>
      if (kept.map String.length).sum > 500 then
        .error (valueError "任务标签总长度最多允许 500 个字符")
      else .ok kept

/-- Tags as `normalize_task_tags` keeps them. -/
structure CleanTags (tags : List String) : Prop where
  tag : ∀ tag ∈ tags, pyStrip tag = tag ∧ tag ≠ "" ∧ tag.length ≤ 50
  nodup : tags.Nodup

theorem CleanTags.collected {kept raws result : List String} (hkept : CleanTags kept)
    (hresult : collectTags kept raws = .ok result) :
    CleanTags result ∧ result.length ≤ kept.length + raws.length := by
  induction raws generalizing kept with
  | nil =>
    cases hresult
    exact ⟨hkept, Nat.le_add_right _ _⟩
  | cons raw rest ih =>
    rw [collectTags] at hresult
    split at hresult
    · obtain ⟨hclean, hlength⟩ := ih hkept hresult
      exact ⟨hclean, by rw [List.length_cons]; omega⟩
    next hempty =>
      split at hresult
      · cases hresult
      next hshort =>
        have hnext : CleanTags (if pyStrip raw ∈ kept then kept else kept ++ [pyStrip raw]) ∧
            (if pyStrip raw ∈ kept then kept else kept ++ [pyStrip raw]).length ≤
              kept.length + 1 := by
          split
          · exact ⟨hkept, Nat.le_succ _⟩
          · next hfresh =>
            refine ⟨⟨?_, ?_⟩, by simp⟩
            · intro tag htag
              rcases List.mem_append.mp htag with hold | hnew
              · exact hkept.tag tag hold
              · obtain rfl := List.mem_singleton.mp hnew
                exact ⟨pyStrip_pyStrip raw, hempty, Nat.le_of_not_lt hshort⟩
            · rw [List.nodup_append]
              refine ⟨hkept.nodup, List.nodup_singleton _, ?_⟩
              intro tag htag other hother hsame
              obtain rfl := List.mem_singleton.mp hother
              exact hfresh (hsame ▸ htag)
        obtain ⟨hclean, hlength⟩ := ih hnext.1 hresult
        exact ⟨hclean, by rw [List.length_cons]; omega⟩

theorem CleanTags.collect {kept rest : List String} (htags : CleanTags (kept ++ rest)) :
    collectTags kept rest = .ok (kept ++ rest) := by
  induction rest generalizing kept with
  | nil => rw [List.append_nil, collectTags]
  | cons tag others ih =>
    obtain ⟨hstrip, hnonempty, hshort⟩ := htags.tag tag (by simp)
    have hfresh : tag ∉ kept := by
      intro hmem
      exact (List.nodup_append.mp htags.nodup).2.2 tag hmem tag List.mem_cons_self rfl
    rw [collectTags, hstrip]
    rw [if_neg hnonempty, if_neg (Nat.not_lt.mpr hshort), if_neg hfresh]
    have hshift : kept ++ tag :: others = (kept ++ [tag]) ++ others := by simp
    rw [hshift] at htags ⊢
    exact ih htags

theorem normalizeTaskTags_normalized {tags kept : List String}
    (hkept : normalizeTaskTags tags = .ok kept) : normalizeTaskTags kept = .ok kept := by
  unfold normalizeTaskTags at hkept
  split at hkept
  · cases hkept
  next hfew =>
    split at hkept
    · cases hkept
    next collected hcollected =>
      split at hkept
      · cases hkept
      next hbrief =>
        obtain rfl := Except.ok.inj hkept
        have hnone : CleanTags [] := ⟨by simp, List.nodup_nil⟩
        obtain ⟨hclean, hlength⟩ := hnone.collected hcollected
        have hagain : collectTags [] collected = .ok collected := CleanTags.collect hclean
        rw [List.length_nil] at hlength
        rw [normalizeTaskTags, if_neg (by omega), hagain]
        dsimp only
        rw [if_neg hbrief]

/-- `_normalize_execution_engine`, of a text. -/
def normalizeExecutionEngine (value : Option String) : Except PyError (Option String) :=
  match value with
  | none => .ok none
  | some text =>
    if pyStrip text = "" then .ok none
    else
      let normalized := pyLower (pyStrip text)
      if normalized = "v3" ∨ normalized = "v4" then .ok (some normalized)
      else .error (valueError "execution_engine must be either 'v3' or 'v4'")

theorem normalizeExecutionEngine_normalized {value engine : Option String}
    (hengine : normalizeExecutionEngine value = .ok engine) :
    normalizeExecutionEngine engine = .ok engine := by
  unfold normalizeExecutionEngine at hengine
  split at hengine
  · cases hengine
    rfl
  · split at hengine
    · cases hengine
      rfl
    · dsimp only at hengine
      split at hengine
      · next hknown =>
        cases hengine
        rcases hknown with hsame | hsame
        · rw [hsame]
          decide
        · rw [hsame]
          decide
      · cases hengine

/-! ## Configurations -/

/-- The values that a call gives for the fields of a configuration. -/
structure FieldArgs where
  signAt : Option String := none
  chats : Option (List PyValue) := none
  randomSeconds : Option ℤ := none
  jitterSeconds : Option ℤ := none
  signInterval : Option ℤ := none
  executionMode : Option String := none
  rangeStart : Option String := none
  rangeEnd : Option String := none
  notifyOnFailure : Option Bool := none
  notifyOnSuccess : Option Bool := none
  retryCount : Option ℤ := none
  enabled : Option Bool := none
  tags : Option (List String) := none
  adaptiveScheduleEnabled : Option Bool := none
  adaptiveSchedulePatterns : Option (List PyValue) := none
  adaptiveSchedulePaddingSeconds : Option ℤ := none
  nextTaskOnSuccess : Option String := none
  nextTaskDelaySeconds : Option ℚ := none
  executionEngine : Option String := none

/-- The values that are written. -/
structure FieldValues where
  signAt : String
  chats : List PyValue
  randomSeconds : ℤ
  jitterSeconds : ℤ
  signInterval : ℤ
  executionMode : String
  rangeStart : String
  rangeEnd : String
  notifyOnFailure : Bool
  notifyOnSuccess : Bool
  retryCount : ℤ
  enabled : Bool
  tags : List String
  adaptiveScheduleEnabled : Bool
  adaptiveSchedulePatterns : List PyValue
  adaptiveSchedulePaddingSeconds : ℤ
  nextTaskOnSuccess : Option String
  nextTaskDelaySeconds : Option ℚ
  executionEngine : Option String

def textValue (text : Option String) : PyValue :=
  text.elim .none .str

/-- `build_sign_task_config`. -/
def buildSignTaskConfig (accountName : String) (accountNames : List String)
    (taskGroupId : String) (fields : FieldValues) (lastRun : PyValue := .none) :
    Except PyError Config := do
  let tags ← normalizeTaskTags fields.tags
  let executionEngine ← normalizeExecutionEngine fields.executionEngine
  let config : Config :=
    [("_version", .int 4), ("task_group_id", .str taskGroupId), ("account_name", .str accountName),
      ("account_names", .list (accountNames.map .str)),
      ("sign_at", .str fields.signAt),
      ("random_seconds", .int fields.randomSeconds),
      ("jitter_seconds", .int fields.jitterSeconds),
      ("sign_interval", .int fields.signInterval),
      ("chats", .list fields.chats),
      ("execution_mode", .str fields.executionMode),
      ("range_start", .str fields.rangeStart),
      ("range_end", .str fields.rangeEnd),
      ("notify_on_failure", .bool fields.notifyOnFailure),
      ("notify_on_success", .bool fields.notifyOnSuccess),
      ("retry_count", .int fields.retryCount),
      ("enabled", .bool fields.enabled),
      ("tags", .list (tags.map .str)),
      ("adaptive_schedule_enabled", .bool fields.adaptiveScheduleEnabled),
      ("adaptive_schedule_patterns", .list fields.adaptiveSchedulePatterns),
      ("adaptive_schedule_padding_seconds", .int fields.adaptiveSchedulePaddingSeconds),
      ("next_task_on_success", .str (pyStrip (fields.nextTaskOnSuccess.getD ""))),
      ("next_task_delay_seconds", .float (fields.nextTaskDelaySeconds.getD 2)),
      ("execution_engine", textValue executionEngine)]
  match lastRun with
  | .none => return config
  | lastRun => return config ++ [("last_run", lastRun)]

/-- The value that is given, or else the one that is made of the existing task. -/
def givenOr {α : Type} (given : Option α) (existing : Except PyError α) : Except PyError α :=
  given.elim existing .ok

/-- `resolve_update_field_values`. -/
def Environment.resolveUpdateFieldValues (env : Environment) (existing : TaskInfo)
    (args : FieldArgs) : Except PyError FieldValues := do
  let randomSeconds ← givenOr args.randomSeconds (env.toInt existing.randomSeconds)
  let signInterval ← givenOr args.signInterval (env.toInt existing.signInterval)
  let chats ← givenOr args.chats (Environment.toListOrEmpty existing.chats)
  let tags ← normalizeTaskTags (args.tags.getD existing.tags)
  let executionEngine ← normalizeExecutionEngine
    (match args.executionEngine, existing.executionEngine with
      | some value, _ => some value
      | none, .none => none
      | none, value => some (env.toStr value))
  return {
    signAt := args.signAt.getD
      (if isTrue existing.signAt then env.toStr existing.signAt else "08:00")
    chats
    randomSeconds
    jitterSeconds := args.jitterSeconds.getD existing.jitterSeconds
    signInterval
    executionMode := args.executionMode.getD (env.toStr existing.executionMode)
    rangeStart := args.rangeStart.getD (env.toStr existing.rangeStart)
    rangeEnd := args.rangeEnd.getD (env.toStr existing.rangeEnd)
    notifyOnFailure := args.notifyOnFailure.getD (isTrue existing.notifyOnFailure)
    notifyOnSuccess := args.notifyOnSuccess.getD (isTrue existing.notifyOnSuccess)
    retryCount := args.retryCount.getD existing.retryCount
    enabled := args.enabled.getD (isTrue existing.enabled)
    tags
    adaptiveScheduleEnabled :=
      args.adaptiveScheduleEnabled.getD existing.adaptiveScheduleEnabled
    adaptiveSchedulePatterns :=
      args.adaptiveSchedulePatterns.getD existing.adaptiveSchedulePatterns
    adaptiveSchedulePaddingSeconds :=
      args.adaptiveSchedulePaddingSeconds.getD existing.adaptiveSchedulePaddingSeconds
    nextTaskOnSuccess :=
      some (pyStrip (args.nextTaskOnSuccess.getD existing.nextTaskOnSuccess))
    nextTaskDelaySeconds :=
      some (args.nextTaskDelaySeconds.getD existing.nextTaskDelaySeconds)
    executionEngine }

/-! ## Accounts and groups -/

/-- `create_task_group_id`, with the identifier that is drawn. -/
def createTaskGroupId (accountCount : ℕ) (drawn : String) : String :=
  if accountCount > 1 then drawn else ""

/-- `next_task_group_id`, with the identifier that is drawn. -/
def nextTaskGroupId (existingGroupId : String) (accountCount : ℕ) (drawn : String) : String :=
  let current := pyStrip existingGroupId
  if accountCount > 1 then (if current ≠ "" then current else drawn) else ""

/-- `removed_accounts_diff`. -/
def removedAccountsDiff (existingAccounts targetAccounts : List String) : List String :=
  existingAccounts.filter fun account => account ∉ targetAccounts

/-- `last_run_map_from_related`, at one account: the last entry wins. -/
def lastRunFromRelated (related : List TaskInfo) (account : String) : PyValue :=
  match related.reverse.find? (·.accountName == account) with
  | some task => task.lastRun
  | none => .none

end SignPulse.TaskConfigs
