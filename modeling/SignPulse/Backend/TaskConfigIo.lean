import SignPulse.Backend.ChainedRuns

/-!
# Changing a task configuration

The transaction of `task_config_io.py` on one configuration file, the revision that it
compares, and the two changes that go through it: the switch of
`toggle_task_enabled` and the checked patch of `semantic/suggestions.py`.
-/

namespace SignPulse.TaskConfigs

open Foundation
open FlowModels (PyError)
open ChainedRuns (Config getEntry isTrue)

def valueError (message : String) : PyError := { name := "ValueError", message }

/-! ## Revisions -/

/-- What `config_revision` looks at: everything but the last run. -/
def business (config : Config) : Config :=
  Dict.popItem config "last_run"

section Revision

-- The digest of a configuration's canonical text.
variable (digest : Config → String)

def configRevision (config : Config) : String :=
  digest (business config)

/-- `update_task_config`, on the file if it exists, as `read_json_safe` reads it. -/
def updateTaskConfig (path : String) (content : Option PyValue)
    (transform : Config → Except PyError Config) (validate : Config → Except PyError Unit)
    (expectedRevision : Option String) : Except PyError Config :=
  match content with
  | none =>
    .error { name := "FileNotFoundError", message := s!"TASK_CONFIG_NOT_FOUND: {path}" }
  | some (.dict current) =>
    let actual := configRevision digest current
    let expected := expectedRevision.getD actual
    if expected ≠ actual then
      .error
        { name := "TaskConfigConflict"
          message := s!"TASK_CONFIG_CHANGED: expected revision {expected}, got {actual}" }
    else
      match transform current with
      | .error error => .error error
      | .ok transformed =>
        let updated :=
          match Dict.getItem current "last_run", Dict.getItem transformed "last_run" with
          | some lastRun, none => Dict.setItem transformed "last_run" lastRun
          | _, _ => transformed
        match validate updated with
        | .error error => .error error
        | .ok _ => .ok updated
  | some _ => .error (valueError s!"TASK_CONFIG_CORRUPTED: {path}")

end Revision

/-- The change of `toggle_task_enabled`. -/
def toggleEnabled (current : Config) : Config :=
  Dict.setItem current "enabled" (.bool !(isTrue (getEntry current "enabled" (.bool true))))

/-! ## Checked patches -/

structure Patch where
  path : String := ""
  op : String := "replace"
  value : Option PyValue := none

/-- `ALL_ALLOWED_LEAF_NAMES`. -/
def allAllowedLeafNames : List String :=
  ["reply_success_patterns", "success_patterns", "text", "intent"]

def forbiddenPrefixes : List String :=
  ["/sign_at", "/random_seconds", "/sign_interval", "/account", "/session", "/credentials"]

/-- `text.startswith(start)`. -/
def startsWith (text start : String) : Bool :=
  start.toList.isPrefixOf text.toList

/-- `token.replace("~" + second, replacement)`. -/
def replaceTilde (second replacement : Char) : List Char → List Char
  | '~' :: char :: rest =>
    if char = second then replacement :: replaceTilde second replacement rest
    else '~' :: replaceTilde second replacement (char :: rest)
  | char :: rest => char :: replaceTilde second replacement rest
  | [] => []

def pointerTokens (path : String) : List String :=
  ((trimChars (· == '/') path.toList).splitOn '/').map fun token =>
    String.ofList (replaceTilde '0' '~' (replaceTilde '1' '/' token))

section Patching

-- What `int` makes of a text for which `str.isdigit` holds.
variable (intOfDigits : String → Option ℕ)

def storeLeaf (op leafName : String) (value : PyValue) : PyValue → Except PyError PyValue
  | .dict entries => .ok (.dict (Dict.setItem entries leafName value))
  | .list items =>
    match intOfDigits leafName with
    | some index =>
      if index < items.length ∧ op = "replace" then .ok (.list (items.set index value))
      else .error (valueError s!"PATCH_TARGET_NOT_FOUND: 列表替换索引越界 '{leafName}'")
    | none =>
      if leafName = "-" ∧ op = "add" then .ok (.list (items ++ [value]))
      else .error (valueError s!"PATCH_TARGET_NOT_FOUND: 非法列表叶子操作 '{leafName}'")
  | _ => .error (valueError "PATCH_TARGET_NOT_FOUND: 父级不是有效容器")

def patchAt (op leafName : String) (value : PyValue) :
    List String → PyValue → Except PyError PyValue
  | [], target => storeLeaf intOfDigits op leafName value target
  | token :: rest, .list items =>
    match intOfDigits token with
    | none => .error (valueError s!"PATCH_TARGET_NOT_FOUND: 预期数字列表索引，得到 '{token}'")
    | some index =>
      match items[index]? with
      | none => .error (valueError s!"PATCH_TARGET_NOT_FOUND: 列表索引越界 '{token}'")
      | some item =>
        (patchAt op leafName value rest item).map fun patched =>
          .list (items.set index patched)
  | token :: rest, .dict entries =>
    match Dict.getItem entries token with
    | none => .error (valueError s!"PATCH_TARGET_NOT_FOUND: 键不存在 '{token}'")
    | some item =>
      (patchAt op leafName value rest item).map fun patched =>
        .dict (Dict.setItem entries token patched)
  | token :: _, _ =>
    .error (valueError s!"PATCH_TARGET_NOT_FOUND: 无法在非容器节点继续导航 '{token}'")

/-- `apply_checked_patch`. -/
def applyCheckedPatch (config : Config) (patch : Patch) : Except PyError Config :=
  let path := pyStrip patch.path
  let tokens := pointerTokens path
  let leafName := tokens.getLastD ""
  if !startsWith path "/" then
    .error (valueError "SEMANTIC_PATCH_UNSUPPORTED: 路径必须为绝对 JSON Pointer")
  else if forbiddenPrefixes.any (startsWith path) || !startsWith path "/chats/" then
    .error (valueError s!"SEMANTIC_PATCH_UNSUPPORTED: 路径 '{path}' 超出允许修改范围")
  else if tokens.length < 3 then
    .error (valueError s!"SEMANTIC_PATCH_UNSUPPORTED: 路径深度不足 '{path}'")
  else if leafName ∉ allAllowedLeafNames then
    .error (valueError s!"SEMANTIC_PATCH_UNSUPPORTED: 叶子字段 '{leafName}' 不允许被修改")
  else if patch.op ≠ "replace" ∧ patch.op ≠ "add" then
    .error (valueError s!"SEMANTIC_PATCH_UNSUPPORTED: 不支持的补丁操作 '{patch.op}'")
  else
    match patch.value with
    | none => .error (valueError "SEMANTIC_PATCH_UNSUPPORTED: 补丁缺少 value 字段")
    | some value =>
      match patchAt intOfDigits patch.op leafName value tokens.dropLast (.dict config) with
      | .ok (.dict patched) => .ok patched
      | .ok _ => .ok config
      | .error error => .error error

def Patch.field (patch : Patch) : String :=
  (pointerTokens (pyStrip patch.path)).headD ""

/-- A path below `/chats/` leads into the chats. -/
theorem field_of_startsWith {patch : Patch}
    (hpath : startsWith (pyStrip patch.path) "/chats/" = true) : patch.field = "chats" := by
  obtain ⟨rest, hrest⟩ := List.isPrefixOf_iff_prefix.mp hpath
  -- trimming leaves the first token, and what starts with a slash or is empty
  have htrimmed : ∃ tail, trimChars (· == '/') (pyStrip patch.path).toList =
      "chats".toList ++ tail ∧ ∀ c ∈ tail.head?, c = '/' := by
    have hdropped : (pyStrip patch.path).toList.dropWhile (· == '/') =
        "chats".toList ++ '/' :: rest := by
      rw [← hrest]
      rfl
    rw [trimChars, hdropped, List.reverse_append, List.dropWhile_append]
    split
    · exact ⟨[], by decide, by simp⟩
    · next hsome =>
      refine ⟨((('/' :: rest).reverse).dropWhile (· == '/')).reverse, by simp, ?_⟩
      intro c hc
      have hsuffix : (('/' :: rest).reverse.dropWhile (· == '/')).reverse <+: '/' :: rest := by
        rw [← List.reverse_suffix, List.reverse_reverse]
        exact List.dropWhile_suffix _
      obtain ⟨others, hothers⟩ := hsuffix
      cases htail : (('/' :: rest).reverse.dropWhile (· == '/')).reverse with
      | nil =>
        rw [htail] at hc
        cases hc
      | cons first tail =>
        rw [htail] at hc hothers
        cases hc
        exact (List.cons.inj hothers).1
  obtain ⟨tail, htail, hhead⟩ := htrimmed
  rw [Patch.field, pointerTokens, htail]
  have hsplit : ∃ others, ("chats".toList ++ tail).splitOn '/' = "chats".toList :: others := by
    cases tail with
    | nil => exact ⟨[], by decide⟩
    | cons c others =>
      obtain rfl : c = '/' := hhead c rfl
      exact ⟨others.splitOn '/', List.splitOn_append_cons_self_of_not_mem (by decide) others⟩
  obtain ⟨others, hothers⟩ := hsplit
  rw [hothers, List.map_cons, List.headD_cons]
  decide

section

variable {config patched : Config} {patch : Patch}
  (hpatched : applyCheckedPatch intOfDigits config patch = .ok patched)

include hpatched

theorem getItem_of_applyCheckedPatch {key : String}
    (hkey : key ≠ patch.field) : Dict.getItem patched key = Dict.getItem config key := by
  simp only [applyCheckedPatch] at hpatched
  split at hpatched
  · cases hpatched
  split at hpatched
  · cases hpatched
  split at hpatched
  · cases hpatched
  next hdeep =>
    split at hpatched
    · cases hpatched
    split at hpatched
    · cases hpatched
    split at hpatched
    · cases hpatched
    · next value _ =>
      -- at least three tokens, so the first one is walked over
      cases htokens : pointerTokens (pyStrip patch.path) with
      | nil => simp [htokens] at hdeep
      | cons token rest =>
        have hfield : patch.field = token := by simp [Patch.field, htokens]
        cases rest with
        | nil => simp [htokens] at hdeep
        | cons second others =>
          rw [htokens, List.dropLast_cons_cons, patchAt] at hpatched
          cases hitem : Dict.getItem config token with
          | none =>
            rw [hitem] at hpatched
            cases hpatched
          | some item =>
            rw [hitem] at hpatched
            dsimp only at hpatched
            cases hinner : patchAt intOfDigits patch.op
                ((token :: second :: others).getLastD "") value
                (second :: others).dropLast item with
            | error error =>
              rw [hinner] at hpatched
              cases hpatched
            | ok inner =>
              rw [hinner] at hpatched
              cases hpatched
              apply Dict.getItem_setItem_of_ne
              rwa [hfield] at hkey

theorem field_of_applyCheckedPatch : patch.field = "chats" := by
  simp only [applyCheckedPatch] at hpatched
  split at hpatched
  · cases hpatched
  split at hpatched
  · cases hpatched
  next hallowed =>
    simp only [Bool.or_eq_true, not_or] at hallowed
    exact field_of_startsWith (by simpa using hallowed.2)

end

end Patching

end SignPulse.TaskConfigs
