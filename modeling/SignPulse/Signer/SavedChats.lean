import SignPulse.Flow.LinearRuns
import SignPulse.Signer.ChatGraphs

/-!
# Saved chats

A chat that is saved by `to_jsonable` and loaded again has the same values, but every field of its
actions and steps has been given by then.  So a setting that was left out is no longer looked up
where a node waits.
-/

namespace SignPulse.ChatGraphs

open Foundation
open FlowModels (PyError TERMINAL_COMPLETE_ID pyOrElse)
open GraphData (NodeType)
open ChatCompiler (stepId waitId)
open ChatConfigs

/-! ## Saving and loading -/

/-- The fields of `SignAction`. -/
def actionFields : List String :=
  ["action", "delay", "continue_on_error", "skip_if_matched", "stop_flow_on_terminal",
    "wait_for_reply", "reply_success_patterns", "reply_failure_patterns",
    "reply_timeout_seconds", "reply_retry_keywords", "reply_retry_interval",
    "reply_retry_max_attempts", "semantic_result", "semantic_triage", "semantic_button"]

def kindFields : ActionKind → List String
  | .sendText _ | .clickKeyboardByText _ => ["text"]
  | .sendDice _ => ["dice"]
  | .chooseOptionByImage _ | .replyByCalculationProblem _ | .replyByImageRecognition _
  | .clickButtonByCalculationProblem _ => ["ai_prompt"]
  | .keywordNotify _ =>
    ["keywords", "match_mode", "ignore_case", "ignore_self", "active_time_start",
      "active_time_end", "push_channel", "bark_url", "custom_url", "forward_chat_id",
      "forward_message_thread_id", "continue_chat_id", "continue_message_thread_id",
      "continue_action_interval", "continue_actions"]
  | .plugin _ => ["plugin_name", "mode", "timeout", "params"]

def flowStepFields : List String :=
  ["step_id", "node_type", "name", "next_step_id", "on_failure_step_id", "terminal_policy",
    "terminal_branch_target", "run_if", "skip_if", "timeout_seconds", "retry_policy",
    "loop_policy", "action_type", "params", "config", "cases", "default_target_id", "event_type",
    "filter_patterns", "success_patterns", "failure_patterns", "semantic_result",
    "retry_keywords", "retry_interval", "max_retries", "action_node_id", "delay_seconds",
    "source_field", "regex", "variable_name", "export_vars", "subflow_graph", "subflow_id",
    "input_vars", "output_vars", "branches", "parallel_mode", "max_concurrency", "join_strategy"]

/-- What `model_dump` writes is given when the action is loaded. -/
def reloadAction (act : SignAction) : SignAction :=
  { act with fieldsSet := actionFields ++ kindFields act.kind }

def reloadFlowStep (step : FlowStepConfig) : FlowStepConfig :=
  { step with fieldsSet := flowStepFields }

def reloadStep : StepConfig → StepConfig
  | .workflow step => .workflow step
  | .flow step => .flow (reloadFlowStep step)

/-- `to_jsonable`, and the chat that is loaded from it.  What is popped has its default. -/
def reload (chat : SignChatV3) : SignChatV3 :=
  match chat.flowGraph, chat.steps, chat.actions with
  | some _, _, _ => { chat with actions := none, steps := none, initialStepId := none }
  | none, some steps, _ =>
    { chat with actions := none, steps := some (steps.map reloadStep) }
  | none, none, some actions =>
    { chat with actions := some (actions.map reloadAction), initialStepId := none }
  | none, none, none => chat

/-- The fields of an action that were not given have their defaults. -/
structure ActionDefaulted (act : SignAction) : Prop where
  timeout : "reply_timeout_seconds" ∉ act.fieldsSet → act.replyTimeoutSeconds = 90
  keywords : "reply_retry_keywords" ∉ act.fieldsSet → act.replyRetryKeywords = []
  interval : "reply_retry_interval" ∉ act.fieldsSet → act.replyRetryInterval = 10
  attempts : "reply_retry_max_attempts" ∉ act.fieldsSet → act.replyRetryMaxAttempts = 3

structure StepDefaulted (step : FlowStepConfig) : Prop where
  timeout : "timeout_seconds" ∉ step.fieldsSet → step.timeoutSeconds = 25
  keywords : "retry_keywords" ∉ step.fieldsSet → step.retryKeywords = []
  interval : "retry_interval" ∉ step.fieldsSet → step.retryInterval = 10
  attempts : "max_retries" ∉ step.fieldsSet → step.maxRetries = 3

/-- A chat that the validators accept. -/
structure ValidChat extends SignChatV3 where
  oneSource : [actions.isSome, steps.isSome, flowGraph.isSome].count true = 1
  stepIds : ((steps.getD []).map StepConfig.stepId).Nodup
  actionsDefaulted : ∀ act ∈ actions.getD [], ActionDefaulted act
  stepsDefaulted : ∀ step, .flow step ∈ steps.getD [] → StepDefaulted step

theorem noSteps_defaulted (step : FlowStepConfig)
    (hstep : .flow step ∈ (none : Option (List StepConfig)).getD []) : StepDefaulted step :=
  absurd hstep List.not_mem_nil

/-! ## What decides whether the graph is the same -/

/-- An action that waits for its reply: the keywords are given, and each other setting is given or
has its default in force. -/
def ActionKept (settings : Settings) (act : SignAction) : Prop :=
  act.waitForReply = true → "reply_retry_keywords" ∈ act.fieldsSet ∧
      ("reply_timeout_seconds" ∈ act.fieldsSet ∨ settings.replyTimeout = 90) ∧
      ("reply_retry_interval" ∈ act.fieldsSet ∨ settings.retryInterval = 10) ∧
      ("reply_retry_max_attempts" ∈ act.fieldsSet ∨ settings.retryMaxAttempts = 3)

def StepKept (settings : Settings) : StepConfig → Prop
  | .workflow _ => True
  | .flow step =>
    step.nodeType = .waitEvent → "retry_keywords" ∈ step.fieldsSet ∧
        ("timeout_seconds" ∈ step.fieldsSet ∨ settings.replyTimeout = 30) ∧
        ("retry_interval" ∈ step.fieldsSet ∨ settings.retryInterval = 10) ∧
        ("max_retries" ∈ step.fieldsSet ∨ settings.retryMaxAttempts = 3)

def SettingsKept (settings : Settings) (chat : SignChatV3) : Prop :=
  (∀ act ∈ chat.actions.getD [], ActionKept settings act) ∧
    ∀ step ∈ chat.steps.getD [], StepKept settings step

/-! ## Policies -/

section Policies

variable {settings : Settings}

theorem explicit_eq_iff {α β : Type} (f : α → β) {all fieldsSet : List String} {key : String}
    {value default global : α} (hall : key ∈ all) (hdefault : key ∉ fieldsSet → value = default) :
    f ((explicitSetting all key value).getD global) =
        f ((explicitSetting fieldsSet key value).getD global) ↔
      key ∈ fieldsSet ∨ f default = f global := by
  unfold explicitSetting
  rw [if_pos hall]
  by_cases hgiven : key ∈ fieldsSet
  · rw [if_pos hgiven]
    exact iff_of_true rfl (.inl hgiven)
  · rw [if_neg hgiven, hdefault hgiven, or_iff_right hgiven]
    rfl

theorem WaitPolicy.eq_iff {left right : WaitPolicy} :
    left = right ↔ left.retryKeywords = right.retryKeywords ∧
      left.timeoutSeconds = right.timeoutSeconds ∧ left.retryInterval = right.retryInterval ∧
      left.maxRetries = right.maxRetries := by
  cases left
  cases right
  simp only [WaitPolicy.mk.injEq]
  tauto

theorem clampTimeout_replyTimeout : clampTimeout settings.replyTimeout = settings.replyTimeout := by
  obtain ⟨hlow, hhigh⟩ := settings.replyTimeout_mem
  rw [clampTimeout, min_eq_right (by exact_mod_cast hhigh), max_eq_right (by exact_mod_cast hlow)]

theorem clampInterval_retryInterval :
    clampInterval settings.retryInterval = settings.retryInterval := by
  obtain ⟨hlow, hhigh⟩ := settings.retryInterval_mem
  rw [clampInterval, min_eq_right (by exact_mod_cast hhigh), max_eq_right (by exact_mod_cast hlow)]

theorem clampAttempts_retryMaxAttempts :
    clampAttempts settings.retryMaxAttempts = settings.retryMaxAttempts := by
  obtain ⟨hlow, hhigh⟩ := settings.retryMaxAttempts_mem
  unfold clampAttempts
  omega

theorem clampInterval_ten_eq_iff :
    clampInterval 10 = clampInterval settings.retryInterval ↔ settings.retryInterval = 10 := by
  have hten : clampInterval 10 = ((10 : ℤ) : ℚ) := by decide
  rw [clampInterval_retryInterval, hten, Rat.intCast_inj, eq_comm]

theorem clampAttempts_three_eq_iff : clampAttempts 3 = clampAttempts settings.retryMaxAttempts ↔
      settings.retryMaxAttempts = 3 := by
  rw [clampAttempts_retryMaxAttempts, eq_comm]
  rfl

theorem clampTimeout_ninety_eq_iff :
    clampTimeout 90 = clampTimeout settings.replyTimeout ↔ settings.replyTimeout = 90 := by
  have hninety : clampTimeout 90 = ((90 : ℤ) : ℚ) := by decide
  rw [clampTimeout_replyTimeout, hninety, Rat.intCast_inj, eq_comm]

theorem replyPolicy_reload_iff {act : SignAction} (hdefaulted : ActionDefaulted act) :
    replyPolicy settings (reloadAction act) = replyPolicy settings act ↔
      "reply_retry_keywords" ∈ act.fieldsSet ∧
        ("reply_timeout_seconds" ∈ act.fieldsSet ∨ settings.replyTimeout = 90) ∧
        ("reply_retry_interval" ∈ act.fieldsSet ∨ settings.retryInterval = 10) ∧
        ("reply_retry_max_attempts" ∈ act.fieldsSet ∨ settings.retryMaxAttempts = 3) := by
  have hall : ∀ key ∈ actionFields, key ∈ (reloadAction act).fieldsSet :=
    fun _ hkey => List.mem_append_left _ hkey
  rw [WaitPolicy.eq_iff]
  refine and_congr ?_ (and_congr ?_ (and_congr ?_ ?_))
  · exact (explicit_eq_iff id (hall _ (by decide)) hdefaulted.keywords).trans
      (or_iff_left fun hempty => settings.retryKeywords_ne_nil hempty.symm)
  · rw [← clampTimeout_ninety_eq_iff]
    exact explicit_eq_iff clampTimeout (hall _ (by decide)) hdefaulted.timeout
  · rw [← clampInterval_ten_eq_iff]
    exact explicit_eq_iff clampInterval (hall _ (by decide)) hdefaulted.interval
  · rw [← clampAttempts_three_eq_iff]
    exact explicit_eq_iff clampAttempts (hall _ (by decide)) hdefaulted.attempts

/-- A timeout that is not positive stands for the one in force. -/
def positiveOr (global seconds : ℚ) : ℚ :=
  if 0 < seconds then seconds else global

theorem filter_getD {seconds : Option ℚ} {global : ℚ} :
    (seconds.filter (0 < ·)).getD global = positiveOr global (seconds.getD global) := by
  unfold positiveOr
  cases seconds with
  | none => exact (ite_self global).symm
  | some value =>
    rw [Option.filter_some, Option.getD_some]
    by_cases hpositive : 0 < value
    · rw [if_pos (decide_eq_true hpositive), if_pos hpositive, Option.getD_some]
    · rw [if_neg (by simpa using hpositive), if_neg hpositive, Option.getD_none]

theorem clampTimeout_default_eq_iff : clampTimeout (positiveOr settings.replyTimeout 25) =
        clampTimeout (positiveOr settings.replyTimeout settings.replyTimeout) ↔
      settings.replyTimeout = 30 := by
  have hthirty : clampTimeout 25 = ((30 : ℤ) : ℚ) := by decide
  unfold positiveOr
  rw [if_pos (by decide), ite_self, clampTimeout_replyTimeout, hthirty, Rat.intCast_inj, eq_comm]

theorem eventPolicy_reload_iff {step : FlowStepConfig} (hdefaulted : StepDefaulted step) :
    eventPolicy settings (reloadFlowStep step) = eventPolicy settings step ↔
      "retry_keywords" ∈ step.fieldsSet ∧
        ("timeout_seconds" ∈ step.fieldsSet ∨ settings.replyTimeout = 30) ∧
        ("retry_interval" ∈ step.fieldsSet ∨ settings.retryInterval = 10) ∧
        ("max_retries" ∈ step.fieldsSet ∨ settings.retryMaxAttempts = 3) := by
  have hall : ∀ key ∈ flowStepFields, key ∈ (reloadFlowStep step).fieldsSet := fun _ => id
  rw [WaitPolicy.eq_iff]
  refine and_congr ?_ (and_congr ?_ (and_congr ?_ ?_))
  · exact (explicit_eq_iff id (hall _ (by decide)) hdefaulted.keywords).trans
      (or_iff_left fun hempty => settings.retryKeywords_ne_nil hempty.symm)
  · rw [← clampTimeout_default_eq_iff]
    let bounded (seconds : ℚ) := clampTimeout (positiveOr settings.replyTimeout seconds)
    have hpositive := @explicit_eq_iff ℚ ℚ bounded _ _ _ _ _ settings.replyTimeout
      (hall "timeout_seconds" (by decide)) hdefaulted.timeout
    unfold bounded at hpositive
    rw [← hpositive, ← filter_getD, ← filter_getD]
    exact Iff.rfl
  · rw [← clampInterval_ten_eq_iff]
    exact explicit_eq_iff clampInterval (hall _ (by decide)) hdefaulted.interval
  · rw [← clampAttempts_three_eq_iff]
    exact explicit_eq_iff clampAttempts (hall _ (by decide)) hdefaulted.attempts

end Policies

/-! ## Nodes -/

section Nodes

variable {models : Models} {settings : Settings} {chat loaded : SignChatV3}

/-- The chats tell a node that waits the same. -/
def SameChat (chat loaded : SignChatV3) : Prop :=
  loaded.chatId = chat.chatId ∧ loaded.name = chat.name ∧
    loaded.messageThreadId = chat.messageThreadId

theorem sameChat_reload (chat : SignChatV3) : SameChat chat (reload chat) := by
  unfold reload
  split
  · exact ⟨rfl, rfl, rfl⟩
  · exact ⟨rfl, rfl, rfl⟩
  · exact ⟨rfl, rfl, rfl⟩
  · exact ⟨rfl, rfl, rfl⟩

def nodePolicy (node : ChatNode) : Option WaitPolicy :=
  match node.kind with
  | .waitEvent event =>
    some
      { timeoutSeconds := node.timeoutSeconds
        retryKeywords := event.retryKeywords
        retryInterval := event.retryInterval
        maxRetries := event.maxRetries }
  | _ => none

variable {entryId : String} {step : FlowStepConfig}

theorem nodePolicy_withRetryEntry (node : ChatNode) :
    nodePolicy (withRetryEntry entryId node) = nodePolicy node := by
  unfold withRetryEntry
  split
  · rfl
  · rfl

theorem withChat_congr (hsame : SameChat chat loaded) (entries : Dict String PyValue) :
    withChat loaded entries = withChat chat entries := by
  obtain ⟨hid, hname, hthread⟩ := hsame
  unfold withChat
  rw [hid, hname, hthread]

theorem waitNode_congr (hsame : SameChat chat loaded) {total index : ℕ} {act : SignAction}
    (hpolicy : replyPolicy settings (reloadAction act) = replyPolicy settings act) :
    waitNode settings loaded total index (reloadAction act) =
      waitNode settings chat total index act := by
  obtain ⟨hid, hname, hthread⟩ := hsame
  rw [waitNode, hpolicy, hid, hname, hthread]
  rfl

theorem actionNodes_reload_iff (hsame : SameChat chat loaded) {total index : ℕ}
    {act : SignAction} (hdefaulted : ActionDefaulted act) :
    actionNodes settings loaded total (reloadAction act, index) =
        actionNodes settings chat total (act, index) ↔ ActionKept settings act := by
  have haction : actionNode settings total index (reloadAction act) =
      actionNode settings total index act := rfl
  have hwaits : (reloadAction act).waitForReply = act.waitForReply := rfl
  simp only [actionNodes, ActionKept]
  rw [haction, hwaits]
  cases act.waitForReply with
  | false => exact iff_of_true rfl fun hwait => absurd hwait Bool.false_ne_true
  | true =>
    rw [if_pos rfl, if_pos rfl, imp_iff_right rfl, ← replyPolicy_reload_iff hdefaulted]
    constructor
    · intro hnodes
      have hnode := (Prod.mk.inj (List.cons.inj (List.cons.inj hnodes).2).1).2
      have hpolicy := congrArg nodePolicy hnode
      rw [nodePolicy_withRetryEntry, nodePolicy_withRetryEntry] at hpolicy
      exact Option.some.inj hpolicy
    · intro hpolicy
      rw [waitNode_congr hsame hpolicy]

theorem flowAction_reload (step : FlowStepConfig) :
    flowAction models (reloadFlowStep step) = flowAction models step := by
  unfold flowAction
  rfl

theorem buildNodeFromFlowStep_of_ne (htype : step.nodeType ≠ .waitEvent) :
    buildNodeFromFlowStep models settings loaded (reloadFlowStep step) =
      buildNodeFromFlowStep models settings chat step := by
  have hseconds : resolveFlowStepTimeout settings (reloadFlowStep step) =
      resolveFlowStepTimeout settings step := by
    simp only [resolveFlowStepTimeout, reloadFlowStep]
    cases htype' : step.nodeType with
    | waitEvent => exact absurd htype' htype
    | _ => rfl
  have hkind : flowKind models settings loaded (reloadFlowStep step) =
      flowKind models settings chat step := by
    unfold flowKind
    have hsame : (reloadFlowStep step).nodeType = step.nodeType := rfl
    rw [hsame]
    cases htype' : step.nodeType with
    | waitEvent => exact absurd htype' htype
    | action => exact congrArg Except.ok (flowAction_reload step)
    | _ => rfl
  rw [buildNodeFromFlowStep, hseconds, hkind]
  rfl

theorem buildNodeFromFlowStep_of_policy (hsame : SameChat chat loaded)
    (htype : step.nodeType = .waitEvent)
    (hpolicy : eventPolicy settings (reloadFlowStep step) = eventPolicy settings step) :
    buildNodeFromFlowStep models settings loaded (reloadFlowStep step) =
      buildNodeFromFlowStep models settings chat step := by
  have htype' : (reloadFlowStep step).nodeType = .waitEvent := htype
  have hseconds : resolveFlowStepTimeout settings (reloadFlowStep step) =
      resolveFlowStepTimeout settings step := by
    unfold resolveFlowStepTimeout
    rw [htype, htype', hpolicy]
  have hkind : flowKind models settings loaded (reloadFlowStep step) =
      flowKind models settings chat step := by
    unfold flowKind flowEvent
    rw [htype, htype', hpolicy, withChat_congr hsame]
    rfl
  unfold buildNodeFromFlowStep
  rw [hseconds, hkind]
  rfl

theorem nodePolicy_of_build {node : ChatNode} (htype : step.nodeType = .waitEvent)
    (hbuild : buildNodeFromFlowStep models settings chat step = .ok node) :
    nodePolicy node = some (eventPolicy settings step) := by
  unfold buildNodeFromFlowStep at hbuild
  obtain ⟨retryPolicy, -, hbuild⟩ := bind_eq_ok.mp hbuild
  obtain ⟨loopPolicy, -, hbuild⟩ := bind_eq_ok.mp hbuild
  obtain ⟨⟨metadata, kind⟩, hkind, hbuild⟩ := bind_eq_ok.mp hbuild
  rw [flowKind, htype] at hkind
  obtain ⟨-, rfl⟩ := Prod.mk.inj (Except.ok.inj hkind)
  cases hbuild
  rw [nodePolicy, flowEvent, resolveFlowStepTimeout, htype]

theorem stepEntry_eq_ok {step : StepConfig} {entry : String × ChatNode} :
    stepEntry models settings chat entryId step = .ok entry ↔
      ∃ node, stepNode models settings chat step = .ok node ∧
        entry = (step.stepId, withRetryEntry entryId node) := by
  refine bind_eq_ok.trans (exists_congr fun node => and_congr_right fun _ => ?_)
  exact ⟨fun hentry => (Except.ok.inj hentry).symm, fun hentry => congrArg Except.ok hentry.symm⟩

theorem stepEntry_congr {step : StepConfig}
    (hnode : stepNode models settings loaded (reloadStep step) =
      stepNode models settings chat step) :
    stepEntry models settings loaded entryId (reloadStep step) =
      stepEntry models settings chat entryId step := by
  have hid : (reloadStep step).stepId = step.stepId := by
    cases step with
    | workflow step => rfl
    | flow step => rfl
  unfold stepEntry
  rw [hnode, hid]

theorem stepEntry_reload_iff (hsame : SameChat chat loaded) {step : StepConfig}
    (hdefaulted : ∀ flowStep, step = .flow flowStep → StepDefaulted flowStep)
    {entry : String × ChatNode} (hentry : stepEntry models settings chat entryId step = .ok entry) :
    stepEntry models settings loaded entryId (reloadStep step) =
        stepEntry models settings chat entryId step ↔ StepKept settings step := by
  cases step with
  | workflow step => exact iff_of_true (stepEntry_congr rfl) trivial
  | flow step =>
    by_cases htype : step.nodeType = .waitEvent
    · rw [StepKept, imp_iff_right htype, ← eventPolicy_reload_iff (hdefaulted step rfl)]
      constructor
      · intro hboth
        rw [hentry] at hboth
        obtain ⟨node, hnode, rfl⟩ := stepEntry_eq_ok.mp hentry
        obtain ⟨other, hother, hpair⟩ := stepEntry_eq_ok.mp hboth
        have hpolicy := congrArg nodePolicy (Prod.mk.inj hpair).2
        have hloaded : nodePolicy other = some (eventPolicy settings (reloadFlowStep step)) :=
          nodePolicy_of_build htype hother
        rw [nodePolicy_withRetryEntry, nodePolicy_withRetryEntry,
          nodePolicy_of_build htype hnode, hloaded] at hpolicy
        exact (Option.some.inj hpolicy).symm
      · intro hpolicy
        exact stepEntry_congr (buildNodeFromFlowStep_of_policy hsame htype hpolicy)
    · refine iff_of_true ?_ fun hwait => absurd hwait htype
      exact stepEntry_congr (buildNodeFromFlowStep_of_ne htype)

end Nodes

/-! ## Graphs -/

section Graphs

variable {models : Models} {settings : Settings} {chat loaded : SignChatV3}

/-- Two lists that are put together of parts of the same lengths have the same parts. -/
theorem flatMap_eq_flatMap_iff {α β : Type} {f g : α → List β} {items : List α}
    (hlength : ∀ item ∈ items, (g item).length = (f item).length) :
    items.flatMap g = items.flatMap f ↔ ∀ item ∈ items, g item = f item := by
  induction items with
  | nil => exact iff_of_true rfl fun _ hmem => absurd hmem List.not_mem_nil
  | cons item rest ih =>
    obtain ⟨hitem, hrest⟩ := List.forall_mem_cons.mp hlength
    rw [List.flatMap_cons, List.flatMap_cons, List.forall_mem_cons, ← ih hrest]
    constructor
    · exact fun hboth => List.append_inj hboth hitem
    · rintro ⟨hfirst, hothers⟩
      rw [hfirst, hothers]

def actionIds (item : SignAction × ℕ) : List String :=
  stepId item.2 :: if item.1.waitForReply then [waitId item.2] else []

theorem keyList_actionNodes (total : ℕ) (item : SignAction × ℕ) :
    Dict.keyList (actionNodes settings chat total item) = actionIds item := by
  obtain ⟨act, index⟩ := item
  simp only [Dict.keyList, actionNodes, actionIds]
  cases act.waitForReply with
  | false => rfl
  | true => rfl

theorem mem_actionIds {item : SignAction × ℕ} {id : String} (hid : id ∈ actionIds item) :
    id = stepId item.2 ∨ id = waitId item.2 := by
  obtain hstep | hwait := List.mem_cons.mp hid
  · exact .inl hstep
  · cases hwaits : item.1.waitForReply with
    | false =>
      rw [hwaits] at hwait
      exact absurd hwait List.not_mem_nil
    | true =>
      rw [hwaits] at hwait
      exact .inr (List.mem_singleton.mp hwait)

theorem nodup_actionIds (items : List SignAction) : (items.zipIdx.flatMap actionIds).Nodup := by
  rw [List.nodup_flatMap]
  constructor
  · rintro ⟨act, index⟩ -
    unfold actionIds
    cases act.waitForReply with
    | false => exact List.nodup_singleton _
    | true =>
      refine List.nodup_cons.mpr ⟨?_, List.nodup_singleton _⟩
      exact fun hmem => LinearRuns.stepId_ne_waitId _ _ (List.mem_singleton.mp hmem)
  · have hindices : (items.zipIdx.map Prod.snd).Pairwise (· ≠ ·) := by
      rw [List.zipIdx_map_snd]
      exact List.nodup_range'
    refine (List.pairwise_map.mp hindices).imp ?_
    intro first second hne id hfirst hsecond
    obtain rfl | rfl := mem_actionIds hfirst
    · obtain hstep | hwait := mem_actionIds hsecond
      · exact hne (LinearRuns.stepId_injective hstep)
      · exact LinearRuns.stepId_ne_waitId _ _ hwait
    · obtain hstep | hwait := mem_actionIds hsecond
      · exact LinearRuns.stepId_ne_waitId _ _ hstep.symm
      · exact hne (LinearRuns.waitId_injective hwait)

theorem update_actionNodes (total : ℕ) (items : List SignAction) :
    Dict.update [] (items.zipIdx.flatMap (actionNodes settings chat total)) =
      items.zipIdx.flatMap (actionNodes settings chat total) := by
  refine Dict.update_of_nodup _ ?_
  have hkeys : Dict.keyList (items.zipIdx.flatMap (actionNodes settings chat total)) =
      items.zipIdx.flatMap actionIds := by
    rw [Dict.keyList, List.map_flatMap]
    exact congrArg (items.zipIdx.flatMap ·) (funext (keyList_actionNodes total))
  rw [List.nil_append, hkeys]
  exact nodup_actionIds items

variable {graph : ChatGraph} {steps : List StepConfig}

theorem fromLinearActions_reload_iff (hsame : SameChat chat loaded) {items : List SignAction}
    (hchat : chat.actions.getD [] = items)
    (hloaded : loaded.actions.getD [] = items.map reloadAction)
    (hdefaulted : ∀ act ∈ items, ActionDefaulted act)
    (hgraph : fromLinearActions settings chat = .ok graph) :
    fromLinearActions settings loaded = .ok graph ↔ ∀ act ∈ items, ActionKept settings act := by
  unfold fromLinearActions at hgraph ⊢
  rw [hchat] at hgraph
  rw [hloaded]
  dsimp only at hgraph ⊢
  rw [List.isEmpty_map, List.length_map]
  by_cases hempty : items.isEmpty = true
  · rw [if_pos hempty] at hgraph
    cases hgraph
  · rw [if_neg hempty] at hgraph ⊢
    cases hgraph
    rw [update_actionNodes, update_actionNodes, List.zipIdx_map, List.flatMap_map]
    have hlength : ∀ item ∈ items.zipIdx,
        (actionNodes settings loaded items.length (Prod.map reloadAction id item)).length =
          (actionNodes settings chat items.length item).length := by
      intro item _
      have hids : ∀ chat item, (actionNodes settings chat items.length item).length =
          (actionIds item).length := by
        intro chat item
        rw [← keyList_actionNodes items.length item, Dict.keyList, List.length_map]
      rw [hids, hids]
      rfl
    have hkept : (∀ act ∈ items, ActionKept settings act) ↔
        ∀ item ∈ items.zipIdx, actionNodes settings loaded items.length
          (Prod.map reloadAction id item) = actionNodes settings chat items.length item := by
      have hitems : items = items.zipIdx.map Prod.fst := (List.zipIdx_map_fst 0 items).symm
      constructor
      · intro hall item hitem
        have hmem : item.1 ∈ items := hitems ▸ List.mem_map_of_mem hitem
        exact (actionNodes_reload_iff hsame (hdefaulted _ hmem)).mpr (hall _ hmem)
      · intro hall act hact
        rw [hitems] at hact
        obtain ⟨item, hitem, rfl⟩ := List.mem_map.mp hact
        have hmem : item.1 ∈ items := hitems ▸ List.mem_map_of_mem hitem
        exact (actionNodes_reload_iff hsame (hdefaulted _ hmem)).mp (hall item hitem)
    rw [hkept, ← flatMap_eq_flatMap_iff hlength]
    constructor
    · exact fun hsaved => congrArg ChatGraph.nodes (Except.ok.inj hsaved)
    · intro hnodes
      rw [hnodes]

theorem keyList_of_stepEntries {entryId : String} {entries : List (String × ChatNode)}
    (hrun : steps.mapM (stepEntry models settings chat entryId) = .ok entries) :
    Dict.keyList entries = steps.map StepConfig.stepId := by
  induction steps generalizing entries with
  | nil =>
    rw [List.mapM_nil] at hrun
    cases hrun
    rfl
  | cons step rest ih =>
    rw [List.mapM_cons] at hrun
    obtain ⟨entry, hentry, hrun⟩ := bind_eq_ok.mp hrun
    obtain ⟨others, hothers, hrun⟩ := bind_eq_ok.mp hrun
    cases hrun
    obtain ⟨node, -, rfl⟩ := stepEntry_eq_ok.mp hentry
    exact congrArg (step.stepId :: ·) (ih hothers)

theorem fromWorkflowSteps_reload_iff (hsame : SameChat chat loaded)
    (hinitial : loaded.initialStepId = chat.initialStepId)
    (hids : (steps.map StepConfig.stepId).Nodup)
    (hdefaulted : ∀ step, .flow step ∈ steps → StepDefaulted step)
    (hgraph : fromWorkflowSteps models settings chat steps = .ok graph) :
    fromWorkflowSteps models settings loaded (steps.map reloadStep) = .ok graph ↔
      ∀ step ∈ steps, StepKept settings step := by
  have hstepId : ∀ step, (reloadStep step).stepId = step.stepId := by
    intro step
    cases step with
    | workflow step => rfl
    | flow step => rfl
  have hentryId : entryIdOf loaded (steps.map reloadStep) = entryIdOf chat steps := by
    rw [entryIdOf, hinitial, List.head?_map, Option.map_map]
    exact congrArg (fun first => pyOrElse _ (Option.getD first _))
      (congrArg (Option.map · steps.head?) (funext hstepId))
  have hupdate : ∀ (someChat : SignChatV3) (f : StepConfig → StepConfig),
      (∀ step, (f step).stepId = step.stepId) → ∀ entries,
      (steps.map f).mapM (stepEntry models settings someChat (entryIdOf chat steps)) =
        .ok entries → Dict.update [] entries = entries := by
    intro someChat f hf entries hrun
    refine Dict.update_of_nodup entries ?_
    rw [List.nil_append, keyList_of_stepEntries hrun, List.map_map]
    exact (congrArg (List.map · steps) (funext hf)) ▸ hids
  simp only [fromWorkflowSteps] at hgraph ⊢
  obtain ⟨entries, hentries, hgraph⟩ := bind_eq_ok.mp hgraph
  cases hgraph
  have hnodes : Dict.update [] entries = entries :=
    hupdate chat id (fun _ => rfl) entries (by rwa [List.map_id])
  rw [hentryId, hnodes]
  have hkept : (∀ step ∈ steps, StepKept settings step) ↔
      ∀ step ∈ steps, stepEntry models settings loaded (entryIdOf chat steps) (reloadStep step) =
        stepEntry models settings chat (entryIdOf chat steps) step := by
    refine forall₂_congr fun step hstep => ?_
    obtain ⟨entry, -, hentry⟩ := exists_mem_of_mapM_eq_ok hentries step hstep
    refine (stepEntry_reload_iff hsame ?_ hentry).symm
    rintro flowStep rfl
    exact hdefaulted flowStep hstep
  rw [hkept, ← mapM_eq_ok_iff hentries]
  constructor
  · intro hsaved
    obtain ⟨others, hothers, hsaved⟩ := bind_eq_ok.mp hsaved
    have hsameNodes := congrArg ChatGraph.nodes (Except.ok.inj hsaved)
    dsimp only at hsameNodes
    rw [hupdate loaded reloadStep hstepId others hothers] at hsameNodes
    rw [List.mapM_map, hsameNodes] at hothers
    exact hothers
  · intro hsaved
    refine bind_eq_ok.mpr ⟨entries, ?_, ?_⟩
    · rw [List.mapM_map]
      exact hsaved
    · rw [hnodes]
      rfl

theorem compile_eq_ok : compile models settings chat = .ok graph ↔
      buildGraph models settings chat = .ok graph ∧ models.validate graph = .ok () := by
  unfold compile
  constructor
  · intro hrun
    obtain ⟨built, hbuilt, hrun⟩ := bind_eq_ok.mp hrun
    obtain ⟨checked, hchecked, hrun⟩ := bind_eq_ok.mp hrun
    cases hrun
    exact ⟨hbuilt, hchecked⟩
  · rintro ⟨hbuilt, hchecked⟩
    rw [hbuilt]
    exact bind_eq_ok.mpr ⟨graph, rfl, bind_eq_ok.mpr ⟨(), hchecked, rfl⟩⟩

theorem fromFlowGraph_congr (hsame : SameChat chat loaded) (rawGraph : Dict String PyValue) :
    fromFlowGraph models loaded rawGraph = fromFlowGraph models chat rawGraph := by
  have hnode : chatNode loaded = chatNode chat := by
    funext node
    unfold chatNode
    split
    · rw [withChat_congr hsame]
    · rfl
  unfold fromFlowGraph
  rw [hnode]

theorem ValidChat.sources (chat : ValidChat) :
    (∃ items, chat.actions = some items ∧ chat.steps = none ∧ chat.flowGraph = none) ∨
      (∃ steps, chat.actions = none ∧ chat.steps = some steps ∧ chat.flowGraph = none) ∨
      ∃ rawGraph, chat.actions = none ∧ chat.steps = none ∧ chat.flowGraph = some rawGraph := by
  have hsource := chat.oneSource
  cases hactions : chat.actions <;> cases hsteps : chat.steps <;>
    cases hflow : chat.flowGraph <;> simp [hactions, hsteps, hflow] at hsource ⊢

theorem fromLinearActions_of_none (hactions : chat.actions = none) :
    fromLinearActions settings chat ≠ .ok graph := by
  rw [fromLinearActions, hactions]
  exact nofun

theorem reload_of_actions {items : List SignAction} (hactions : chat.actions = some items)
    (hsteps : chat.steps = none) (hflow : chat.flowGraph = none) :
    (reload chat).actions = some (items.map reloadAction) ∧ (reload chat).steps = none ∧
      (reload chat).flowGraph = none := by
  rw [reload, hflow, hsteps, hactions]
  exact ⟨rfl, rfl, rfl⟩

theorem reload_of_steps (hactions : chat.actions = none) (hsteps : chat.steps = some steps)
    (hflow : chat.flowGraph = none) :
    (reload chat).actions = none ∧ (reload chat).steps = some (steps.map reloadStep) ∧
      (reload chat).flowGraph = none ∧ (reload chat).initialStepId = chat.initialStepId := by
  rw [reload, hflow, hsteps, hactions]
  exact ⟨rfl, rfl, rfl, rfl⟩

theorem reload_of_flowGraph {rawGraph : Dict String PyValue} (hactions : chat.actions = none)
    (hsteps : chat.steps = none) (hflow : chat.flowGraph = some rawGraph) :
    (reload chat).actions = none ∧ (reload chat).steps = none ∧
      (reload chat).flowGraph = some rawGraph := by
  rw [reload, hflow, hsteps, hactions]
  exact ⟨rfl, rfl, rfl⟩

theorem buildGraph_reload_iff (chat : ValidChat)
    (hbuild : buildGraph models settings chat.toSignChatV3 = .ok graph) :
    buildGraph models settings (reload chat.toSignChatV3) = .ok graph ↔
      SettingsKept settings chat.toSignChatV3 := by
  have hsame := sameChat_reload chat.toSignChatV3
  have hactionsDefaulted := chat.actionsDefaulted
  have hstepsDefaulted := chat.stepsDefaulted
  have hids := chat.stepIds
  unfold SettingsKept
  unfold buildGraph at hbuild ⊢
  obtain ⟨items, hactions, hsteps, hflow⟩ | ⟨steps, hactions, hsteps, hflow⟩ |
    ⟨rawGraph, hactions, hsteps, hflow⟩ := chat.sources
  · obtain ⟨hactions', hsteps', hflow'⟩ := reload_of_actions hactions hsteps hflow
    rw [hflow, hsteps] at hbuild
    rw [hflow', hsteps', hsteps, hactions]
    rw [hactions] at hactionsDefaulted
    refine (fromLinearActions_reload_iff hsame (congrArg (Option.getD · []) hactions)
      (congrArg (Option.getD · []) hactions') hactionsDefaulted hbuild).trans ?_
    exact (and_iff_left fun _ hmem => absurd hmem List.not_mem_nil).symm
  · obtain ⟨hactions', hsteps', hflow', hinitial⟩ := reload_of_steps hactions hsteps hflow
    rw [hflow, hsteps] at hbuild
    rw [hflow', hsteps', hsteps, hactions]
    rw [hsteps] at hstepsDefaulted hids
    cases steps with
    | nil => exact absurd hbuild (fromLinearActions_of_none hactions)
    | cons step rest =>
      refine (fromWorkflowSteps_reload_iff hsame hinitial hids hstepsDefaulted hbuild).trans ?_
      exact (and_iff_right fun _ hmem => absurd hmem List.not_mem_nil).symm
  · obtain ⟨hactions', hsteps', hflow'⟩ :=
      reload_of_flowGraph hactions hsteps hflow
    rw [hflow, hsteps] at hbuild
    rw [hflow', hsteps', hsteps, hactions]
    cases rawGraph with
    | nil => exact absurd hbuild (fromLinearActions_of_none hactions)
    | cons entry rest =>
      refine iff_of_true ((fromFlowGraph_congr hsame _).trans hbuild) ⟨?_, ?_⟩
      · exact fun _ hmem => absurd hmem List.not_mem_nil
      · exact fun _ hmem => absurd hmem List.not_mem_nil

/-- A chat that is compiled gives the same graph after it was saved and loaded, under the same
settings, if and only if no setting that its nodes wait with was left out, except where the
default is in force. -/
theorem compile_reload_iff (chat : ValidChat) {graph : ChatGraph}
    (hcompile : compile models settings chat.toSignChatV3 = .ok graph) :
    compile models settings (reload chat.toSignChatV3) = .ok graph ↔
      SettingsKept settings chat.toSignChatV3 := by
  obtain ⟨hbuild, hvalid⟩ := compile_eq_ok.mp hcompile
  rw [compile_eq_ok, and_iff_left hvalid]
  exact buildGraph_reload_iff chat hbuild

/-- The settings of an empty environment. -/
def defaultSettings : Settings :=
  .ofEnvironment (fun _ => none) (fun _ => none) fun _ => none

/-- Models for chats whose steps need none. -/
def plainModels : Models where
  retryPolicy := fun _ => .ok {}
  loopPolicy := fun _ => .ok {}
  fromDict := fun _ => .error { name := "ValidationError" }
  actionOf := fun _ _ => .error { name := "ValidationError" }
  strOf := fun _ => ""
  floatOf := PyValue.number?
  textOf := fun _ => .ok none
  validate := fun _ => .ok ()

/-- A text is sent, and its reply awaited. -/
def waitingChat : ValidChat where
  chatId := 7
  actions := some
    [{ kind := .sendText "签到"
       waitForReply := true
       fieldsSet := ["action", "text", "wait_for_reply"] }]
  steps := none
  oneSource := rfl
  stepIds := List.nodup_nil
  actionsDefaulted := by
    intro act hact
    obtain rfl := List.mem_singleton.mp hact
    exact ⟨fun _ => rfl, fun _ => rfl, fun _ => rfl, fun _ => rfl⟩
  stepsDefaulted := noSteps_defaulted

theorem compile_reload_iff_waitingChat :
    ∃ graph, compile plainModels defaultSettings waitingChat.toSignChatV3 = .ok graph ∧
      (compile plainModels defaultSettings (reload waitingChat.toSignChatV3) = .ok graph ↔
        SettingsKept defaultSettings waitingChat.toSignChatV3) :=
  ⟨_, rfl, compile_reload_iff waitingChat rfl⟩

/-- The default keywords are looked up before the chat is saved, and none after that. -/
theorem compile_reload_ne_waitingChat :
    ∃ graph other, compile plainModels defaultSettings waitingChat.toSignChatV3 = .ok graph ∧
      compile plainModels defaultSettings (reload waitingChat.toSignChatV3) = .ok other ∧
      other ≠ graph := by
  refine ⟨_, _, rfl, rfl, fun hsame => ?_⟩
  have hkeywords := congrArg (fun graph : ChatGraph =>
    graph.nodes.map fun entry => (nodePolicy entry.2).map WaitPolicy.retryKeywords) hsame
  exact absurd hkeywords (by decide)

end Graphs

end SignPulse.ChatGraphs
