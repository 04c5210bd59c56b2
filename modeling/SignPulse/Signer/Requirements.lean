import SignPulse.Signer.GraphData

/-!
# What a chat requires

`requires_ai` and `requires_updates` of `SignChatV3` look through what is configured before a run,
and what a run needs is decided by the graph that is compiled of it.  Both checks walk the same
way: through the steps or the nodes, and through the `subflow_graph` of each.
-/

namespace SignPulse.Requirements

open Foundation
open FlowModels
open ChainedRuns (Config isTrue getEntry)
open ChatCompiler (AI_ACTION_TYPES)
open GraphData

variable (models : Models)

/-- `ai_actions`. -/
def aiActions : List SupportAction :=
  [.chooseOptionByImage, .replyByCalculationProblem, .replyByImageRecognition,
    .clickButtonByCalculationProblem]

/-- `response_actions`. -/
def responseActions : List SupportAction :=
  [.clickKeyboardByText, .chooseOptionByImage, .replyByCalculationProblem,
    .replyByImageRecognition, .clickButtonByCalculationProblem, .keywordNotify]

/-- `_is_ai` and `_is_resp_act`.  A value that cannot be hashed cannot be looked up. -/
def isAmong (actions : List SupportAction) : PyValue → Except PyError Bool
  | .none => .ok false
  | .bool value => .ok (decide ((if value then 1 else 0) ∈ actions.map actionValue))
  | .int value => .ok (decide (value ∈ actions.map actionValue))
  | .float value => .ok (decide (value.num.tdiv value.den ∈ actions.map actionValue))
  | .str text =>
    .ok (decide (text ∈ actions.map actionName) ||
      (models.intOfText text).any fun value => decide (value ∈ actions.map actionValue))
  | _ => .error { name := "TypeError", message := "unhashable type", isTypeError := true }

/-! ## What the compiled graph needs -/

/-- The action that `materialize_action` finds for the text of an action node. -/
def supportAct (actionType : String) : Option SupportAction :=
  let text := pyLower actionType
  if text ∈ ["send_text", "1"] then some .sendText
  else if text ∈ ["click_keyboard", "click_keyboard_by_text", "2"] then
    some .clickKeyboardByText
  else if text ∈ ["custom_plugin", "plugin", "99"] then some .customPlugin
  else none

def reactive (mode : PyValue) : Bool :=
  mode == .str "reactive"

def wantsAi : CompiledKind CompiledGraph → Bool
  | .action rawAction => decide (rawAction.action ∈ aiActions)
  | .textAction actionType _ => decide (pyUpper actionType ∈ AI_ACTION_TYPES)
  | _ => false

def wantsUpdates : CompiledKind CompiledGraph → Bool
  | .waitEvent => true
  | .action rawAction =>
    decide (rawAction.action ∈ responseActions) ||
      (decide (rawAction.action = .customPlugin) && reactive rawAction.mode)
  | .textAction actionType params =>
    match supportAct actionType with
    | some .clickKeyboardByText => true
    | some .customPlugin => reactive (getEntry params "mode" (.str "reactive"))
    | _ => decide (pyUpper actionType ∈ "KEYWORD_NOTIFY" :: AI_ACTION_TYPES)
  | _ => false

def isAction : CompiledKind CompiledGraph → Bool
  | .action _ | .textAction _ _ => true
  | _ => false

/-! ## The checks -/

/-- `node.get("action_type") or node.get("action")`. -/
def nodeAction (node : Config) : PyValue :=
  orElse (getEntry node "action_type") (getEntry node "action")

def nodeShowsAi (node : Config) : Except PyError Bool :=
  isAmong models aiActions (nodeAction node)

/-- `act in (SupportAction.CUSTOM_PLUGIN, 99, "CUSTOM_PLUGIN")`. -/
def isPlugin (act : PyValue) : Bool :=
  act == .int 99 || act == .str "CUSTOM_PLUGIN"

/-- `params.get("mode", "reactive") == "reactive"`. -/
def paramsReactive (node : Config) : Except PyError Bool :=
  match orElse (getEntry node "params") (.dict []) with
  | .dict params => .ok (reactive (getEntry params "mode" (.str "reactive")))
  | _ => .error { name := "AttributeError", message := "object has no attribute 'get'" }

/-- `str(node.get("node_type") or node.get("type") or "").strip().lower()`. -/
def nodeTypeText (node : Config) : String :=
  pyLower (pyStrip (models.toStr
    (orElse (orElse (getEntry node "node_type") (getEntry node "type")) (.str ""))))

def nodeShowsUpdates (node : Config) : Except PyError Bool :=
  if nodeTypeText models node = "wait_event" then .ok true
  else do
    let responds ← isAmong models responseActions (nodeAction node)
    if responds then return true
    if isPlugin (nodeAction node) then paramsReactive node else return false

/-- `getattr(step, "action_type", None)` -/
def stepAction : StepConfig → Option SupportAction
  | .workflow _ actionType _ => some actionType
  | .flow _ _ actionType _ _ _ _ => actionType

/-- `getattr(step, "config", None) or {}` -/
def stepConfig : StepConfig → Config
  | .workflow _ _ config => config
  | .flow _ _ _ _ config _ _ => config.getD []

def stepShowsAi (step : StepConfig) : Bool :=
  (stepAction step).any fun action => decide (action ∈ aiActions)

def waits : StepConfig → Bool
  | .flow _ .waitEvent _ _ _ _ _ => true
  | _ => false

def stepShowsUpdates (step : StepConfig) : Bool :=
  waits step || ((stepAction step).any fun action => decide (action ∈ responseActions)) ||
    (decide (stepAction step = some .customPlugin) &&
      reactive (getEntry (stepConfig step) "mode" (.str "reactive")))

/-- One of the two checks: what in a compiled graph it is there for, and what it looks for at a
step and at a node.  No wait for an event escapes it. -/
structure Check where
  wants : CompiledKind CompiledGraph → Bool
  stepShows : StepConfig → Bool
  nodeShows : Config → Except PyError Bool
  wantsOnly : ∀ kind, wants kind = true → isAction kind = true ∨ kind = .waitEvent
  stepWaits : ∀ step, wants .waitEvent = true → waits step = true → stepShows step = true
  nodeWaits : ∀ node, wants .waitEvent = true → nodeTypeOf models node = .ok .waitEvent →
    nodeShows node = .ok true

theorem ofText_waitEvent {text : String} (htype : NodeType.ofText text = some .waitEvent) :
    text = "wait_event" := by
  unfold NodeType.ofText at htype
  split at htype <;> first | rfl | cases htype

theorem spaceless_waitEvent : ∀ c ∈ "wait_event".toList, isPySpace c = false := by
  have hnone : ("wait_event".toList.any fun c => isPySpace c) = false := rfl
  simpa using hnone

theorem nodeTypeText_of_waitEvent {node : Config}
    (htype : nodeTypeOf models node = .ok .waitEvent) :
    nodeTypeText models node = "wait_event" := by
  simp only [nodeTypeOf] at htype
  split at htype
  · next htrue =>
    split at htype
    · next ntype hof =>
      cases htype
      have hlower := ofText_waitEvent hof
      rw [nodeTypeText, orElse, if_pos htrue, pyStrip_eq_self_of_lower, hlower]
      rw [hlower]
      exact spaceless_waitEvent
    · cases htype
  · cases htype

def aiCheck : Check models where
  wants := wantsAi
  stepShows := stepShowsAi
  nodeShows := nodeShowsAi models
  wantsOnly kind hwants := by
    cases kind <;> first | exact .inl rfl | cases hwants
  stepWaits := nofun
  nodeWaits := nofun

def updatesCheck : Check models where
  wants := wantsUpdates
  stepShows := stepShowsUpdates
  nodeShows := nodeShowsUpdates models
  wantsOnly kind hwants := by
    cases kind <;> first | exact .inl rfl | exact .inr rfl | cases hwants
  stepWaits step _ hwaits := by
    rw [stepShowsUpdates, hwaits]
    rfl
  nodeWaits node _ htype := if_pos (nodeTypeText_of_waitEvent models htype)

/-- `first or next`, both of which may raise. -/
def orNext (first next : Except PyError Bool) : Except PyError Bool :=
  match first with
  | .ok true => .ok true
  | .ok false => next
  | .error error => .error error

def nodeList (graph : Config) : List PyValue :=
  match orElse (getEntry graph "nodes") (.dict []) with
  | .dict nodes => Dict.valueList nodes
  | .list nodes => nodes
  | _ => []

/-- `step.subflow_graph`, of a step of any type. -/
def stepSubflow : StepConfig → Option Config
  | .workflow _ _ _ => none
  | .flow _ _ _ _ _ subflowGraph _ => subflowGraph

variable {models}

namespace Check

variable (check : Check models)

def nodesHave (graphHas : Config → Except PyError Bool) : List PyValue → Except PyError Bool
  | [] => .ok false
  | .dict node :: rest =>
    orNext (check.nodeShows node) <|
      orNext ((subflowOf node).elim (.ok false) graphHas) (nodesHave graphHas rest)
  | _ :: rest => nodesHave graphHas rest

def graphHasLevels : ℕ → Config → Except PyError Bool
  | 0, _ => .ok false
  | levels + 1, graph => check.nodesHave (graphHasLevels levels) (nodeList graph)

/-- `_graph_has_ai` and `_graph_has_updates`.  The set `visited` only keeps them from walking
through the same dictionary again. -/
def graphHas (graph : Config) : Except PyError Bool :=
  check.graphHasLevels (PyValue.dict graph).depth graph

/-- The loop over the steps of a chat. -/
def stepsHave : List StepConfig → Except PyError Bool
  | [] => .ok false
  | step :: rest =>
    if check.stepShows step then .ok true
    else
      orNext ((stepSubflow step).elim (.ok false) check.graphHas) (stepsHave rest)

def requires : FlowSource → Except PyError Bool
  | .steps steps => check.stepsHave steps
  | .flowGraph graph => check.graphHas graph

end Check

/-- `SignChatV3.requires_ai`. -/
def requiresAi (models : Models) : FlowSource → Except PyError Bool :=
  (aiCheck models).requires

/-- `SignChatV3.requires_updates`. -/
def requiresUpdates (models : Models) : FlowSource → Except PyError Bool :=
  (updatesCheck models).requires

/-! ## What the checks see -/

def seenWith (seen : Config → List Config) (graph : Config) : List Config :=
  (nodeList graph).flatMap fun
    | .dict node => node :: (subflowOf node).elim [] seen
    | _ => []

def seenLevels : ℕ → Config → List Config
  | 0, _ => []
  | levels + 1, graph => seenWith (seenLevels levels) graph

/-- The nodes outside all branches, in the order of the walk. -/
def seenNodes (graph : Config) : List Config :=
  seenLevels (PyValue.dict graph).depth graph

def seenOfStep (step : StepConfig) : List Item :=
  .step step :: ((stepSubflow step).elim [] seenNodes).map Item.node

/-- The steps and nodes of a chat that stand outside all branches. -/
def seenItems : FlowSource → List Item
  | .steps steps => steps.flatMap seenOfStep
  | .flowGraph graph => (seenNodes graph).map Item.node

namespace Check

variable (check : Check models)

def shows : Item → Except PyError Bool
  | .step step => .ok (check.stepShows step)
  | .node node => check.nodeShows node

/-- Something that the check looks for stands before all that it cannot read. -/
def Shown (source : FlowSource) : Prop :=
  ∃ before item after, seenItems source = before ++ item :: after ∧
    (∀ passed ∈ before, check.shows passed = .ok false) ∧ check.shows item = .ok true

end Check

theorem anyM_cons {α : Type} (p : α → Except PyError Bool) (item : α) (rest : List α) :
    (item :: rest).anyM p = orNext (p item) (rest.anyM p) := by
  unfold orNext
  rw [List.anyM]
  cases p item with
  | error error => rfl
  | ok value => cases value <;> rfl

theorem orNext_assoc (first second third : Except PyError Bool) :
    orNext (orNext first second) third = orNext first (orNext second third) := by
  cases first with
  | error error => rfl
  | ok value => cases value <;> rfl

@[simp]
theorem false_orNext (next : Except PyError Bool) : orNext (.ok false) next = next := rfl

theorem anyM_append {α : Type} (p : α → Except PyError Bool) (left right : List α) :
    (left ++ right).anyM p = orNext (left.anyM p) (right.anyM p) := by
  induction left with
  | nil => rfl
  | cons item rest ih => rw [List.cons_append, anyM_cons, anyM_cons, ih, orNext_assoc]

theorem anyM_map {α β : Type} (p : β → Except PyError Bool) (f : α → β) (items : List α) :
    (items.map f).anyM p = items.anyM (p ∘ f) := by
  induction items with
  | nil => rfl
  | cons item rest ih => rw [List.map_cons, anyM_cons, anyM_cons, ih]; rfl

/-- The search for a first element ends at it, or before it at one that raises. -/
theorem anyM_eq_true_iff {α : Type} {p : α → Except PyError Bool} {items : List α} :
    items.anyM p = .ok true ↔ ∃ before item after, items = before ++ item :: after ∧
        (∀ passed ∈ before, p passed = .ok false) ∧ p item = .ok true := by
  constructor
  · intro hany
    induction items with
    | nil => cases hany
    | cons item rest ih =>
      rw [anyM_cons] at hany
      cases hitem : p item with
      | error error =>
        rw [hitem] at hany
        cases hany
      | ok value =>
        cases value with
        | true => exact ⟨[], item, rest, rfl, nofun, hitem⟩
        | false =>
          rw [hitem, false_orNext] at hany
          obtain ⟨before, found, after, rfl, hbefore, hfound⟩ := ih hany
          refine ⟨item :: before, found, after, rfl, ?_, hfound⟩
          exact List.forall_mem_cons.mpr ⟨hitem, hbefore⟩
  · rintro ⟨before, item, after, rfl, hbefore, hitem⟩
    induction before with
    | nil => rw [List.nil_append, anyM_cons, hitem]; rfl
    | cons first rest ih =>
      obtain ⟨hfirst, hrest⟩ := List.forall_mem_cons.mp hbefore
      rw [List.cons_append, anyM_cons, hfirst, false_orNext]
      exact ih hrest

namespace Check

variable (check : Check models)

theorem graphHasLevels_eq (levels : ℕ) (graph : Config) :
    check.graphHasLevels levels graph = (seenLevels levels graph).anyM check.nodeShows := by
  induction levels generalizing graph with
  | zero => rfl
  | succ levels ih =>
    unfold graphHasLevels seenLevels seenWith
    induction nodeList graph with
    | nil => rfl
    | cons value rest ihrest =>
      cases value with
      | dict node =>
        have hsub : (subflowOf node).elim (.ok false) (check.graphHasLevels levels) =
            ((subflowOf node).elim [] (seenLevels levels)).anyM check.nodeShows := by
          cases subflowOf node with
          | none => rfl
          | some sub => exact ih sub
        rw [List.flatMap_cons, anyM_append, anyM_cons, orNext_assoc, ← ihrest, ← hsub]
        rfl
      | _ => exact ihrest

theorem graphHas_eq (graph : Config) :
    check.graphHas graph = (seenNodes graph).anyM check.nodeShows :=
  check.graphHasLevels_eq _ graph

theorem requires_eq (source : FlowSource) :
    check.requires source = (seenItems source).anyM check.shows := by
  cases source with
  | flowGraph graph =>
    change check.graphHas graph = ((seenNodes graph).map Item.node).anyM check.shows
    rw [anyM_map, graphHas_eq]
    rfl
  | steps steps =>
    change check.stepsHave steps = (steps.flatMap seenOfStep).anyM check.shows
    induction steps with
    | nil => rfl
    | cons step rest ih =>
      have hsub : (stepSubflow step).elim (.ok false) check.graphHas =
          (((stepSubflow step).elim [] seenNodes).map Item.node).anyM check.shows := by
        rw [anyM_map]
        cases stepSubflow step with
        | none => rfl
        | some sub => exact check.graphHas_eq sub
      rw [List.flatMap_cons, anyM_append, seenOfStep, anyM_cons, orNext_assoc, ← hsub, ← ih]
      rw [stepsHave, shows]
      cases check.stepShows step <;> rfl

theorem shown_iff (source : FlowSource) :
    check.requires source = .ok true ↔ check.Shown source := by
  rw [requires_eq]
  exact anyM_eq_true_iff

/-- Where nothing is in the way, it is enough that something can be seen. -/
theorem shown_of_mem {source : FlowSource} {item : Item} (hmem : item ∈ seenItems source)
    (hshows : check.shows item = .ok true)
    (hreads : ∀ other ∈ seenItems source, ∀ error, check.shows other ≠ .error error) :
    check.Shown source := by
  rw [← shown_iff, requires_eq]
  generalize seenItems source = items at hmem hreads
  induction items with
  | nil => exact absurd hmem List.not_mem_nil
  | cons first rest ih =>
    obtain ⟨hfirst, hrest⟩ := List.forall_mem_cons.mp hreads
    rw [anyM_cons]
    cases hvalue : check.shows first with
    | error error => exact absurd hvalue (hfirst error)
    | ok value =>
      cases value with
      | true => rfl
      | false =>
        obtain rfl | hlater := List.mem_cons.mp hmem
        · exact absurd (hvalue.symm.trans hshows) (by simp)
        · exact ih hlater hrest

end Check

end SignPulse.Requirements
