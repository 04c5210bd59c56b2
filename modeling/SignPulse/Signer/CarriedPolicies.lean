import SignPulse.Signer.GraphParsing
import SignPulse.Signer.SavedChats

/-!
# Semantic policies of graphs

Which semantic policies the nodes of a compiled graph carry, and where in a chat they were
configured: with its actions and steps, in the `config` of a step, or in a graph inside of it.
-/

namespace SignPulse.ChatGraphs

open Foundation
open FlowModels (PyError)
open ChainedRuns (Config getEntry)
open GraphData (NodeType rawNodes nodeTypeOf actionParams)
open ChatCompiler (stepId)
open ChatConfigs

/-! ## Policies -/

/-- A policy whose mode is `observe` or `assist`. -/
def isActive (policy : Config) : Bool :=
  match getEntry policy "mode" with
  | .str mode => decide (mode ∈ ["observe", "assist"])
  | _ => false

def semanticKeys : List String := ["semantic_result", "semantic_button", "semantic_triage"]

def actionPolicies (act : SignAction) : List Config :=
  [act.semanticResult, act.semanticButton, act.semanticTriage].filterMap id

def asPolicy : PyValue → Option Config
  | .dict policy => some policy
  | _ => none

/-- The policies among the parameters of an action. -/
def paramPolicies (params : Config) : List Config :=
  semanticKeys.filterMap fun key => asPolicy (getEntry params key)

/-- The policies of a node: its `semantic_result`, or those of the action that it runs. -/
def nodePolicies (node : ChatNode) : List Config :=
  match node.kind with
  | .waitEvent event => event.semanticResult.toList
  | .action _ params =>
    match node.metadata.rawAction with
    | some act => actionPolicies act
    | none => paramPolicies params
  | _ => []

def nodeGraphs (node : ChatNode) : List ChatGraph :=
  match node.kind with
  | .subflow subflowGraph _ _ _ => subflowGraph.toList
  | .parallel branches _ _ _ => branches
  | _ => []

/-- A node of the graph, or of one inside of it, carries an active policy. -/
inductive Carries : ChatGraph → Prop where
  | here {graph : ChatGraph} {entry : String × ChatNode} {policy : Config}
      (hmem : entry ∈ graph.nodes) (hpolicy : policy ∈ nodePolicies entry.2)
      (hactive : isActive policy = true) : Carries graph
  | inside {graph sub : ChatGraph} {entry : String × ChatNode} (hmem : entry ∈ graph.nodes)
      (hgraph : sub ∈ nodeGraphs entry.2) (hsub : Carries sub) : Carries graph

def Bears (policies : List Config) (graphs : List ChatGraph) : Prop :=
  (∃ policy ∈ policies, isActive policy = true) ∨ ∃ sub ∈ graphs, Carries sub

theorem carries_iff {graph : ChatGraph} : Carries graph ↔
      ∃ entry ∈ graph.nodes, Bears (nodePolicies entry.2) (nodeGraphs entry.2) := by
  constructor
  · intro hcarries
    cases hcarries with
    | here hmem hpolicy hactive => exact ⟨_, hmem, .inl ⟨_, hpolicy, hactive⟩⟩
    | inside hmem hgraph hsub => exact ⟨_, hmem, .inr ⟨_, hgraph, hsub⟩⟩
  · rintro ⟨entry, hmem, ⟨policy, hpolicy, hactive⟩ | ⟨sub, hgraph, hsub⟩⟩
    · exact .here hmem hpolicy hactive
    · exact .inside hmem hgraph hsub

/-! ## Graphs of dictionaries -/

section Dictionaries

variable (classes : NodeClasses)

def entryPolicies (ntype : NodeType) (entries : Config) : List Config :=
  match ntype with
  | .waitEvent =>
    match semanticResultOf classes entries with
    | .ok semanticResult => semanticResult.toList
    | .error _ => []
  | .action =>
    match actionParams classes.toModels entries with
    | .ok params => paramPolicies params
    | .error _ => []
  | _ => []

/-- A node of a configured graph, or of one inside of it, has an active policy. -/
inductive Configured : Config → Prop where
  | here {data nodes entries policy : Config} {nid : String} {ntype : NodeType}
      (hnodes : rawNodes data = .ok nodes) (hmem : (nid, PyValue.dict entries) ∈ nodes)
      (htype : nodeTypeOf classes.toModels entries = .ok ntype)
      (hpolicy : policy ∈ entryPolicies classes ntype entries) (hactive : isActive policy = true) :
      Configured data
  | inside {data nodes entries sub : Config} {dicts : List Config} {nid : String}
      {ntype : NodeType} (hnodes : rawNodes data = .ok nodes)
      (hmem : (nid, PyValue.dict entries) ∈ nodes)
      (htype : nodeTypeOf classes.toModels entries = .ok ntype)
      (hdicts : nestedDicts ntype entries = .ok dicts) (hdict : sub ∈ dicts)
      (hsub : Configured sub) : Configured data

/-- A node keeps the policies of its entries, and its graphs are read. -/
structure ReadAs (readSub : ReadSub) (ntype : NodeType) (entries : Config) (dicts : List Config)
    (node : ChatNode) : Prop where
  hasType : nodeTypeOf classes.toModels entries = .ok ntype
  hasDicts : nestedDicts ntype entries = .ok dicts
  policies : nodePolicies node = entryPolicies classes ntype entries
  graphs : dicts.mapM readSub = .ok (nodeGraphs node)

variable {classes}

theorem readAs_of_readNode {readSub : ReadSub} {nid : String} {value : PyValue} {node : ChatNode}
    (hread : readNode classes readSub nid value = .ok node) :
    ∃ ntype entries dicts, value = .dict entries ∧
      ReadAs classes readSub ntype entries dicts node := by
  cases value with
  | dict entries =>
    obtain ⟨-, -, hread⟩ := bind_eq_ok.mp hread
    obtain ⟨ntype, htype, hread⟩ := bind_eq_ok.mp hread
    obtain ⟨dicts, hdicts, hread⟩ := bind_eq_ok.mp hread
    obtain ⟨nested, hnested, hread⟩ := bind_eq_ok.mp hread
    obtain ⟨kind, hkind, hread⟩ := bind_eq_ok.mp hread
    obtain ⟨-, -, hread⟩ := bind_eq_ok.mp hread
    cases hread
    have hnone : Except.ok [] = nestedDicts ntype entries → dicts.mapM readSub = .ok [] := by
      intro hempty
      obtain rfl := Except.ok.inj (hempty.trans hdicts)
      rfl
    refine ⟨ntype, entries, dicts, rfl, ?_⟩
    cases ntype with
    | action =>
      obtain ⟨actionType, -, hkind⟩ := bind_eq_ok.mp hkind
      obtain ⟨params, hparams, hkind⟩ := bind_eq_ok.mp hkind
      cases hkind
      refine ⟨htype, hdicts, ?_, hnone rfl⟩
      rw [entryPolicies, hparams]
      rfl
    | waitEvent =>
      obtain ⟨semanticResult, hresult, hkind⟩ := bind_eq_ok.mp hkind
      cases hkind
      refine ⟨htype, hdicts, ?_, hnone rfl⟩
      rw [entryPolicies, hresult]
      rfl
    | subflow =>
      cases hkind
      refine ⟨htype, hdicts, rfl, ?_⟩
      rw [hnested]
      cases hdicts
      cases hsub : GraphData.subflowOf entries with
      | none =>
        rw [hsub] at hnested
        cases hnested
        rfl
      | some graph =>
        rw [hsub, Option.toList_some, List.mapM_cons] at hnested
        obtain ⟨sub, -, hnested⟩ := bind_eq_ok.mp hnested
        cases hnested
        rfl
    | parallel =>
      cases hkind
      exact ⟨htype, hdicts, rfl, hnested⟩
    | _ =>
      cases hkind
      exact ⟨htype, hdicts, rfl, hnone rfl⟩
  | _ => cases hread

variable {data : Config} {graph : ChatGraph}

theorem fromDict_eq_ok (hread : fromDict classes data = .ok graph) :
    ∃ nodes, rawNodes data = .ok nodes ∧
      nodes.mapM (readEntry classes (fromDict classes)) = .ok graph.nodes := by
  rw [fromDict_eq] at hread
  obtain ⟨nodes, hnodes, hread⟩ := bind_eq_ok.mp hread
  obtain ⟨entries, hentries, hread⟩ := bind_eq_ok.mp hread
  obtain ⟨-, -, hread⟩ := bind_eq_ok.mp hread
  cases hread
  exact ⟨nodes, hnodes, hentries⟩

theorem readAs_of_mem (hread : fromDict classes data = .ok graph) {entry : String × ChatNode}
    (hmem : entry ∈ graph.nodes) :
    ∃ nodes nid ntype entries dicts, rawNodes data = .ok nodes ∧
      (nid, PyValue.dict entries) ∈ nodes ∧
        ReadAs classes (fromDict classes) ntype entries dicts entry.2 := by
  obtain ⟨nodes, hnodes, hentries⟩ := fromDict_eq_ok hread
  obtain ⟨⟨nid, value⟩, hvalue, hentry⟩ := mem_of_mapM_eq_ok hentries entry hmem
  obtain ⟨node, hnode, hentry⟩ := bind_eq_ok.mp hentry
  cases hentry
  obtain ⟨ntype, entries, dicts, rfl, hreadAs⟩ := readAs_of_readNode hnode
  exact ⟨nodes, nid, ntype, entries, dicts, hnodes, hvalue, hreadAs⟩

theorem exists_readAs {nodes entries : Config} (hread : fromDict classes data = .ok graph)
    (hnodes : rawNodes data = .ok nodes) {nid : String} (hmem : (nid, PyValue.dict entries) ∈ nodes)
    {ntype : NodeType} (htype : nodeTypeOf classes.toModels entries = .ok ntype) :
    ∃ entry ∈ graph.nodes, ∃ dicts,
      ReadAs classes (fromDict classes) ntype entries dicts entry.2 := by
  obtain ⟨others, hsame, hentries⟩ := fromDict_eq_ok hread
  obtain rfl := Except.ok.inj (hnodes.symm.trans hsame)
  obtain ⟨entry, hentryMem, hentry⟩ := exists_mem_of_mapM_eq_ok hentries _ hmem
  obtain ⟨node, hnode, hentry⟩ := bind_eq_ok.mp hentry
  cases hentry
  obtain ⟨other, otherEntries, dicts, hvalue, hreadAs⟩ := readAs_of_readNode hnode
  obtain rfl := PyValue.dict.inj hvalue
  obtain rfl := Except.ok.inj (htype.symm.trans hreadAs.hasType)
  exact ⟨_, hentryMem, dicts, hreadAs⟩

theorem configured_of_carries (hcarries : Carries graph) (hread : fromDict classes data = .ok graph)
    : Configured classes data := by
  induction hcarries generalizing data with
  | here hmem hpolicy hactive =>
    obtain ⟨nodes, nid, ntype, entries, dicts, hnodes, hvalue, hreadAs⟩ :=
      readAs_of_mem hread hmem
    exact .here hnodes hvalue hreadAs.hasType (hreadAs.policies ▸ hpolicy) hactive
  | inside hmem hgraph hsub ih =>
    obtain ⟨nodes, nid, ntype, entries, dicts, hnodes, hvalue, hreadAs⟩ :=
      readAs_of_mem hread hmem
    obtain ⟨dict, hdict, hsubRead⟩ := mem_of_mapM_eq_ok hreadAs.graphs _ hgraph
    exact .inside hnodes hvalue hreadAs.hasType hreadAs.hasDicts hdict (ih hsubRead)

theorem carries_of_configured (hconfigured : Configured classes data)
    (hread : fromDict classes data = .ok graph) :
    Carries graph := by
  induction hconfigured generalizing graph with
  | here hnodes hmem htype hpolicy hactive =>
    obtain ⟨entry, hentry, dicts, hreadAs⟩ := exists_readAs hread hnodes hmem htype
    exact .here hentry (hreadAs.policies.symm ▸ hpolicy) hactive
  | inside hnodes hmem htype hdicts hdict hsub ih =>
    obtain ⟨entry, hentry, dicts, hreadAs⟩ := exists_readAs hread hnodes hmem htype
    obtain rfl := Except.ok.inj (hdicts.symm.trans hreadAs.hasDicts)
    obtain ⟨sub, hsubMem, hsubRead⟩ := exists_mem_of_mapM_eq_ok hreadAs.graphs _ hdict
    exact .inside hentry hsubMem (ih hsubRead)

theorem carries_iff_configured (hread : fromDict classes data = .ok graph) :
    Carries graph ↔ Configured classes data :=
  ⟨fun hcarries => configured_of_carries hcarries hread,
    fun hconfigured => carries_of_configured hconfigured hread⟩

end Dictionaries

/-! ## Chats -/

/-- The models, where graphs are read by `from_dict`. -/
def Models.reading (models : Models) (classes : NodeClasses) : Models :=
  { models with fromDict := ChatGraphs.fromDict classes }

section Chats

variable (classes : NodeClasses) (models : Models)

def stepPolicies : StepConfig → List Config
  | .workflow step =>
    match actionFromStep models step.stepId (some step.actionType) step.config with
    | .ok act => actionPolicies act
    | .error _ => []
  | .flow step =>
    match step.nodeType with
    | .waitEvent => step.semanticResult.toList
    | .action =>
      let config := step.config.getD []
      match actionFromStep models step.stepId step.actionType (Dict.update config step.params) with
      | .ok act => actionPolicies act
      | .error _ => paramPolicies (Dict.update step.params config)
    | _ => []

def stepGraphs : StepConfig → List Config
  | .workflow _ => []
  | .flow step =>
    match step.nodeType with
    | .subflow => (step.subflowGraph.filter fun graph => !graph.isEmpty).toList
    | .parallel => step.branches
    | _ => []

def ActionActive (act : SignAction) : Prop :=
  ∃ policy ∈ actionPolicies act, isActive policy = true

def StepActive (step : StepConfig) : Prop :=
  (∃ policy ∈ stepPolicies models step, isActive policy = true) ∨
    ∃ graph ∈ stepGraphs step, Configured classes graph

/-- An active policy is configured somewhere in the chat. -/
def ChatConfigured (chat : SignChatV3) : Prop :=
  (∃ act ∈ chat.actions.getD [], ActionActive act) ∨
    (∃ step ∈ chat.steps.getD [], StepActive classes models step) ∨
      ∃ rawGraph ∈ chat.flowGraph, Configured classes rawGraph

variable {classes models} {settings : Settings} {chat : SignChatV3}

variable {entryId : String} {graph : ChatGraph}

theorem nodePolicies_withRetryEntry (node : ChatNode) :
    nodePolicies (withRetryEntry entryId node) = nodePolicies node := by
  unfold withRetryEntry
  split
  · next event hkind =>
    unfold nodePolicies
    rw [hkind]
  · rfl

theorem nodeGraphs_withRetryEntry (node : ChatNode) :
    nodeGraphs (withRetryEntry entryId node) = nodeGraphs node := by
  unfold withRetryEntry
  split
  · rfl
  · rfl

theorem nodePolicies_chatNode (node : ChatNode) :
    nodePolicies (chatNode chat node) = nodePolicies node := by
  unfold chatNode
  split
  · next event hkind =>
    unfold nodePolicies
    rw [hkind]
  · rfl

theorem nodeGraphs_chatNode (node : ChatNode) :
    nodeGraphs (chatNode chat node) = nodeGraphs node := by
  unfold chatNode
  split
  · rfl
  · rfl

/-! ### Actions -/

theorem bears_actionNodes {total : ℕ} {item : SignAction × ℕ} :
    (∃ entry ∈ actionNodes settings chat total item,
      Bears (nodePolicies entry.2) (nodeGraphs entry.2)) ↔ ActionActive item.1 := by
  obtain ⟨act, index⟩ := item
  have haction : Bears (nodePolicies (actionNode settings total index act))
      (nodeGraphs (actionNode settings total index act)) ↔ ActionActive act :=
    or_iff_left fun hgraph => by
      obtain ⟨sub, hsub, -⟩ := hgraph
      exact absurd hsub List.not_mem_nil
  have hwait : Bears
      (nodePolicies (withRetryEntry (stepId 0) (waitNode settings chat total index act)))
      (nodeGraphs (withRetryEntry (stepId 0) (waitNode settings chat total index act))) →
        ActionActive act := by
    rw [nodePolicies_withRetryEntry, nodeGraphs_withRetryEntry]
    rintro (⟨policy, hpolicy, hactive⟩ | ⟨sub, hsub, -⟩)
    · have hresult : act.semanticResult = some policy := Option.mem_toList.mp hpolicy
      refine ⟨policy, ?_, hactive⟩
      rw [actionPolicies, hresult]
      exact List.mem_cons_self
    · exact absurd hsub List.not_mem_nil
  constructor
  · rintro ⟨entry, hentry, hbears⟩
    obtain rfl | hmore := List.mem_cons.mp hentry
    · exact haction.mp hbears
    · split at hmore
      · obtain rfl := List.mem_singleton.mp hmore
        exact hwait hbears
      · exact absurd hmore List.not_mem_nil
  · intro hactive
    exact ⟨_, List.mem_cons_self, haction.mpr hactive⟩

theorem carries_fromLinearActions (hgraph : fromLinearActions settings chat = .ok graph) :
    Carries graph ↔ ∃ act ∈ chat.actions.getD [], ActionActive act := by
  simp only [fromLinearActions] at hgraph
  split at hgraph
  · cases hgraph
  · cases hgraph
    generalize chat.actions.getD [] = items
    have hitems : items = items.zipIdx.map Prod.fst := (List.zipIdx_map_fst 0 items).symm
    rw [carries_iff]
    rw [update_actionNodes]
    constructor
    · rintro ⟨entry, hentry, hbears⟩
      obtain ⟨item, hitem, hmem⟩ := List.mem_flatMap.mp hentry
      exact ⟨item.1, hitems ▸ List.mem_map_of_mem hitem, bears_actionNodes.mp ⟨entry, hmem, hbears⟩⟩
    · rintro ⟨act, hact, hactive⟩
      rw [hitems] at hact
      obtain ⟨item, hitem, rfl⟩ := List.mem_map.mp hact
      obtain ⟨entry, hentry, hbears⟩ := bears_actionNodes.mpr hactive
      exact ⟨entry, List.mem_flatMap.mpr ⟨item, hitem, hentry⟩, hbears⟩

/-! ### Steps -/

theorem stepNode_policies {step : StepConfig} {node : ChatNode}
    (hnode : stepNode models settings chat step = .ok node) :
    nodePolicies node = stepPolicies models step ∧
      (stepGraphs step).mapM models.fromDict = .ok (nodeGraphs node) := by
  cases step with
  | workflow step =>
    obtain ⟨act, hact, hnode⟩ := bind_eq_ok.mp hnode
    obtain ⟨target, -, hnode⟩ := bind_eq_ok.mp hnode
    obtain ⟨runIf, -, hnode⟩ := bind_eq_ok.mp hnode
    obtain ⟨skipIf, -, hnode⟩ := bind_eq_ok.mp hnode
    cases hnode
    refine ⟨?_, rfl⟩
    simp only [stepPolicies]
    rw [hact]
    rfl
  | flow step =>
    obtain ⟨retryPolicy, -, hnode⟩ := bind_eq_ok.mp hnode
    obtain ⟨loopPolicy, -, hnode⟩ := bind_eq_ok.mp hnode
    obtain ⟨⟨metadata, kind⟩, hkind, hnode⟩ := bind_eq_ok.mp hnode
    cases hnode
    unfold flowKind at hkind
    simp only [stepPolicies, stepGraphs]
    cases htype : step.nodeType with
    | action =>
      rw [htype] at hkind
      dsimp only at hkind ⊢
      simp only [flowAction] at hkind
      cases hact : actionFromStep models step.stepId step.actionType
          (Dict.update (step.config.getD []) step.params) with
      | ok act =>
        rw [hact] at hkind
        obtain ⟨rfl, rfl⟩ := Prod.mk.inj (Except.ok.inj hkind)
        exact ⟨rfl, rfl⟩
      | error error =>
        rw [hact] at hkind
        obtain ⟨rfl, rfl⟩ := Prod.mk.inj (Except.ok.inj hkind)
        exact ⟨rfl, rfl⟩
    | subflow =>
      rw [htype] at hkind
      obtain ⟨subflowGraph, hgraph, hkind⟩ := bind_eq_ok.mp hkind
      obtain ⟨rfl, rfl⟩ := Prod.mk.inj (Except.ok.inj hkind)
      refine ⟨rfl, ?_⟩
      cases hgiven : step.subflowGraph.filter fun graph => !graph.isEmpty with
      | none =>
        rw [hgiven] at hgraph
        cases hgraph
        rfl
      | some given =>
        rw [hgiven] at hgraph
        obtain ⟨sub, hsub, hgraph⟩ := bind_eq_ok.mp hgraph
        cases hgraph
        rw [Option.toList_some, List.mapM_cons, hsub]
        rfl
    | parallel =>
      rw [htype] at hkind
      obtain ⟨branches, hbranches, hkind⟩ := bind_eq_ok.mp hkind
      obtain ⟨rfl, rfl⟩ := Prod.mk.inj (Except.ok.inj hkind)
      exact ⟨rfl, hbranches⟩
    | _ =>
      rw [htype] at hkind
      obtain ⟨rfl, rfl⟩ := Prod.mk.inj (Except.ok.inj hkind)
      exact ⟨rfl, rfl⟩

theorem carries_mapM {dicts : List Config} {graphs : List ChatGraph}
    (hread : dicts.mapM (fromDict classes) = .ok graphs) :
    (∃ graph ∈ graphs, Carries graph) ↔ ∃ dict ∈ dicts, Configured classes dict := by
  constructor
  · rintro ⟨graph, hgraph, hcarries⟩
    obtain ⟨dict, hdict, hone⟩ := mem_of_mapM_eq_ok hread graph hgraph
    exact ⟨dict, hdict, (carries_iff_configured hone).mp hcarries⟩
  · rintro ⟨dict, hdict, hconfigured⟩
    obtain ⟨graph, hgraph, hone⟩ := exists_mem_of_mapM_eq_ok hread dict hdict
    exact ⟨graph, hgraph, (carries_iff_configured hone).mpr hconfigured⟩

theorem bears_stepEntry {step : StepConfig} {entry : String × ChatNode}
    (hentry : stepEntry (models.reading classes) settings chat entryId step = .ok entry) :
    Bears (nodePolicies entry.2) (nodeGraphs entry.2) ↔ StepActive classes models step := by
  obtain ⟨node, hnode, rfl⟩ := stepEntry_eq_ok.mp hentry
  obtain ⟨hpolicies, hgraphs⟩ := stepNode_policies hnode
  rw [nodePolicies_withRetryEntry, nodeGraphs_withRetryEntry, hpolicies]
  exact or_congr Iff.rfl (carries_mapM hgraphs)

theorem carries_fromWorkflowSteps {steps : List StepConfig}
    (hids : (steps.map StepConfig.stepId).Nodup)
    (hgraph : fromWorkflowSteps (models.reading classes) settings chat steps = .ok graph) :
    Carries graph ↔ ∃ step ∈ steps, StepActive classes models step := by
  obtain ⟨entries, hentries, hgraph⟩ := bind_eq_ok.mp hgraph
  cases hgraph
  have hnodes : Dict.update [] entries = entries := by
    refine Dict.update_of_nodup entries ?_
    rwa [List.nil_append, keyList_of_stepEntries hentries]
  rw [carries_iff]
  rw [hnodes]
  constructor
  · rintro ⟨entry, hentry, hbears⟩
    obtain ⟨step, hstep, hone⟩ := mem_of_mapM_eq_ok hentries entry hentry
    exact ⟨step, hstep, (bears_stepEntry hone).mp hbears⟩
  · rintro ⟨step, hstep, hactive⟩
    obtain ⟨entry, hentry, hone⟩ := exists_mem_of_mapM_eq_ok hentries step hstep
    exact ⟨entry, hentry, (bears_stepEntry hone).mpr hactive⟩

/-! ### All chats -/

theorem carries_fromFlowGraph {rawGraph : Config}
    (hgraph : fromFlowGraph (models.reading classes) chat rawGraph = .ok graph) :
    Carries graph ↔ Configured classes rawGraph := by
  obtain ⟨parsed, hparsed, hgraph⟩ := bind_eq_ok.mp hgraph
  cases hgraph
  have hread : fromDict classes rawGraph = .ok parsed := hparsed
  rw [← carries_iff_configured hread, carries_iff, carries_iff]
  constructor
  · rintro ⟨entry, hentry, hbears⟩
    obtain ⟨first, hfirst, rfl⟩ := List.mem_map.mp hentry
    rw [nodePolicies_chatNode, nodeGraphs_chatNode] at hbears
    exact ⟨first, hfirst, hbears⟩
  · rintro ⟨first, hfirst, hbears⟩
    refine ⟨_, List.mem_map_of_mem hfirst, ?_⟩
    rwa [nodePolicies_chatNode, nodeGraphs_chatNode]

theorem carries_compile (valid : ValidChat)
    (hcompile : compile (models.reading classes) settings valid.toSignChatV3 = .ok graph) :
    Carries graph ↔ ChatConfigured classes models valid.toSignChatV3 := by
  obtain ⟨hbuild, -⟩ := compile_eq_ok.mp hcompile
  unfold buildGraph at hbuild
  unfold ChatConfigured
  obtain ⟨items, hactions, hsteps, hflow⟩ | ⟨steps, hactions, hsteps, hflow⟩ |
    ⟨rawGraph, hactions, hsteps, hflow⟩ := valid.sources
  · rw [hflow, hsteps] at hbuild
    rw [carries_fromLinearActions hbuild, hflow, hsteps]
    simp
  · rw [hflow, hsteps] at hbuild
    rw [hflow, hsteps, hactions]
    have hids := valid.stepIds
    rw [hsteps] at hids
    cases steps with
    | nil => exact absurd hbuild (fromLinearActions_of_none hactions)
    | cons first rest =>
      rw [carries_fromWorkflowSteps hids hbuild]
      simp
  · rw [hflow, hsteps] at hbuild
    rw [hflow, hsteps, hactions]
    cases rawGraph with
    | nil => exact absurd hbuild (fromLinearActions_of_none hactions)
    | cons first rest =>
      rw [carries_fromFlowGraph hbuild]
      simp

end Chats

end SignPulse.ChatGraphs
