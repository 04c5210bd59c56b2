import SignPulse.Signer.Requirements

/-!
# Runs that have what they need

Whether a chat whose graph needs the update stream, or the configuration of the AI, says so before
it runs.  The checks do not look into the branches of parallel nodes, and know an action only by
the texts and numbers of its enumeration.
-/

namespace SignPulse.Requirements

open Foundation
open FlowModels
open ChainedRuns (Config isTrue getEntry)
open GraphData

variable {models : Models}

/-- Some node needs what the check is there for, at any depth of subflows and branches. -/
inductive Contains (check : Check models) : CompiledGraph → Prop where
  | here {graph : CompiledGraph} {item : String × CompiledNode CompiledGraph}
      (hmem : item ∈ graph.nodes) (hwants : check.wants item.2.kind = true) :
      Contains check graph
  | subflow {graph sub : CompiledGraph} {item : String × CompiledNode CompiledGraph}
      (hmem : item ∈ graph.nodes) (hkind : item.2.kind = .subflow (some sub))
      (hsub : Contains check sub) : Contains check graph
  | branch {graph branch : CompiledGraph} {branches : List CompiledGraph}
      {item : String × CompiledNode CompiledGraph} (hmem : item ∈ graph.nodes)
      (hkind : item.2.kind = .parallel branches) (hbranch : branch ∈ branches)
      (hsub : Contains check branch) : Contains check graph

/-- Some node needs it unseen: in a branch, or as an action that the check does not know. -/
inductive Hides (check : Check models) : CompiledGraph → Prop where
  | unknown {graph : CompiledGraph} {item : String × CompiledNode CompiledGraph}
      (hmem : item ∈ graph.nodes) (haction : isAction item.2.kind = true)
      (hwants : check.wants item.2.kind = true)
      (hunseen : check.shows item.2.source ≠ .ok true) : Hides check graph
  | subflow {graph sub : CompiledGraph} {item : String × CompiledNode CompiledGraph}
      (hmem : item ∈ graph.nodes) (hkind : item.2.kind = .subflow (some sub))
      (hsub : Hides check sub) : Hides check graph
  | branch {graph branch : CompiledGraph} {branches : List CompiledGraph}
      {item : String × CompiledNode CompiledGraph} (hmem : item ∈ graph.nodes)
      (hkind : item.2.kind = .parallel branches) (hbranch : branch ∈ branches)
      (hsub : Contains check branch) : Hides check graph

variable {check : Check models} {graph : CompiledGraph} {data entries : Config} {levels : ℕ}
variable {kind : CompiledKind CompiledGraph} {readSub : ReadSub}

theorem Hides.contains (hhides : Hides check graph) : Contains check graph := by
  induction hhides with
  | unknown hmem _ hwants _ => exact .here hmem hwants
  | subflow hmem hkind _ ih => exact .subflow hmem hkind ih
  | branch hmem hkind hbranch hsub => exact .branch hmem hkind hbranch hsub

/-- What is needed is not seen, or a value that the check cannot read is in the way. -/
def Uncovered (check : Check models) (source : FlowSource) (graph : CompiledGraph) : Prop :=
  Hides check graph ∨
    Contains check graph ∧ ∃ item ∈ seenItems source, ∃ error, check.shows item = .error error

/-- The checks ask for all that the compiled graph needs. -/
structure Prepared (models : Models) (source : FlowSource) (graph : CompiledGraph) : Prop where
  updates : Contains (updatesCheck models) graph → requiresUpdates models source = .ok true
  ai : Contains (aiCheck models) graph → requiresAi models source = .ok true

/-! ## Compiled nodes and their sources -/

theorem nodeList_of_rawNodes {entries : Dict String PyValue} (hraw : rawNodes data = .ok entries) :
    nodeList data = Dict.valueList entries := by
  unfold rawNodes at hraw
  unfold nodeList getEntry
  split at hraw
  · next hnone =>
    obtain rfl := Except.ok.inj hraw
    rw [hnone]
    rfl
  · next nodes hsome =>
    obtain rfl := Except.ok.inj hraw
    rw [hsome]
    cases nodes <;> rfl
  · cases hraw

theorem mem_seenLevels {node : Config} (hnode : PyValue.dict node ∈ nodeList data) :
    node ∈ seenLevels (levels + 1) data := by
  exact List.mem_flatMap.mpr ⟨_, hnode, List.mem_cons_self⟩

theorem mem_seenLevels_of_subflow {node sub inner : Config}
    (hnode : PyValue.dict node ∈ nodeList data) (hsub : subflowOf node = some sub)
    (hinner : inner ∈ seenLevels levels sub) : inner ∈ seenLevels (levels + 1) data := by
  refine List.mem_flatMap.mpr ⟨_, hnode, List.mem_cons_of_mem node ?_⟩
  rw [hsub]
  exact hinner

theorem isAction_of_actionKind (hkind : actionKind models entries = .ok kind) :
    isAction kind = true := by
  obtain ⟨_, _, hnext⟩ := bind_eq_ok.mp hkind
  obtain ⟨_, _, hnext⟩ := bind_eq_ok.mp hnext
  cases hnext
  rfl

theorem of_subflowKind (hkind : subflowKind readSub entries = .ok kind) : kind = .subflow none ∨
      ∃ graph sub, subflowOf entries = some graph ∧ readSub graph = .ok sub ∧
        kind = .subflow (some sub) := by
  unfold subflowKind at hkind
  split at hkind
  · next graph hgraph =>
    obtain ⟨sub, hread, hnext⟩ := bind_eq_ok.mp hkind
    exact .inr ⟨graph, sub, hgraph, hread, (Except.ok.inj hnext).symm⟩
  · exact .inl (Except.ok.inj hkind).symm

theorem of_parallelKind (hkind : parallelKind readSub entries = .ok kind) :
    ∃ branches, kind = .parallel branches := by
  obtain ⟨branches, _, hnext⟩ := bind_eq_ok.mp hkind
  exact ⟨branches, (Except.ok.inj hnext).symm⟩

theorem waitEvent_of_kindOf {ntype : NodeType}
    (hkind : kindOf models readSub ntype entries = .ok .waitEvent) : ntype = .waitEvent := by
  cases ntype with
  | waitEvent => rfl
  | action => exact absurd (isAction_of_actionKind hkind) Bool.false_ne_true
  | subflow => obtain hnone | ⟨_, _, _, _, hsome⟩ := of_subflowKind hkind <;> contradiction
  | parallel =>
    obtain ⟨_, hparallel⟩ := of_parallelKind hkind
    contradiction
  | condition | extractor | delay => cases hkind

theorem subflow_of_kindOf {ntype : NodeType} {sub : CompiledGraph}
    (hkind : kindOf models readSub ntype entries = .ok (.subflow (some sub))) :
    ∃ graph, subflowOf entries = some graph ∧ readSub graph = .ok sub := by
  cases ntype with
  | subflow =>
    obtain hnone | ⟨graph, found, hgraph, hread, hsome⟩ := of_subflowKind hkind
    · cases hnone
    · cases hsome
      exact ⟨graph, hgraph, hread⟩
  | action => exact absurd (isAction_of_actionKind hkind) Bool.false_ne_true
  | parallel =>
    obtain ⟨_, hparallel⟩ := of_parallelKind hkind
    contradiction
  | waitEvent | condition | extractor | delay => cases hkind

theorem isAction_flowActionKind (actionType : Option SupportAction) (params config : Config) :
    isAction (flowActionKind models actionType params config) = true := by
  unfold flowActionKind
  split <;> rfl

theorem of_flowSubflowKind {subflowGraph : Option Config}
    (hkind : flowSubflowKind models subflowGraph = .ok kind) :
    kind = .subflow none ∨
      ∃ graph sub, subflowGraph = some graph ∧ fromDict models graph = .ok sub ∧
        kind = .subflow (some sub) := by
  unfold flowSubflowKind at hkind
  split at hkind
  · next graph hgraph =>
    obtain ⟨sub, hread, hnext⟩ := bind_eq_ok.mp hkind
    have hsome := (Option.filter_eq_some_iff.mp hgraph).1
    exact .inr ⟨graph, sub, hsome, hread, (Except.ok.inj hnext).symm⟩
  · exact .inl (Except.ok.inj hkind).symm

theorem waits_of_buildNode {step : StepConfig} (hkind : buildNode models step = .ok .waitEvent) :
    waits step = true := by
  cases step with
  | workflow stepId actionType config =>
    obtain ⟨_, _, hnext⟩ := bind_eq_ok.mp hkind
    cases hnext
  | flow stepId nodeType actionType params config subflowGraph branches =>
    cases nodeType with
    | waitEvent => rfl
    | action =>
      have haction :=
        @isAction_flowActionKind models actionType params (config.getD [])
      rw [Except.ok.inj hkind] at haction
      cases haction
    | subflow =>
      obtain hnone | ⟨_, _, _, _, hsome⟩ := of_flowSubflowKind hkind <;> contradiction
    | parallel =>
      obtain ⟨_, _, hnext⟩ := bind_eq_ok.mp hkind
      cases hnext
    | condition | extractor | delay => cases hkind

theorem subflow_of_buildNode {step : StepConfig} {sub : CompiledGraph}
    (hkind : buildNode models step = .ok (.subflow (some sub))) :
    ∃ graph, stepSubflow step = some graph ∧ fromDict models graph = .ok sub := by
  cases step with
  | workflow stepId actionType config =>
    obtain ⟨_, _, hnext⟩ := bind_eq_ok.mp hkind
    cases hnext
  | flow stepId nodeType actionType params config subflowGraph branches =>
    cases nodeType with
    | subflow =>
      obtain hnone | ⟨graph, found, hgraph, hread, hsome⟩ := of_flowSubflowKind hkind
      · cases hnone
      · cases hsome
        exact ⟨graph, hgraph, hread⟩
    | action =>
      have haction :=
        @isAction_flowActionKind models actionType params (config.getD [])
      rw [Except.ok.inj hkind] at haction
      cases haction
    | parallel =>
      obtain ⟨_, _, hnext⟩ := bind_eq_ok.mp hkind
      cases hnext
    | waitEvent | condition | extractor | delay => cases hkind

/-! ## The walk covers the rest -/

theorem source_of_readNode {nid : String} {value : PyValue} {node : CompiledNode CompiledGraph}
    (hread : readNode models readSub nid value = .ok node) :
    node.kind = .other ∨ ∃ entries ntype, value = .dict entries ∧ node.source = .node entries ∧
        nodeTypeOf models entries = .ok ntype ∧
        kindOf models readSub ntype entries = .ok node.kind := by
  cases value with
  | dict entries =>
    obtain ⟨_, _, hnext⟩ := bind_eq_ok.mp hread
    obtain ⟨ntype, htype, hnext⟩ := bind_eq_ok.mp hnext
    obtain ⟨kind, hkind, hnext⟩ := bind_eq_ok.mp hnext
    obtain ⟨_, _, hnext⟩ := bind_eq_ok.mp hnext
    cases hnext
    exact .inr ⟨entries, ntype, rfl, rfl, htype, hkind⟩
  | _ =>
    cases hread
    exact .inl rfl

theorem source_of_mem (hread : fromDictLevels models (levels + 1) data = .ok graph)
    {item : String × CompiledNode CompiledGraph} (hmem : item ∈ graph.nodes) :
    item.2.kind = .other ∨
      ∃ entries ntype, PyValue.dict entries ∈ nodeList data ∧ item.2.source = .node entries ∧
        nodeTypeOf models entries = .ok ntype ∧
        kindOf models (fromDictLevels models levels) ntype entries = .ok item.2.kind := by
  obtain ⟨raw, hraw, hnext⟩ := bind_eq_ok.mp hread
  obtain ⟨nodes, hnodes, hnext⟩ := bind_eq_ok.mp hnext
  obtain ⟨_, _, hnext⟩ := bind_eq_ok.mp hnext
  cases hnext
  obtain ⟨entry, hentry, hbuilt⟩ := mem_of_mapM_eq_ok hnodes item hmem
  obtain ⟨node, hnode, hnext⟩ := bind_eq_ok.mp hbuilt
  cases hnext
  obtain hother | ⟨entries, ntype, hvalue, hsource, htype, hkind⟩ := source_of_readNode hnode
  · exact .inl hother
  · refine .inr ⟨entries, ntype, ?_, hsource, htype, hkind⟩
    rw [nodeList_of_rawNodes hraw, ← hvalue]
    exact List.mem_map_of_mem hentry

theorem hidden_or_seen (hread : fromDictLevels models levels data = .ok graph)
    (hcontains : Contains check graph) :
    Hides check graph ∨ ∃ node ∈ seenLevels levels data, check.nodeShows node = .ok true := by
  induction levels generalizing data graph with
  | zero => cases hread
  | succ levels ih =>
    cases hcontains with
    | here hmem hwants =>
      obtain hother | ⟨entries, ntype, hentries, hsource, htype, hkind⟩ :=
        source_of_mem hread hmem
      · rw [hother] at hwants
        obtain haction | hwait := check.wantsOnly _ hwants
        · cases haction
        · cases hwait
      · by_cases hshows : check.nodeShows entries = .ok true
        · exact .inr ⟨entries, mem_seenLevels hentries, hshows⟩
        · obtain haction | hwait := check.wantsOnly _ hwants
          · refine .inl (.unknown hmem haction hwants ?_)
            rw [hsource]
            exact hshows
          · rw [hwait] at hwants hkind
            obtain rfl := waitEvent_of_kindOf hkind
            exact absurd (check.nodeWaits entries hwants htype) hshows
    | subflow hmem hsub hinner =>
      obtain hother | ⟨entries, ntype, hentries, hsource, htype, hkind⟩ :=
        source_of_mem hread hmem
      · exact absurd (hother.symm.trans hsub) nofun
      · rw [hsub] at hkind
        obtain ⟨sub, hsubflow, hreadSub⟩ := subflow_of_kindOf hkind
        obtain hhides | ⟨node, hnode, hshows⟩ := ih hreadSub hinner
        · exact .inl (.subflow hmem hsub hhides)
        · exact .inr ⟨node, mem_seenLevels_of_subflow hentries hsubflow hnode, hshows⟩
    | branch hmem hparallel hbranch hinner =>
      exact .inl (.branch hmem hparallel hbranch hinner)

/-- The same for a whole chat. -/
theorem hidden_or_seen_item {source : FlowSource} (hcompile : compile models source = .ok graph)
    (hcontains : Contains check graph) :
    Hides check graph ∨ ∃ item ∈ seenItems source, check.shows item = .ok true := by
  cases source with
  | flowGraph data =>
    have hread : fromDict models data = .ok graph := by
      cases data with
      | nil => cases hcompile
      | cons entry rest => exact hcompile
    obtain hhides | ⟨node, hnode, hshows⟩ := hidden_or_seen hread hcontains
    · exact .inl hhides
    · exact .inr ⟨.node node, List.mem_map_of_mem hnode, hshows⟩
  | steps steps =>
    obtain ⟨nodes, hnodes, hnext⟩ := bind_eq_ok.mp hcompile
    cases hnext
    have hstep : ∀ item ∈ nodes, ∃ step ∈ steps, item.2.source = .step step ∧
        buildNode models step = .ok item.2.kind := by
      intro item hmem
      obtain ⟨step, hstep, hbuilt⟩ := mem_of_mapM_eq_ok hnodes item hmem
      obtain ⟨kind, hkind, hnext⟩ := bind_eq_ok.mp hbuilt
      cases hnext
      exact ⟨step, hstep, rfl, hkind⟩
    cases hcontains with
    | here hmem hwants =>
      obtain ⟨step, hmemStep, hsource, hkind⟩ := hstep _ hmem
      by_cases hshows : check.stepShows step = true
      · refine .inr ⟨.step step, ?_, congrArg Except.ok hshows⟩
        exact List.mem_flatMap.mpr ⟨step, hmemStep, List.mem_cons_self⟩
      · obtain haction | hwait := check.wantsOnly _ hwants
        · refine .inl (.unknown hmem haction hwants ?_)
          rw [hsource]
          exact fun htrue => hshows (Except.ok.inj htrue)
        · rw [hwait] at hwants hkind
          exact absurd (check.stepWaits step hwants (waits_of_buildNode hkind)) hshows
    | subflow hmem hsub hinner =>
      obtain ⟨step, hmemStep, hsource, hkind⟩ := hstep _ hmem
      rw [hsub] at hkind
      obtain ⟨sub, hsubflow, hread⟩ := subflow_of_buildNode hkind
      obtain hhides | ⟨node, hnode, hshows⟩ := hidden_or_seen hread hinner
      · exact .inl (.subflow hmem hsub hhides)
      · refine .inr ⟨.node node, ?_, hshows⟩
        refine List.mem_flatMap.mpr ⟨step, hmemStep, List.mem_cons_of_mem _ ?_⟩
        rw [hsubflow]
        exact List.mem_map_of_mem hnode
    | branch hmem hparallel hbranch hinner =>
      exact .inl (.branch hmem hparallel hbranch hinner)

theorem asks_iff (check : Check models) {source : FlowSource}
    (hcompile : compile models source = .ok graph) :
    (Contains check graph → check.requires source = .ok true) ↔
      (Uncovered check source graph → check.Shown source) := by
  rw [check.shown_iff source]
  constructor
  · rintro hasks (hhides | ⟨hcontains, _⟩)
    · exact hasks hhides.contains
    · exact hasks hcontains
  · intro hshown hcontains
    by_cases hblocked : ∃ item ∈ seenItems source, ∃ error, check.shows item = .error error
    · exact hshown (.inr ⟨hcontains, hblocked⟩)
    · obtain hhides | ⟨item, hitem, hshows⟩ := hidden_or_seen_item hcompile hcontains
      · exact hshown (.inl hhides)
      · apply check.shown_of_mem hitem hshows
        exact fun other hother error herror => hblocked ⟨other, hother, error, herror⟩

/-- A run has what its graph needs just where what is hidden from a check stands beside something
that the check sees. -/
theorem prepared_iff {source : FlowSource} {graph : CompiledGraph}
    (hcompile : compile models source = .ok graph) :
    Prepared models source graph ↔
      (Uncovered (updatesCheck models) source graph → (updatesCheck models).Shown source) ∧
        (Uncovered (aiCheck models) source graph → (aiCheck models).Shown source) := by
  rw [← asks_iff _ hcompile, ← asks_iff _ hcompile]
  exact ⟨fun hprepared => ⟨hprepared.updates, hprepared.ai⟩, fun hboth => ⟨hboth.1, hboth.2⟩⟩

/-! ## A branch that waits -/

/-- Model classes that accept what is given below. -/
def plainModels : Models where
  strOf _ := ""
  intOfText _ := none
  acceptsNode _ _ := .ok ()
  acceptsGraph _ := .ok ()
  acceptsAction _ _ := .ok ()
  paramsOf _ := .error { name := "ValidationError" }

def waitGraph : PyValue :=
  .dict [("entry_node_id", .str "w"),
    ("nodes", .dict [("w", .dict [("node_type", .str "wait_event")])])]

def parallelNode : String × PyValue :=
  ("p", .dict [("node_type", .str "parallel"), ("branches", .list [waitGraph])])

/-- Two actions beside the branch, one that reads messages and one for the AI. -/
def besides : Config :=
  [("entry_node_id", .str "a"),
    ("nodes", .dict
      [("a", .dict [("action_type", .str "CLICK_KEYBOARD_BY_TEXT"),
          ("params", .dict [("text", .str "Sign in")]), ("next_node_id", .str "b")]),
        ("b", .dict [("action_type", .str "REPLY_BY_IMAGE_RECOGNITION"),
          ("next_node_id", .str "p")]),
        parallelNode])]

theorem prepared_besides : ∃ graph, compile plainModels (.flowGraph besides) = .ok graph ∧
      Prepared plainModels (.flowGraph besides) graph := by
  refine ⟨_, rfl, ?_⟩
  apply (prepared_iff rfl).mpr
  constructor
  · exact fun _ => ((updatesCheck plainModels).shown_iff _).mp (by decide)
  · exact fun _ => ((aiCheck plainModels).shown_iff _).mp (by decide)

/-- The branch alone: its wait stands in the compiled graph, and no update stream is asked for. -/
theorem branch_unseen : ∃ graph, compile plainModels
        (.flowGraph [("entry_node_id", .str "p"), ("nodes", .dict [parallelNode])]) = .ok graph ∧
      ¬ Prepared plainModels
        (.flowGraph [("entry_node_id", .str "p"), ("nodes", .dict [parallelNode])]) graph := by
  refine ⟨_, rfl, fun hprepared => ?_⟩
  have hwait : Contains (updatesCheck plainModels)
      { nodes := [("w", { source := .node [("node_type", .str "wait_event")]
                          kind := .waitEvent })] } :=
    .here List.mem_cons_self rfl
  have hasks := hprepared.updates (.branch List.mem_cons_self rfl List.mem_cons_self hwait)
  revert hasks
  decide

end SignPulse.Requirements
