import SignPulse.Flow.PlainVisits
import SignPulse.Flow.RunReport
import SignPulse.Flow.TargetAgreement

/-!
# Unreachable nodes

The validator reports the nodes that its search from the entry does not visit.
A run stays on the visited nodes as long as it follows the edges of the search.
It leaves them by a target that the search does not follow: the error handler,
the entry of a restart, and an edge that the engine reads differently.
-/

namespace SignPulse.Reachability

open Foundation
open FlowModels
open FlowContext
open RunEnvironment
open TargetAliases
open NodeRuns
open FlowEngine
open EngineLaws
open NodeLaws
open RunLogs
open RunReport
open PlainVisits
open GraphNormalizer
open LoopCheck
open TargetAgreement

variable {World Call : Type}

/-! ## The nodes that the search from the entry visits -/

theorem entryVisited_explored (graph : ExecutionGraph) :
    Search.Explored (skips graph) (neighbors graph) [graph.entryNodeId] [] [graph.entryNodeId] []
      (Search.traceFrom (skips graph) (neighbors graph) (searchBound graph) [graph.entryNodeId]) :=
  Search.traceFrom_explored (skips_keys graph)
    (Nat.lt_succ_of_le (by simp [Dict.keyList])) [graph.entryNodeId]

variable {graph : ExecutionGraph} {nodeId text : String} {node : Node} {outcome : StepOutcome}
variable {state after : RunState World Call}

theorem entry_visited (hlive : skips graph graph.entryNodeId = false) :
    graph.entryNodeId ∈ entryVisited graph :=
  (entryVisited_explored graph).reached _ List.mem_cons_self hlive

theorem neighbor_visited {target : String} (hnode : nodeId ∈ entryVisited graph)
    (hedge : target ∈ neighbors graph nodeId) (hlive : skips graph target = false) :
    target ∈ entryVisited graph :=
  (entryVisited_explored graph).settled nodeId hnode List.not_mem_nil target hedge hlive

/-! ## Where a step leads -/

/-- The end of the run, no node, or a node that the search from the entry
visits. -/
def OnMap (graph : ExecutionGraph) (nodeId : String) : Prop :=
  atTerminal nodeId = true ∨ Dict.hasKey graph.nodes nodeId = false ∨ nodeId ∈ entryVisited graph

instance (graph : ExecutionGraph) (nodeId : String) : Decidable (OnMap graph nodeId) :=
  inferInstanceAs (Decidable (_ ∨ _ ∨ _))

/-- The targets by which the step after an outcome can leave the node. -/
inductive StepTarget (graph : ExecutionGraph) (node : Node) (outcome : StepOutcome) :
    Option String → Prop where
  | next : StepTarget graph node outcome (pyOr node.nextNodeId (some TERMINAL_COMPLETE_ID))
  | failure (hfailed : goesOn outcome = false) :
      StepTarget graph node outcome (pyOr (fallbackTarget graph node) (some TERMINAL_FAIL_ID))
  | terminalBranch :
      StepTarget graph node outcome
        (pyOr (pyOr node.terminalBranchTarget node.nextNodeId) (some TERMINAL_COMPLETE_ID))
  | branch (hsignal : outcome.signal = .branch)
      (htarget : truthy outcome.targetNodeId = true) :
      StepTarget graph node outcome outcome.targetNodeId

theorem followEdge_target (hagain : followEdge graph node outcome state = .again after) :
    ∃ target, StepTarget graph node outcome target ∧ after.currentId = normalizeTarget target := by
  cases hstatus : goesOn outcome with
  | true => exact ⟨_, .next, followEdge_success hstatus hagain⟩
  | false => exact ⟨_, .failure hstatus, followEdge_failure hstatus hagain⟩

theorem followPolicy_target (hagain : followPolicy graph node outcome state = .again after) :
    ∃ target, StepTarget graph node outcome target ∧ after.currentId = normalizeTarget target := by
  unfold followPolicy at hagain
  split at hagain
  · split at hagain
    · cases hagain
    · cases hagain
      exact ⟨_, .terminalBranch, rfl⟩
    · exact followEdge_target hagain
  · exact followEdge_target hagain

theorem followSignal_target (hagain : followSignal graph node outcome state = .again after) :
    ∃ target, StepTarget graph node outcome target ∧ after.currentId = normalizeTarget target := by
  unfold followSignal at hagain
  split at hagain
  · cases hagain
  · cases hagain
  · next hsignal =>
    split at hagain
    · next htarget =>
      cases hagain
      exact ⟨_, .branch hsignal htarget, rfl⟩
    · exact followPolicy_target hagain
  · exact followPolicy_target hagain

theorem settle_target (hagain : settle graph node outcome state = .again after) :
    ∃ target, StepTarget graph node outcome target ∧ after.currentId = normalizeTarget target := by
  simp only [settle] at hagain
  split at hagain
  · cases hagain
  · split at hagain
    · cases hagain
    · exact followSignal_target hagain

theorem visitNode_target {env : Env World Call} {runSub : SubRun World Call} {key : String}
    {visit : Visit Call (RunLog Call)} {ctx : ScopedFlowContext}
    (hrun : VisitRun env runSub graph key node state.ctx state.world visit ctx)
    (hagain : visitNode env runSub graph node state = .again after) :
    ∃ outcome, visit.outcome = some outcome ∧ ∃ target,
      StepTarget graph node outcome target ∧ after.currentId = normalizeTarget target := by
  cases hrun with
  | guardRaised hguard =>
    simp only [visitNode, hguard] at hagain
    cases hagain
  | skipped hguard =>
    simp only [visitNode, hguard] at hagain
    cases hagain
    exact ⟨_, rfl, _, .next, rfl⟩
  | interrupted hguard hexit =>
    have hrun : VisitRun env runSub graph key node state.ctx state.world _ _ :=
      .interrupted hguard hexit
    obtain ⟨departure, hleave, -⟩ := visitNode_none hrun rfl
    rw [hleave] at hagain
    cases hagain
  | settled hguard hexit =>
    rw [visitNode_settled hguard hexit] at hagain
    exact ⟨_, rfl, settle_target hagain⟩

/-- The executor never sends the run to a node of its choice. -/
def ExecutorNeverBranches (env : Env World Call) : Prop :=
  ∀ node ctx world outcome, (env.executor node ctx world).exit = .returned outcome →
    outcome.signal ≠ .branch

theorem visitRun_branch {env : Env World Call} (hnever : ExecutorNeverBranches env)
    {runSub : SubRun World Call} {key : String} {before after : ScopedFlowContext} {world : World}
    {visit : Visit Call (RunLog Call)}
    (hrun : VisitRun env runSub graph key node before world visit after)
    (houtcome : visit.outcome = some outcome) (hsignal : outcome.signal = .branch) :
    outcome.targetNodeId ∈ branchTargets node := by
  cases hrun with
  | guardRaised hguard => cases houtcome
  | interrupted hguard hexit => cases houtcome
  | skipped hguard =>
    cases houtcome
    cases hsignal
  | settled hguard hexit =>
    cases houtcome
    refine attemptsOf_outcome
      (fun outcome => outcome.signal = .branch → outcome.targetNodeId ∈ branchTargets node)
      ?_ ?_ hexit ?_ hsignal
    · intro ctx start result hresult hbranch
      rcases executeNode_outcome hresult with hown | ⟨earlier, begun, hexecutor⟩
      · exact hown.branch hbranch
      · exact absurd hbranch (hnever _ _ _ _ hexecutor)
    · intro result _ hproceed _ hbranch
      rw [hproceed] at hbranch
      cases hbranch
    · intro last _ hbranch
      cases hbranch

/-! ## Staying on the map -/

/-- The step of a visit takes no target that the search does not follow, unless
the node there is visited by the search all the same. -/
structure StaysOnMap (graph : ExecutionGraph) (visit : Visit Call (RunLog Call)) : Prop where
  /-- The engine reads an edge as the validator does. -/
  edges : ∀ text ∈ neighbors graph visit.key,
    text ∈ sentinels ∨ Plain text ∨ OnMap graph (resolveAlias text)
  /-- A failed node has an edge of its own, or the error handler is on the map. -/
  handler : ∀ outcome, visit.outcome = some outcome → goesOn outcome = false →
    truthy visit.node.onFailureNodeId = false → graph.errorHandlerNodeId ≠ some visit.node.id →
        OnMap graph (normalizeTarget graph.errorHandlerNodeId)
  /-- A wait node that starts the flow again does so on the map. -/
  restart : ∀ outcome, visit.outcome = some outcome → outcome.signal = .branch →
    ∀ config, visit.node.kind = .waitEvent config →
      OnMap graph (normalizeTarget config.retryEntryNodeId)
  stored : visit.node.id = visit.key

theorem onMap_complete (graph : ExecutionGraph) : OnMap graph TERMINAL_COMPLETE_ID :=
  Or.inl (by decide)

theorem onMap_fail (graph : ExecutionGraph) : OnMap graph TERMINAL_FAIL_ID :=
  Or.inl (by decide)

theorem onMap_sentinel (graph : ExecutionGraph) (htext : text ∈ sentinels) :
    OnMap graph (resolveAlias text) := by
  have hterminal : ∀ sentinel ∈ sentinels, atTerminal (resolveAlias sentinel) = true := by
    decide
  exact Or.inl (hterminal text htext)

theorem onMap_neighbor (hnode : nodeId ∈ entryVisited graph) (hedge : text ∈ neighbors graph nodeId)
    (hread : text ∈ sentinels ∨ Plain text ∨ OnMap graph (resolveAlias text)) :
    OnMap graph (resolveAlias text) := by
  by_cases hsentinel : text ∈ sentinels
  · exact onMap_sentinel graph hsentinel
  · rcases hread with hmem | hplain | hmap
    · exact absurd hmem hsentinel
    · rw [resolveAlias_of_plain hplain]
      by_cases hkey : Dict.hasKey graph.nodes text = true
      · have hlive : skips graph text = false := by simp [skips, hsentinel, hkey]
        exact Or.inr (Or.inr (neighbor_visited hnode hedge hlive))
      · exact Or.inr (Or.inl (Bool.eq_false_iff.mpr hkey))
    · exact hmap

theorem mem_neighbors (hnode : Dict.getItem graph.nodes nodeId = some node)
    (hedge : some text ∈ (nodeEdges nodeId node).map Prod.snd) (htext : text ≠ "") :
    text ∈ neighbors graph nodeId := by
  obtain ⟨edge, hmem, htarget⟩ := List.mem_map.mp hedge
  rw [neighbors, hnode]
  exact List.mem_filterMap.mpr ⟨edge, hmem, by simp [htarget, htext]⟩

section Visit

variable {graph : ExecutionGraph} {visit : Visit Call (RunLog Call)}

variable {target : Option String} {outcome : StepOutcome}

theorem onMap_edge (hstays : StaysOnMap graph visit) (hvisited : visit.key ∈ entryVisited graph)
    (hnode : Dict.getItem graph.nodes visit.key = some visit.node)
    (hedge : target ∈ (nodeEdges visit.key visit.node).map Prod.snd) :
    OnMap graph (normalizeTarget target) := by
  cases target with
  | none => exact onMap_complete graph
  | some text =>
    by_cases htext : text = ""
    · rw [htext]
      exact onMap_complete graph
    · rw [normalizeTarget_some htext]
      have hmem := mem_neighbors hnode hedge htext
      exact onMap_neighbor hvisited hmem (hstays.edges text hmem)

theorem onMap_pyOr {first second : Option String} (hfirst : OnMap graph (normalizeTarget first))
    (hsecond : OnMap graph (normalizeTarget second)) :
    OnMap graph (normalizeTarget (pyOr first second)) := by
  unfold pyOr
  split
  · exact hfirst
  · exact hsecond

theorem onMap_normalized (hmap : OnMap graph (normalizeTarget target)) :
    OnMap graph (normalizeTarget (some (normalizeTarget target))) := by
  by_cases hblank : normalizeTarget target = ""
  · rw [hblank]
    exact onMap_complete graph
  · rw [normalizeTarget_some hblank, resolveAlias_normalizeTarget]
    exact hmap

section

variable (hstays : StaysOnMap graph visit) (hvisited : visit.key ∈ entryVisited graph)
  (hnode : Dict.getItem graph.nodes visit.key = some visit.node)
  (houtcome : visit.outcome = some outcome)

include hstays hvisited hnode houtcome

theorem onMap_fallback (hfailed : goesOn outcome = false) :
    OnMap graph (normalizeTarget (fallbackTarget graph visit.node)) := by
  unfold fallbackTarget
  split
  · next hhandler =>
    simp only [Bool.and_eq_true, Bool.not_eq_true', bne_iff_ne] at hhandler
    exact hstays.handler outcome houtcome hfailed hhandler.1.1 hhandler.2
  · exact onMap_edge hstays hvisited hnode (by simp [nodeEdges])

theorem onMap_branch (hsignal : outcome.signal = .branch)
    (hown : outcome.targetNodeId ∈ branchTargets visit.node) :
    OnMap graph (normalizeTarget outcome.targetNodeId) := by
  cases hkind : visit.node.kind with
  | condition cases defaultTargetId =>
    simp only [branchTargets, hkind, List.mem_append, List.mem_map, List.mem_singleton] at hown
    rcases hown with ⟨case, hcase, heq⟩ | heq
    · rw [← heq]
      have hedge : case.targetId ∈ (nodeEdges visit.key visit.node).map Prod.snd := by
        rw [nodeEdges, hkind, List.map_append, List.map_append, List.map_map]
        exact List.mem_append_right _ (List.mem_append_left _ (List.mem_map.mpr ⟨case, hcase, rfl⟩))
      exact onMap_normalized (onMap_edge hstays hvisited hnode hedge)
    · rw [heq]
      have hedge : defaultTargetId ∈ (nodeEdges visit.key visit.node).map Prod.snd := by
        simp [nodeEdges, hkind]
      exact onMap_normalized
        (onMap_pyOr (onMap_edge hstays hvisited hnode hedge) (onMap_fail graph))
  | waitEvent config =>
    simp only [branchTargets, hkind, List.mem_singleton] at hown
    rw [hown]
    exact hstays.restart outcome houtcome hsignal config hkind
  | _ => simp [branchTargets, hkind] at hown

theorem stepTarget_onMap
    (hown : outcome.signal = .branch → outcome.targetNodeId ∈ branchTargets visit.node)
    (htarget : StepTarget graph visit.node outcome target) :
    OnMap graph (normalizeTarget target) := by
  have hnext : OnMap graph (normalizeTarget visit.node.nextNodeId) :=
    onMap_edge hstays hvisited hnode (by simp [nodeEdges])
  cases htarget with
  | next => exact onMap_pyOr hnext (onMap_complete graph)
  | failure hfailed =>
    exact onMap_pyOr (onMap_fallback hstays hvisited hnode houtcome hfailed) (onMap_fail graph)
  | terminalBranch =>
    have hbranch : OnMap graph (normalizeTarget visit.node.terminalBranchTarget) :=
      onMap_edge hstays hvisited hnode (by simp [nodeEdges])
    exact onMap_pyOr (onMap_pyOr hbranch hnext) (onMap_complete graph)
  | branch hsignal _ =>
    exact onMap_branch hstays hvisited hnode houtcome hsignal (hown hsignal)

end

end Visit

/-! ## Runs -/

def NamesVisits (state : RunState World Call) : Prop :=
  state.executedPath = state.visits.map fun visit => visit.node.id

theorem namesVisits_turn (env : Env World Call) (graph : ExecutionGraph)
    {state : RunState World Call} (hnames : NamesVisits state) :
    NamesVisits (endState (turn env (run env) graph state)) ∨
      LeavesAbruptly (turn env (run env) graph state) := by
  cases turn_cases env (run env) graph state with
  | ended terminal error heq =>
    rw [heq]
    exact Or.inl hnames
  | refused node error heq => exact Or.inr ⟨_, heq, by simp⟩
  | visited node visit ctx hnode hsteps hallowed hrun heffect hturn =>
    left
    have hpath : (endState (turn env (run env) graph state)).executedPath =
        state.executedPath ++ [node.id] := by
      rw [hturn]
      exact visitNode_path node (state.enter node)
    have hvisit : visit.node = node := by cases hrun <;> rfl
    unfold NamesVisits
    rw [hpath, heffect.visits, show (state.enter node).visits = state.visits from rfl,
      List.map_append, ← show state.executedPath = _ from hnames]
    simp [hvisit]

theorem run_path {env : Env World Call} {graph : ExecutionGraph} {ctx : ScopedFlowContext}
    {world : World} {result : FlowResult}
    (hexit : (run env graph ctx world).log.exit = .returned result) :
    result.path = (run env graph ctx world).log.visits.map fun visit => visit.node.id := by
  rw [run_eq_conclude] at hexit ⊢
  obtain ⟨hreturned, rfl⟩ := returned_of_conclude hexit
  exact runLoop_returned NamesVisits rfl (fun _ hnames => namesVisits_turn env graph hnames)
    hreturned

/-- The run has kept to the map so far. -/
structure KeptToMap (graph : ExecutionGraph) (state : RunState World Call) : Prop where
  current : OnMap graph state.currentId
  visited : ∀ visit ∈ state.visits, visit.key ∈ entryVisited graph

theorem visited_of_onMap {graph : ExecutionGraph} {nodeId : String} {node : Node}
    (hmap : OnMap graph nodeId) (haway : atTerminal nodeId = false)
    (hnode : Dict.getItem graph.nodes nodeId = some node) :
    nodeId ∈ entryVisited graph := by
  rcases hmap with hterminal | hkey | hvisited
  · rw [haway] at hterminal
    cases hterminal
  · simp [Dict.hasKey, hnode] at hkey
  · exact hvisited

variable {env : Env World Call} {graph : ExecutionGraph}

theorem keptToMap_turn (hnever : ExecutorNeverBranches env) {state : RunState World Call}
    (hkept : KeptToMap graph state)
    (hstays : ∀ visit ∈ (endState (turn env (run env) graph state)).visits,
      StaysOnMap graph visit) :
    (∀ visit ∈ (endState (turn env (run env) graph state)).visits, visit.key ∈ entryVisited graph) ∧
      ∀ next, turn env (run env) graph state = .again next → OnMap graph next.currentId := by
  cases turn_cases env (run env) graph state with
  | ended terminal error heq =>
    rw [heq]
    exact ⟨hkept.visited, by simp⟩
  | refused node error heq =>
    rw [heq]
    exact ⟨hkept.visited, by simp⟩
  | visited node visit ctx hnode hsteps hallowed hrun heffect hturn =>
    have hshape : visit.key = state.currentId ∧ visit.node = node := by
      cases hrun <;> exact ⟨rfl, rfl⟩
    have haway : atTerminal state.currentId = false := by
      by_contra hterminal
      have hleave : turn env (run env) graph state = .leave { state, exit := .returned () } := by
        rw [turn, if_pos (by simp [hterminal])]
      have hvisits := heffect.visits
      rw [hleave] at hvisits
      simp [endState, RunState.enter] at hvisits
    have hkey : visit.key ∈ entryVisited graph := by
      rw [hshape.1]
      exact visited_of_onMap hkept.current haway hnode
    have hfound : Dict.getItem graph.nodes visit.key = some visit.node := by
      rw [hshape.1, hshape.2]
      exact hnode
    rw [heffect.visits] at hstays ⊢
    have hvisit := hstays visit (by simp)
    refine ⟨?_, ?_⟩
    · intro other hother
      rcases List.mem_append.mp hother with hbefore | hlast
      · exact hkept.visited other hbefore
      · rw [List.mem_singleton.mp hlast]
        exact hkey
    · intro next hagain
      rw [hturn] at hagain
      have hrun : VisitRun env (run env) graph state.currentId node
        (state.enter node).ctx (state.enter node).world visit ctx := hrun
      obtain ⟨outcome, houtcome, target, htarget, hcurrent⟩ := visitNode_target hrun hagain
      rw [hcurrent]
      refine stepTarget_onMap hvisit hkey hfound houtcome ?_ (hshape.2 ▸ htarget)
      intro hsignal
      rw [hshape.2]
      exact visitRun_branch hnever hrun houtcome hsignal

theorem endState_visits_mono (env : Env World Call) (graph : ExecutionGraph)
    (state : RunState World Call) :
    state.visits ⊆ (endState (turn env (run env) graph state)).visits := by
  cases turn_cases env (run env) graph state with
  | ended terminal error heq =>
    rw [heq]
    exact List.Subset.refl _
  | refused node error heq =>
    rw [heq]
    exact List.Subset.refl _
  | visited node visit ctx hnode hsteps hallowed hrun heffect =>
    rw [heffect.visits]
    exact List.subset_append_left _ _

theorem run_visited (hnever : ExecutorNeverBranches env)
    (hresume : truthy graph.resumeFromNodeId = false)
    (hentry : OnMap graph graph.entryNodeId) {ctx : ScopedFlowContext} {world : World}
    (hstays : ∀ visit ∈ (run env graph ctx world).log.visits, StaysOnMap graph visit) :
    ∀ visit ∈ (run env graph ctx world).log.visits, visit.key ∈ entryVisited graph := by
  rw [run_eq_conclude] at hstays ⊢
  refine runLoop_invariant
    (fun state => (∀ visit ∈ state.visits, StaysOnMap graph visit) → KeptToMap graph state)
    (fun departure => (∀ visit ∈ departure.state.visits, StaysOnMap graph visit) →
      ∀ visit ∈ departure.state.visits, visit.key ∈ entryVisited graph)
    ?_ ?_ ?_ hstays
  · intro _
    refine ⟨?_, by simp [entryState]⟩
    have hcurrent : (entryState graph ctx world : RunState World Call).currentId =
        graph.entryNodeId := by
      simp [entryState, pyOrElse, pyOr, hresume]
    rw [hcurrent]
    exact hentry
  · intro state next hkept hagain hall
    have hgrows := endState_visits_mono env graph state
    have hturn := keptToMap_turn hnever (hkept fun visit hvisit => hall visit (by
      rw [hagain] at hgrows
      exact hgrows hvisit)) (by
        rw [hagain]
        exact hall)
    rw [hagain] at hturn
    exact ⟨hturn.2 next rfl, hturn.1⟩
  · intro state departure hkept hleave hall
    have hgrows := endState_visits_mono env graph state
    have hturn := keptToMap_turn hnever (hkept fun visit hvisit => hall visit (by
      rw [hleave] at hgrows
      exact hgrows hvisit)) (by
        rw [hleave]
        exact hall)
    rw [hleave] at hturn
    exact hturn.1

theorem onMap_entry (hentry : graph.entryNodeId ≠ "COMPLETE" ∧ graph.entryNodeId ≠ "FAIL") :
    OnMap graph graph.entryNodeId := by
  by_cases hterminal : atTerminal graph.entryNodeId = true
  · exact Or.inl hterminal
  · have hsentinel : graph.entryNodeId ∉ sentinels := by
      simp only [atTerminal, Bool.or_eq_true, beq_iff_eq, not_or] at hterminal
      simp [sentinels, hterminal, hentry]
    by_cases hkey : Dict.hasKey graph.nodes graph.entryNodeId = true
    · exact Or.inr (Or.inr (entry_visited (by simp [skips, hsentinel, hkey])))
    · exact Or.inr (Or.inl (Bool.eq_false_iff.mpr hkey))

/-- In every run of an accepted graph whose steps stay on the map, no node is
executed that the validator reports as unreachable. -/
theorem unreachable_never_runs (hnever : ExecutorNeverBranches env) {depth : ℤ}
    {ledger after : Ledger} (haccepted : validateGraph graph depth ledger = .ok after)
    (hresume : truthy graph.resumeFromNodeId = false)
    (hentry : graph.entryNodeId ≠ "COMPLETE" ∧ graph.entryNodeId ≠ "FAIL")
    {ctx : ScopedFlowContext} {world : World}
    (hstays : ∀ visit ∈ (run env graph ctx world).log.visits, StaysOnMap graph visit) :
    (∃ earlier : Option (List String), after.warnings = earlier.map fun warnings =>
      warnings ++ ((unreachable graph).mergeSort fun left right => decide (left ≤ right)).map
          fun nodeId => s!"步骤 '{nodeId}' 从入口步骤 '{graph.entryNodeId}' 不可达") ∧
      ∀ nodeId ∈ unreachable graph,
        (∀ visit ∈ (run env graph ctx world).log.visits, visit.key ≠ nodeId) ∧
          ∀ result, (run env graph ctx world).log.exit = .returned result →
            nodeId ∉ result.path := by
  have hvisited := run_visited hnever hresume (onMap_entry hentry) hstays
  have hchecked := validateGraph_ok haccepted
  refine ⟨hchecked.warnings, fun nodeId hreported => ?_⟩
  have hnone : nodeId ∉ entryVisited graph := by
    simpa using (List.mem_filter.mp hreported).2
  refine ⟨?_, ?_⟩
  · rintro visit hvisit rfl
    exact hnone (hvisited visit hvisit)
  · intro result hexit hmem
    rw [run_path hexit] at hmem
    obtain ⟨visit, hvisit, rfl⟩ := List.mem_map.mp hmem
    rw [(hstays visit hvisit).stored] at hnone
    exact hnone (hvisited visit hvisit)

/-! ## An error handler -/

/-- The check-in hands its failure to the error handler, which no edge leads to. -/
def handlerGraph : ExecutionGraph where
  entryNodeId := "checkin"
  nodes := [("checkin", { id := "checkin" }), ("alarm", { id := "alarm" })]
  errorHandlerNodeId := some "alarm"

theorem answering_never_branches (status : NodeStatus) :
    ExecutorNeverBranches (answering status) := by
  intro node ctx world outcome houtcome
  obtain rfl := Exit.returned.inj houtcome
  simp

/-- The error handler is reported as unreachable, and runs. -/
theorem handler_runs : ExecutorNeverBranches (answering .failed) ∧
      validateGraph handlerGraph 1 { warnings := some [] } =
        .ok { warnings := some ["步骤 'alarm' 从入口步骤 'checkin' 不可达"] } ∧
      handlerGraph.resumeFromNodeId = none ∧ "alarm" ∈ unreachable handlerGraph ∧
      ∃ result, (run (answering .failed) handlerGraph {} ()).log.exit = .returned result ∧
        "alarm" ∈ result.path := by
  refine ⟨answering_never_branches .failed, by decide +kernel, rfl, by decide +kernel, ?_⟩
  exact ⟨_, rfl, by decide⟩

theorem handler_stays_out : "alarm" ∈ unreachable handlerGraph ∧
      ∀ visit ∈ (run (answering .success) handlerGraph {} ()).log.visits, visit.key ≠ "alarm" := by
  have hreported : "alarm" ∈ unreachable handlerGraph := by decide
  have hstays : ∀ visit ∈ (run (answering .success) handlerGraph {} ()).log.visits,
      StaysOnMap handlerGraph visit := by
    intro visit hvisit
    obtain rfl := List.mem_singleton.mp hvisit
    exact
      { edges := by decide
        handler := by
          rintro outcome houtcome hfailed
          cases houtcome
          cases hfailed
        restart := by
          rintro outcome houtcome hsignal
          cases houtcome
          cases hsignal
        stored := rfl }
  have haccepted : validateGraph handlerGraph 1 {} = .ok {} := by decide
  exact ⟨hreported, ((unreachable_never_runs (answering_never_branches .success) haccepted rfl
    ⟨by decide, by decide⟩ hstays).2 "alarm" hreported).1⟩

end SignPulse.Reachability
