import SignPulse.Flow.EngineLaws
import SignPulse.Flow.LoopCheck

/-!
# Two readings of an edge target

The validator takes a target as it stands: one of four sentinels, or the key of
a node.  The engine strips it and knows more names for the terminals, in any
case, except for the target that a run resumes from, which it takes as it
stands.  The two agree on the targets that are plain, and the engine goes
elsewhere on the others.
-/

namespace SignPulse.TargetAgreement

open Foundation
open FlowModels
open FlowContext
open RunEnvironment
open TargetAliases
open NodeRuns
open FlowEngine
open EngineLaws
open GraphNormalizer
open LoopCheck

variable {World Call : Type}

/-! ## The validator -/

/-- What the validator takes a target for. -/
inductive Destination where
  | node
  | terminal (nodeId : String)
  deriving DecidableEq

/-- An empty target is no target. -/
def destination (graph : ExecutionGraph) (text : String) : Option Destination :=
  if text = "" then none
  else if text = TERMINAL_COMPLETE_ID ∨ text = "COMPLETE" then
    some (.terminal TERMINAL_COMPLETE_ID)
  else if text = TERMINAL_FAIL_ID ∨ text = "FAIL" then some (.terminal TERMINAL_FAIL_ID)
  else if Dict.hasKey graph.nodes text then some .node
  else none

/-- The places of a graph that hold targets. -/
inductive Site where
  | next (key : String)
  | onFailure (key : String)
  | terminalBranch (key : String)
  | condition (key : String)
  | errorHandler
  | resume
  deriving DecidableEq

/-- The target stands at this place of the graph. -/
inductive HasTarget (graph : ExecutionGraph) : Site → String → Prop where
  | next {key text : String} {node : Node}
      (hnode : Dict.getItem graph.nodes key = some node)
      (hedge : node.nextNodeId = some text) : HasTarget graph (.next key) text
  | onFailure {key text : String} {node : Node}
      (hnode : Dict.getItem graph.nodes key = some node)
      (hedge : node.onFailureNodeId = some text) : HasTarget graph (.onFailure key) text
  | terminalBranch {key text : String} {node : Node}
      (hnode : Dict.getItem graph.nodes key = some node)
      (hedge : node.terminalBranchTarget = some text) :
      HasTarget graph (.terminalBranch key) text
  | conditionCase {key text : String} {node : Node} {cases : List ConditionCase}
      {default : Option String} {case : ConditionCase}
      (hnode : Dict.getItem graph.nodes key = some node)
      (hkind : node.kind = .condition cases default) (hcase : case ∈ cases)
      (hedge : case.targetId = some text) : HasTarget graph (.condition key) text
  | conditionDefault {key text : String} {node : Node} {cases : List ConditionCase}
      (hnode : Dict.getItem graph.nodes key = some node)
      (hkind : node.kind = .condition cases (some text)) :
      HasTarget graph (.condition key) text
  | errorHandler {text : String} (hedge : graph.errorHandlerNodeId = some text) :
      HasTarget graph .errorHandler text
  | resume {text : String} (hedge : graph.resumeFromNodeId = some text) :
      HasTarget graph .resume text

theorem forM_ok_iff {α : Type} {check : α → Except String Unit} :
    ∀ items : List α, items.forM check = .ok () ↔ ∀ item ∈ items, check item = .ok () := by
  intro items
  induction items with
  | nil => simp [pure, Except.pure]
  | cons item rest ih =>
    rw [List.forM_eq_forM, List.forM_cons]
    cases hitem : check item with
    | error error => simp [bind, Except.bind, hitem]
    | ok value =>
      rw [List.forM_eq_forM] at ih
      simp [bind, Except.bind, hitem, ih]

variable {graph : ExecutionGraph} {text terminal : String} {site : Site} {env : Env World Call}
variable {after state : RunState World Call} {node : Node} {outcome : StepOutcome}

theorem destination_of_checked {message : String → String}
    (hchecked : checkTarget graph message (some text) = .ok ()) (htext : text ≠ "") :
    ∃ destined, destination graph text = some destined := by
  rw [destination, if_neg htext]
  split
  · exact ⟨_, rfl⟩
  · split
    · exact ⟨_, rfl⟩
    · next hcomplete hfail =>
      simp only [not_or] at hcomplete hfail
      have hkey : Dict.hasKey graph.nodes text = true := by
        by_contra hnone
        simp [checkTarget, htext, sentinels, hcomplete, hfail, hnone] at hchecked
      exact ⟨.node, by rw [if_pos hkey]⟩

/-- The targets that `checkReferences` looks at. -/
structure ReferencesChecked (graph : ExecutionGraph) : Prop where
  resume : ∃ message, checkTarget graph message graph.resumeFromNodeId = .ok ()
  errorHandler : ∃ message, checkTarget graph message graph.errorHandlerNodeId = .ok ()
  edges : ∀ key node, (key, node) ∈ graph.nodes → ∀ edge ∈ nodeEdges key node,
    ∃ message, checkTarget graph message edge.2 = .ok ()

theorem referencesChecked_of_ok (hok : checkReferences graph = .ok ()) :
    ReferencesChecked graph := by
  unfold checkReferences at hok
  split at hok
  · cases hok
  · simp only [bind, Except.bind] at hok
    split at hok
    · cases hok
    · next hresume =>
      split at hok
      · cases hok
      · next hedges =>
        refine ⟨⟨_, hresume⟩, ⟨_, hok⟩, fun key node hnode edge hedge => ⟨dangling edge.1, ?_⟩⟩
        have hnodeEdges := (forM_ok_iff graph.nodes).mp hedges (key, node) hnode
        exact (forM_ok_iff (nodeEdges key node)).mp hnodeEdges edge hedge

theorem checked_of_hasTarget (hchecked : ReferencesChecked graph)
    (htarget : HasTarget graph site text) :
    ∃ message, checkTarget graph message (some text) = .ok () := by
  have hedge : ∀ {key : String} {node : Node}, Dict.getItem graph.nodes key = some node →
        some text ∈ (nodeEdges key node).map Prod.snd →
          ∃ message, checkTarget graph message (some text) = .ok () := by
    intro key node hnode hmem
    obtain ⟨edge, hedge, htext⟩ := List.mem_map.mp hmem
    exact htext ▸ hchecked.edges key node (Dict.mem_of_getItem hnode) edge hedge
  cases htarget with
  | next hnode htext => exact hedge hnode (by simp [nodeEdges, htext])
  | onFailure hnode htext => exact hedge hnode (by simp [nodeEdges, htext])
  | terminalBranch hnode htext => exact hedge hnode (by simp [nodeEdges, htext])
  | conditionCase hnode hkind hcase htext =>
    refine hedge hnode ?_
    simp only [nodeEdges, hkind, List.map_append, List.map_map, List.mem_append]
    exact Or.inr (Or.inl (List.mem_map.mpr ⟨_, hcase, htext⟩))
  | conditionDefault hnode hkind => exact hedge hnode (by simp [nodeEdges, hkind])
  | errorHandler htext => exact htext ▸ hchecked.errorHandler
  | resume htext => exact htext ▸ hchecked.resume

theorem destination_of_accepted {depth : ℤ} {ledger : Ledger}
    (haccepted : ∃ after, validateGraph graph depth ledger = .ok after)
    (htarget : HasTarget graph site text) (htext : text ≠ "") :
    ∃ destined, destination graph text = some destined := by
  obtain ⟨-, hreferences, -⟩ := ((accepts_iff graph depth ledger).mp haccepted).1
  obtain ⟨message, hchecked⟩ :=
    checked_of_hasTarget (referencesChecked_of_ok hreferences) htarget
  exact destination_of_checked hchecked htext

/-! ## The engine -/

/-- The engine takes the target that stands at a place of the graph, and goes on
in the given state: along an edge, by a terminal policy, by the outcome of a
condition node, or from the point where it resumes. -/
inductive Takes (env : Env World Call) (graph : ExecutionGraph) :
    Site → String → RunState World Call → Prop where
  | next {key text : String} {node : Node} {outcome : StepOutcome}
      {state after : RunState World Call}
      (hnode : Dict.getItem graph.nodes key = some node)
      (hedge : node.nextNodeId = some text)
      (hstatus : (succeededStatus outcome.status || outcome.status == .skipped) = true)
      (hstep : followEdge graph node outcome state = .again after) :
      Takes env graph (.next key) text after
  | skipped {key text reason : String} {node : Node} {state after : RunState World Call}
      (hnode : Dict.getItem graph.nodes key = some node)
      (hedge : node.nextNodeId = some text)
      (hskip : skipReason env node state.ctx = .ok (some reason))
      (hstep : visitNode env (run env) graph node state = .again after) :
      Takes env graph (.next key) text after
  | policyNext {key text : String} {node : Node} {outcome : StepOutcome}
      {state after : RunState World Call}
      (hnode : Dict.getItem graph.nodes key = some node)
      (hedge : node.nextNodeId = some text)
      (hpolicy : node.terminalPolicy = .branchTo)
      (hown : truthy node.terminalBranchTarget = false)
      (hmatched : (outcome.matchedTerminal && succeededStatus outcome.status) = true)
      (hstep : followPolicy graph node outcome state = .again after) :
      Takes env graph (.next key) text after
  | onFailure {key text : String} {node : Node} {outcome : StepOutcome}
      {state after : RunState World Call}
      (hnode : Dict.getItem graph.nodes key = some node)
      (hedge : node.onFailureNodeId = some text)
      (hstatus : (succeededStatus outcome.status || outcome.status == .skipped) = false)
      (hstep : followEdge graph node outcome state = .again after) :
      Takes env graph (.onFailure key) text after
  | errorHandler {text : String} {node : Node} {outcome : StepOutcome}
      {state after : RunState World Call}
      (hedge : graph.errorHandlerNodeId = some text)
      (hown : truthy node.onFailureNodeId = false) (hother : text ≠ node.id)
      (hstatus : (succeededStatus outcome.status || outcome.status == .skipped) = false)
      (hstep : followEdge graph node outcome state = .again after) :
      Takes env graph .errorHandler text after
  | terminalBranch {key text : String} {node : Node} {outcome : StepOutcome}
      {state after : RunState World Call}
      (hnode : Dict.getItem graph.nodes key = some node)
      (hedge : node.terminalBranchTarget = some text)
      (hpolicy : node.terminalPolicy = .branchTo)
      (hmatched : (outcome.matchedTerminal && succeededStatus outcome.status) = true)
      (hstep : followPolicy graph node outcome state = .again after) :
      Takes env graph (.terminalBranch key) text after
  | conditionCase {key text : String} {node : Node} {cases : List ConditionCase}
      {default : Option String} {case : ConditionCase} {ctx : ScopedFlowContext}
      {state after : RunState World Call}
      (hnode : Dict.getItem graph.nodes key = some node)
      (hkind : node.kind = .condition cases default)
      (hcase : matchingCase env ctx cases = some case)
      (hedge : case.targetId = some text)
      (hstep : followSignal graph node (runConditionNode env node.id cases default ctx)
        state = .again after) :
      Takes env graph (.condition key) text after
  | conditionDefault {key text : String} {node : Node} {cases : List ConditionCase}
      {ctx : ScopedFlowContext} {state after : RunState World Call}
      (hnode : Dict.getItem graph.nodes key = some node)
      (hkind : node.kind = .condition cases (some text))
      (hcase : matchingCase env ctx cases = none)
      (hstep : followSignal graph node
        (runConditionNode env node.id cases (some text) ctx) state = .again after) :
      Takes env graph (.condition key) text after
  | resume {text : String} {ctx : ScopedFlowContext} {world : World}
      (hedge : graph.resumeFromNodeId = some text) :
      Takes env graph .resume text (entryState graph ctx world)

theorem Takes.hasTarget (htakes : Takes env graph site text after) : HasTarget graph site text := by
  cases htakes with
  | next hnode hedge _ _ => exact .next hnode hedge
  | skipped hnode hedge _ _ => exact .next hnode hedge
  | policyNext hnode hedge _ _ _ _ => exact .next hnode hedge
  | onFailure hnode hedge _ _ => exact .onFailure hnode hedge
  | errorHandler hedge _ _ _ _ => exact .errorHandler hedge
  | terminalBranch hnode hedge _ _ _ => exact .terminalBranch hnode hedge
  | conditionCase hnode hkind hcase hedge _ =>
    exact .conditionCase hnode hkind (List.mem_of_find?_eq_some hcase) hedge
  | conditionDefault hnode hkind _ _ => exact .conditionDefault hnode hkind
  | resume hedge => exact .resume hedge

/-- Where a target leads the engine.  The target of a condition that strips to
nothing is dropped, and the run goes on along the edge to the next node. -/
inductive Landed (text current : String) : Prop where
  | there (heq : current = resolveAlias text)
  | elsewhere (hblank : resolveAlias text = "") (other : Option String)
      (heq : current = normalizeTarget other)

theorem advance_currentId (state : RunState World Call) (target : Option String) :
    (state.advance target).currentId = normalizeTarget target := rfl

theorem followEdge_success
    (hstatus : (succeededStatus outcome.status || outcome.status == .skipped) = true)
    (hstep : followEdge graph node outcome state = .again after) :
    after.currentId = normalizeTarget (pyOr node.nextNodeId (some TERMINAL_COMPLETE_ID)) := by
  rw [followEdge, if_pos hstatus] at hstep
  rw [← Turn.again.inj hstep, advance_currentId]

theorem followEdge_failure
    (hstatus : (succeededStatus outcome.status || outcome.status == .skipped) = false)
    (hstep : followEdge graph node outcome state = .again after) :
    after.currentId =
      normalizeTarget (pyOr (fallbackTarget graph node) (some TERMINAL_FAIL_ID)) := by
  rw [followEdge, if_neg (by simp [hstatus])] at hstep
  rw [← Turn.again.inj hstep, advance_currentId]

theorem followPolicy_branch (hpolicy : node.terminalPolicy = .branchTo)
    (hmatched : (outcome.matchedTerminal && succeededStatus outcome.status) = true)
    (hstep : followPolicy graph node outcome state = .again after) :
    after.currentId = normalizeTarget
      (pyOr (pyOr node.terminalBranchTarget node.nextNodeId) (some TERMINAL_COMPLETE_ID)) := by
  rw [followPolicy, if_pos hmatched, hpolicy] at hstep
  rw [← Turn.again.inj hstep, advance_currentId]

theorem followSignal_lands (htext : text ≠ "") (hsignal : outcome.signal = .branch)
    (htarget : outcome.targetNodeId = some (normalizeTarget (some text)))
    (hstatus : (succeededStatus outcome.status || outcome.status == .skipped) = true)
    (hterminal : outcome.matchedTerminal = false)
    (hstep : followSignal graph node outcome state = .again after) :
    Landed text after.currentId := by
  rw [normalizeTarget_some htext] at htarget
  unfold followSignal at hstep
  simp only [hsignal, htarget] at hstep
  by_cases hblank : resolveAlias text = ""
  · refine .elsewhere hblank (pyOr node.nextNodeId (some TERMINAL_COMPLETE_ID)) ?_
    have hfollow : followEdge graph node outcome state = .again after := by
      simpa [truthy, hblank, followPolicy, hterminal] using hstep
    exact followEdge_success hstatus hfollow
  · refine .there ?_
    have htruthy : truthy (some (resolveAlias text)) = true := by simp [truthy, hblank]
    rw [if_pos htruthy] at hstep
    rw [← Turn.again.inj hstep, advance_currentId, normalizeTarget_some hblank,
      resolveAlias_resolveAlias]

theorem takes_lands (htext : text ≠ "") (htakes : Takes env graph site text after)
    (hsite : site ≠ .resume) :
    Landed text after.currentId := by
  have htruthy : truthy (some text) = true := by simp [truthy, htext]
  cases htakes with
  | next hnode hedge hstatus hstep =>
    refine .there ?_
    rw [followEdge_success hstatus hstep, hedge, pyOr_some htext, normalizeTarget_some htext]
  | skipped hnode hedge hskip hstep =>
    refine .there ?_
    simp only [visitNode, hskip] at hstep
    rw [← Turn.again.inj hstep, advance_currentId, hedge, pyOr_some htext,
      normalizeTarget_some htext]
  | policyNext hnode hedge hpolicy hown hmatched hstep =>
    refine .there ?_
    rw [followPolicy_branch hpolicy hmatched hstep, hedge, pyOr_of_not_truthy hown,
      pyOr_some htext, normalizeTarget_some htext]
  | onFailure hnode hedge hstatus hstep =>
    refine .there ?_
    rw [followEdge_failure hstatus hstep, fallbackTarget, if_neg (by simp [hedge, htruthy]),
      hedge, pyOr_some htext, normalizeTarget_some htext]
  | errorHandler hedge hown hother hstatus hstep =>
    refine .there ?_
    rw [followEdge_failure hstatus hstep, fallbackTarget,
      if_pos (by simp [hedge, hown, htruthy, hother]), hedge, pyOr_some htext,
      normalizeTarget_some htext]
  | terminalBranch hnode hedge hpolicy hmatched hstep =>
    refine .there ?_
    rw [followPolicy_branch hpolicy hmatched hstep, hedge, pyOr_some htext,
      pyOr_some htext, normalizeTarget_some htext]
  | conditionCase hnode hkind hcase hedge hstep =>
    refine followSignal_lands htext ?_ ?_ ?_ ?_ hstep
    all_goals simp [runConditionNode, hcase, hedge, succeededStatus]
  | conditionDefault hnode hkind hcase hstep =>
    refine followSignal_lands htext ?_ ?_ ?_ ?_ hstep
    all_goals simp [runConditionNode, hcase, pyOr_some htext, succeededStatus]
  | resume hedge => exact absurd rfl hsite

/-! ## Agreement -/

def EndsAt (env : Env World Call) (graph : ExecutionGraph) (state : RunState World Call)
    (terminal : String) : Prop :=
  ∃ departure, turn env (run env) graph state = .leave departure ∧
    departure.exit = .returned () ∧ departure.state.currentId = terminal ∧
    departure.state.visits = state.visits

/-- The engine goes on to the node, or ends at the terminal, that the validator
took the target for. -/
def Agrees (env : Env World Call) (graph : ExecutionGraph) (text : String)
    (after : RunState World Call) : Prop :=
  match destination graph text with
  | some .node =>
    after.currentId = text ∧ atTerminal text = false ∧ Dict.hasKey graph.nodes text = true
  | some (.terminal terminal) => EndsAt env graph after terminal
  | none => True

/-- The targets that both sides read alike. -/
def ReadAlike (graph : ExecutionGraph) : Site → String → Prop
  | .resume, text =>
    text ∉ sentinels ∨ text = TERMINAL_COMPLETE_ID ∨ text = TERMINAL_FAIL_ID ∨
      -- ends in failure because there is no such node to enter
      (text = "FAIL" ∧ (Dict.hasKey graph.nodes "FAIL" = false ∨ graph.maxTotalSteps ≤ 0))
  | _, text => text ∈ sentinels ∨ Plain text

/-- What the validator takes a target for, as a case distinction. -/
inductive DestinationCases (graph : ExecutionGraph) (text : String) :
    Option Destination → Prop where
  | empty (htext : text = "") : DestinationCases graph text none
  | missing (hsentinel : text ∉ sentinels)
      (hkey : Dict.hasKey graph.nodes text = false) : DestinationCases graph text none
  | complete (htext : text = TERMINAL_COMPLETE_ID ∨ text = "COMPLETE") :
      DestinationCases graph text (some (.terminal TERMINAL_COMPLETE_ID))
  | fail (htext : text = TERMINAL_FAIL_ID ∨ text = "FAIL") :
      DestinationCases graph text (some (.terminal TERMINAL_FAIL_ID))
  | node (htext : text ≠ "") (hsentinel : text ∉ sentinels)
      (hkey : Dict.hasKey graph.nodes text = true) :
      DestinationCases graph text (some .node)

theorem destination_cases (graph : ExecutionGraph) (text : String) :
    DestinationCases graph text (destination graph text) := by
  unfold destination
  split
  · next hempty => exact .empty hempty
  · next htext =>
    split
    · next hcomplete => exact .complete hcomplete
    · next hcomplete =>
      split
      · next hfail => exact .fail hfail
      · next hfail =>
        have hsentinel : text ∉ sentinels := by
          simp only [not_or] at hcomplete hfail
          simp [sentinels, hcomplete, hfail]
        split
        · next hkey => exact .node htext hsentinel hkey
        · next hkey => exact .missing hsentinel (Bool.eq_false_iff.mpr hkey)

section

variable (env : Env World Call) (graph : ExecutionGraph) (hterminal : atTerminal terminal = true)

include hterminal

theorem endsAt_of_terminal (hcurrent : state.currentId = terminal) :
    EndsAt env graph state terminal := by
  refine ⟨{ state, exit := .returned () }, ?_, rfl, hcurrent, rfl⟩
  rw [turn, if_pos (by simp [hcurrent, hterminal])]

theorem endsAt_of_landed (halias : resolveAlias text = terminal)
    (hlanded : Landed text after.currentId) : EndsAt env graph after terminal := by
  cases hlanded with
  | there heq => exact endsAt_of_terminal env graph hterminal (heq.trans halias)
  | elsewhere hblank other heq =>
    rw [← halias, hblank] at hterminal
    exact absurd hterminal (by decide)

end

theorem landed_self_iff {current : String} (htext : text ≠ "") (hsentinel : text ∉ sentinels)
    (hlanded : Landed text current) :
    current = text ↔ Plain text := by
  simp only [sentinels, List.mem_cons, List.not_mem_nil, or_false, not_or] at hsentinel
  constructor
  · intro hcurrent
    refine plain_of_resolveAlias_eq ?_ hsentinel.1 hsentinel.2.1
    cases hlanded with
    | there heq => exact heq.symm.trans hcurrent
    | elsewhere hblank other heq =>
      -- what was normalized once stays as it is
      rw [hcurrent] at heq
      have hagain := resolveAlias_normalizeTarget other
      rwa [← heq] at hagain
  · intro hplain
    have halias := resolveAlias_of_plain hplain
    cases hlanded with
    | there heq => exact heq.trans halias
    | elsewhere hblank other heq => exact absurd (halias.symm.trans hblank) htext

theorem endsAt_iff_of_not_terminal (hcurrent : state.currentId = text) (hne : text ≠ "")
    (haway : atTerminal text = false) :
    EndsAt env graph state terminal ↔ terminal = TERMINAL_FAIL_ID ∧
        (Dict.getItem graph.nodes text = none ∨ graph.maxTotalSteps ≤ state.totalSteps) := by
  subst hcurrent
  rw [EndsAt, turn, if_neg (by simp [hne, haway])]
  by_cases hlimit : graph.maxTotalSteps ≤ state.totalSteps
  · rw [if_pos hlimit]
    constructor
    · rintro ⟨departure, hleave, -, hterminal, -⟩
      rw [← Turn.leave.inj hleave] at hterminal
      exact ⟨hterminal.symm, Or.inr hlimit⟩
    · rintro ⟨rfl, -⟩
      exact ⟨_, rfl, rfl, rfl, rfl⟩
  · rw [if_neg hlimit]
    cases hnode : Dict.getItem graph.nodes state.currentId with
    | none =>
      constructor
      · rintro ⟨departure, hleave, -, hterminal, -⟩
        rw [← Turn.leave.inj hleave] at hterminal
        exact ⟨hterminal.symm, Or.inl rfl⟩
      · rintro ⟨rfl, -⟩
        exact ⟨_, rfl, rfl, rfl, rfl⟩
    | some node =>
      simp only [reduceCtorEq, hlimit, or_self, and_false, iff_false, not_exists, not_and]
      intro departure hleave hexit _
      cases hallowed : loopLimitError (state.enter node) node with
      | some error =>
        rw [hallowed] at hleave
        rw [← Turn.leave.inj hleave] at hexit
        cases hexit
      | none =>
        rw [hallowed] at hleave
        obtain ⟨visit, ctx, -, heffect⟩ :=
          visitNode_cases env (run env) graph node (state.enter node)
        have hvisits : departure.state.visits = state.visits ++ [visit] := by
          rw [show visitNode env (run env) graph node (state.enter node) =
            .leave departure from hleave] at heffect
          exact heffect.visits
        rw [hvisits]
        simp

theorem resume_agrees_iff (ctx : ScopedFlowContext) (world : World)
    (hresume : graph.resumeFromNodeId = some text)
    (hdestined : text ≠ "" → ∃ destined, destination graph text = some destined) :
    Agrees env graph text (entryState graph ctx world) ↔ ReadAlike graph .resume text := by
  have hcurrent : text ≠ "" → (entryState graph ctx world : RunState World Call).currentId =
      text := by
    intro htext
    simp [entryState, hresume, pyOrElse, pyOr_some htext]
  unfold Agrees ReadAlike
  have hcases := destination_cases graph text
  generalize destination graph text = destined at hcases hdestined
  cases hcases with
  | empty htext =>
    simp [htext, sentinels, TERMINAL_COMPLETE_ID, TERMINAL_FAIL_ID]
  | missing hsentinel hkey => simp [hsentinel]
  | node htext hsentinel hkey =>
    simp only [hcurrent htext, hsentinel, not_false_eq_true, true_or, iff_true, true_and]
    refine ⟨?_, hkey⟩
    simp only [sentinels, List.mem_cons, not_or] at hsentinel
    simp [atTerminal, hsentinel]
  | complete htext =>
    rcases htext with rfl | rfl
    · simp only [true_or, or_true, iff_true]
      exact endsAt_of_terminal env graph (by decide) (hcurrent (by decide))
    · simp only [endsAt_iff_of_not_terminal (hcurrent (by decide)) (by decide) (by decide)]
      simp [sentinels, TERMINAL_COMPLETE_ID, TERMINAL_FAIL_ID]
  | fail htext =>
    rcases htext with rfl | rfl
    · simp only [true_or, or_true, iff_true]
      exact endsAt_of_terminal env graph (by decide) (hcurrent (by decide))
    · simp only [endsAt_iff_of_not_terminal (hcurrent (by decide)) (by decide) (by decide)]
      simp [sentinels, TERMINAL_COMPLETE_ID, TERMINAL_FAIL_ID, Dict.hasKey, entryState]

/-- In an accepted graph the engine takes a target for what the validator took it
for, just where both read it alike: a sentinel or a plain text along an edge, and
a node or a terminal's own id where the run resumes. -/
theorem target_agrees_iff {env : Env World Call} {graph : ExecutionGraph} {depth : ℤ}
    {ledger : Ledger} (haccepted : ∃ after, validateGraph graph depth ledger = .ok after)
    {site : Site} {text : String} {after : RunState World Call}
    (htakes : Takes env graph site text after) :
    Agrees env graph text after ↔ ReadAlike graph site text := by
  have hdestined := destination_of_accepted haccepted htakes.hasTarget
  by_cases hsite : site = .resume
  · subst hsite
    cases htakes with
    | resume hedge => exact resume_agrees_iff _ _ hedge hdestined
  · have halike : ReadAlike graph site text ↔ text ∈ sentinels ∨ Plain text := by
      cases site <;> first | exact Iff.rfl | exact absurd rfl hsite
    rw [halike]
    unfold Agrees
    have hcases := destination_cases graph text
    generalize destination graph text = destined at hcases hdestined
    cases hcases with
    | empty htext => simp [htext, show Plain "" by decide]
    | missing hsentinel hkey =>
      by_cases htext : text = ""
      · simp [htext, show Plain "" by decide]
      · obtain ⟨destined, hnone⟩ := hdestined htext
        cases hnone
    | node htext hsentinel hkey =>
      have hterminal : atTerminal text = false := by
        simp only [sentinels, List.mem_cons, not_or] at hsentinel
        simp [atTerminal, hsentinel]
      simp only [hsentinel, false_or, hkey, hterminal, and_true]
      exact landed_self_iff htext hsentinel (takes_lands htext htakes hsite)
    | complete htext =>
      have hsentinel : text ∈ sentinels := by
        rcases htext with rfl | rfl <;> decide
      have halias : resolveAlias text = TERMINAL_COMPLETE_ID := by
        rcases htext with rfl | rfl <;> decide
      have hne : text ≠ "" := by
        rcases htext with rfl | rfl <;> decide
      simp only [hsentinel, true_or, iff_true]
      exact endsAt_of_landed env graph (by decide) halias (takes_lands hne htakes hsite)
    | fail htext =>
      have hsentinel : text ∈ sentinels := by
        rcases htext with rfl | rfl <;> decide
      have halias : resolveAlias text = TERMINAL_FAIL_ID := by
        rcases htext with rfl | rfl <;> decide
      have hne : text ≠ "" := by
        rcases htext with rfl | rfl <;> decide
      simp only [hsentinel, true_or, iff_true]
      exact endsAt_of_landed env graph (by decide) halias (takes_lands hne htakes hsite)

/-! ## A node with the name of a terminal -/

def successEnv : Env Unit Unit :=
  Env.still fun node ctx world =>
    { exit := .returned { nodeId := node.id, status := .success }, ctx, world }

/-- A check-in and one more action after it. -/
def twoSteps (last : String) : ExecutionGraph where
  entryNodeId := "checkin"
  nodes := [("checkin", { id := "checkin", nextNodeId := some last }), (last, { id := last })]

def afterCheckin (last : String) : RunState Unit Unit :=
  (entryState (twoSteps last) {} ()).advance (some last)

theorem takes_last {last : String} (hlast : last ≠ "") :
    Takes successEnv (twoSteps last) (.next "checkin") last (afterCheckin last) := by
  have hstep : followEdge (twoSteps last) { id := "checkin", nextNodeId := some last }
      { nodeId := "checkin", status := .success } (entryState (twoSteps last) {} ()) =
        .again (afterCheckin last) := by
    simp [followEdge, succeededStatus, pyOr_some hlast, afterCheckin]
  exact .next rfl rfl rfl hstep

/-- The graph with the action `done` is accepted, and its run ends in success
before that action. -/
theorem done_is_not_entered : (∃ after, validateGraph (twoSteps "done") 1 {} = .ok after) ∧
      (∃ after, Takes successEnv (twoSteps "done") (.next "checkin") "done" after ∧
        ¬ Agrees successEnv (twoSteps "done") "done" after) ∧
      (match (run successEnv (twoSteps "done") {} ()).exit with
        | .returned result => result.success && result.path == ["checkin"]
        | _ => false) = true := by
  refine ⟨⟨{}, by decide⟩, ⟨_, takes_last (by decide), fun hagrees => ?_⟩, by decide⟩
  have hnode : destination (twoSteps "done") "done" = some .node := by decide
  rw [Agrees, hnode] at hagrees
  exact absurd hagrees.1 (by decide)

theorem report_is_entered :
    Agrees successEnv (twoSteps "report") "report" (afterCheckin "report") := by
  have haccepted : ∃ after, validateGraph (twoSteps "report") 1 {} = .ok after :=
    ⟨{}, by decide⟩
  exact (target_agrees_iff haccepted (takes_last (by decide))).mpr (Or.inr (by decide))

end SignPulse.TargetAgreement
