import SignPulse.Flow.EngineLaws

/-!
# Plain visits

A visit whose outcome carries no signal, no final error and no terminal match
leads along an edge of the graph: to the next node where it succeeded, and along
the failure edge where it did not.
-/

namespace SignPulse.PlainVisits

open Foundation
open FlowModels
open FlowContext
open RunEnvironment
open TargetAliases
open NodeRuns
open FlowEngine
open EngineLaws

variable {World Call : Type}

/-- Nothing but its status says where the run goes on from a node. -/
structure PlainOutcome (node : Node) (outcome : StepOutcome) : Prop where
  signal : outcome.signal = .proceed
  controlled : isControlled outcome = false
  terminal : outcome.matchedTerminal = false ∨ node.terminalPolicy = .ignore

/-- The outcome lets the run go on to the next node. -/
def goesOn (outcome : StepOutcome) : Bool :=
  succeededStatus outcome.status || outcome.status == .skipped

def edgeTarget (graph : ExecutionGraph) (node : Node) (outcome : StepOutcome) : Option String :=
  if goesOn outcome then pyOr node.nextNodeId (some TERMINAL_COMPLETE_ID)
  else pyOr (fallbackTarget graph node) (some TERMINAL_FAIL_ID)

/-- The error that a run reports after a plain outcome. -/
def errorAfter (node : Node) (outcome : StepOutcome) (before : Option String) : Option String :=
  if goesOn outcome then before
  else some (failureText outcome s!"Node {node.id} failed")

theorem note_lastFailureError (state : RunState World Call) (outcome : StepOutcome) :
    (state.note outcome).lastFailureError = state.lastFailureError := by
  obtain ⟨_, _, _, _, heq⟩ := note_eq_with state outcome
  rw [heq]

theorem followEdge_proceeds (graph : ExecutionGraph) (node : Node)
    (outcome : StepOutcome) (state : RunState World Call) :
    ∃ after, followEdge graph node outcome state = .again after ∧
      after.currentId = normalizeTarget (edgeTarget graph node outcome) ∧
      after.lastFailureError = errorAfter node outcome state.lastFailureError := by
  unfold followEdge edgeTarget errorAfter goesOn
  split
  · exact ⟨_, rfl, rfl, rfl⟩
  · exact ⟨_, rfl, rfl, rfl⟩

variable {graph : ExecutionGraph} {node : Node} {outcome : StepOutcome} {env : Env World Call}
variable {runSub : SubRun World Call}

theorem settle_proceeds (hbreaker : graph.consecutiveFailureLimit = none)
    (hplain : PlainOutcome node outcome) (state : RunState World Call) :
    ∃ after, settle graph node outcome state = .again after ∧
      after.currentId = normalizeTarget (edgeTarget graph node outcome) ∧
      after.lastFailureError = errorAfter node outcome state.lastFailureError := by
  have hnone : ∀ failures, breaks graph outcome.status failures = none := by
    intro failures
    simp [breaks, hbreaker]
  have hfollow : ∀ noted : RunState World Call,
      followSignal graph node outcome noted = followEdge graph node outcome noted := by
    intro noted
    simp only [followSignal, hplain.signal, followPolicy]
    split
    · next hmatched =>
      rcases hplain.terminal with hterminal | hpolicy
      · simp [hterminal] at hmatched
      · rw [hpolicy]
    · rfl
  unfold settle
  simp only [hplain.controlled, Bool.false_eq_true, if_false, hnone, hfollow]
  obtain ⟨after, hagain, hcurrent, herror⟩ := followEdge_proceeds graph node outcome
    { (state.record outcome).note outcome with
      consecutiveFailures :=
        countFailures ((state.record outcome).note outcome).consecutiveFailures outcome.status }
  refine ⟨after, hagain, hcurrent, herror.trans ?_⟩
  rw [note_lastFailureError]
  rfl

theorem visitNode_settled {env : Env World Call} {runSub : SubRun World Call}
    {graph : ExecutionGraph} {node : Node} {state : RunState World Call}
    {outcome : StepOutcome} (hguard : skipReason env node state.ctx = .ok none)
    (hexit : (attemptsOf env runSub graph node state.ctx state.world).exit = .returned outcome) :
    visitNode env runSub graph node state = settle graph node outcome
        { state with
          ctx := (attemptsOf env runSub graph node state.ctx state.world).ctx
          world := (attemptsOf env runSub graph node state.ctx state.world).world
          visits := state.visits ++
            [visitOf state.currentId node
              (attemptsOf env runSub graph node state.ctx state.world).attempts
              (some outcome)] } := by
  rw [visitNode, hguard]
  dsimp only
  rw [show attemptLoop env node (executeNode env runSub graph node)
    node.retryPolicy.maxAttempts.toNat state.ctx state.world =
      attemptsOf env runSub graph node state.ctx state.world from rfl, hexit]
  rfl

theorem settles_of_outcome {state : RunState World Call} {key : String}
    {visit : Visit Call (RunLog Call)} {ctx : ScopedFlowContext}
    (hrun : VisitRun env runSub graph key node state.ctx state.world visit ctx)
    (houtcome : visit.outcome = some outcome) (hran : outcome.status ≠ .skipped) :
    visit = visitOf key node (attemptsOf env runSub graph node state.ctx state.world).attempts
          (some outcome) ∧
      ∃ visited, visitNode env runSub graph node state = settle graph node outcome visited := by
  cases hrun with
  | guardRaised hguard => cases houtcome
  | skipped hguard =>
    cases houtcome
    exact absurd rfl hran
  | interrupted hguard hexit => cases houtcome
  | settled hguard hexit =>
    cases houtcome
    exact ⟨rfl, _, visitNode_settled hguard hexit⟩

theorem turn_at_node {state : RunState World Call} (hne : state.currentId ≠ "")
    (haway : atTerminal state.currentId = false)
    (hsteps : (state.totalSteps : ℤ) < graph.maxTotalSteps)
    (hnode : Dict.getItem graph.nodes state.currentId = some node)
    (hallowed : loopLimitError (state.enter node) node = none) :
    turn env runSub graph state = visitNode env runSub graph node (state.enter node) := by
  rw [turn, if_neg (by simp [hne, haway]), if_neg (by omega), hnode]
  dsimp only
  rw [hallowed]

theorem attemptsOf_once {ctx : ScopedFlowContext} {world : World}
    (honce : node.retryPolicy.maxAttempts = 1)
    (hexit : (executeNode env runSub graph node ctx world).exit = .returned outcome)
    (hsignal : outcome.signal = .proceed) :
    (attemptsOf env runSub graph node ctx world).exit = .returned outcome ∧
      (attemptsOf env runSub graph node ctx world).ctx =
        (executeNode env runSub graph node ctx world).ctx ∧
      (attemptsOf env runSub graph node ctx world).world =
        (executeNode env runSub graph node ctx world).world := by
  have hafter : afterAttempt env node true (executeNode env runSub graph node ctx world) =
      (some (.returned outcome), (executeNode env runSub graph node ctx world).world) := by
    simp [afterAttempt, hexit, expire, hsignal]
  rw [attemptsOf, honce]
  simp only [Int.toNat_one, attemptLoop, beq_self_eq_true, hafter, and_self]

end SignPulse.PlainVisits
