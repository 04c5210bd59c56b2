import SignPulse.Flow.FlowEngine

/-!
# Laws of the engine

What one turn of the loop can do, stated once; that the recursion over nested
graphs is the engine's own; and the rule by which facts about runs are proved:
an invariant over the turns of one run.
-/

namespace SignPulse.EngineLaws

open Foundation
open FlowModels
open FlowContext
open RunEnvironment
open NodeRuns
open FlowEngine

variable {World Call : Type}

def endState : Turn (RunState World Call) (Departure World Call) → RunState World Call
  | .again state => state
  | .leave departure => departure.state

def exitOf : Turn (RunState World Call) (Departure World Call) → Option (Exit Unit)
  | .again _ => none
  | .leave departure => some departure.exit

/-! ## Noting a failure -/

section Noting

variable (state : RunState World Call) (outcome : StepOutcome)

theorem note_eq_with : ∃ code category retry disposition, state.note outcome =
      { state with
        lastFailureCode := code
        lastFailureCategory := category
        lastNonRetryable := retry
        lastSemanticDisposition := disposition } := by
  unfold RunState.note RunState.noteDisposition RunState.noteCategory RunState.noteError
  split <;> split <;> split <;> try split
  all_goals exact ⟨_, _, _, _, rfl⟩

@[simp]
theorem note_visits : (state.note outcome).visits = state.visits := by
  obtain ⟨_, _, _, _, heq⟩ := note_eq_with state outcome
  rw [heq]

@[simp]
theorem note_ctx : (state.note outcome).ctx = state.ctx := by
  obtain ⟨_, _, _, _, heq⟩ := note_eq_with state outcome
  rw [heq]

@[simp]
theorem note_world : (state.note outcome).world = state.world := by
  obtain ⟨_, _, _, _, heq⟩ := note_eq_with state outcome
  rw [heq]

@[simp]
theorem note_totalSteps : (state.note outcome).totalSteps = state.totalSteps := by
  obtain ⟨_, _, _, _, heq⟩ := note_eq_with state outcome
  rw [heq]

@[simp]
theorem note_executedPath : (state.note outcome).executedPath = state.executedPath := by
  obtain ⟨_, _, _, _, heq⟩ := note_eq_with state outcome
  rw [heq]

@[simp]
theorem note_nodeVisitCounts : (state.note outcome).nodeVisitCounts = state.nodeVisitCounts := by
  obtain ⟨_, _, _, _, heq⟩ := note_eq_with state outcome
  rw [heq]

@[simp]
theorem note_consecutiveFailures :
    (state.note outcome).consecutiveFailures = state.consecutiveFailures := by
  obtain ⟨_, _, _, _, heq⟩ := note_eq_with state outcome
  rw [heq]

theorem note_lastNonRetryable (hcontrolled : isControlled outcome = true) :
    (state.note outcome).lastNonRetryable = true := by
  unfold RunState.note RunState.noteDisposition
  split
  · rfl
  · next hdisposition =>
    have herror : outcome.error.any controlledError = true := by
      simpa [isControlled, hdisposition] using hcontrolled
    cases hcase : outcome.error with
    | none => simp [hcase] at herror
    | some error =>
      have hnoted : (state.noteError (some error)).lastNonRetryable = true := by
        rw [hcase] at herror
        simp only [Option.any_some] at herror
        simp [RunState.noteError, herror]
      unfold RunState.noteCategory
      split <;> simp [hnoted]

end Noting

/-! ## After a recorded outcome -/

/-- Whatever follows from an outcome, these variables of the run are kept, and
the loop is left, if at all, without an exception. -/
structure Kept (before : RunState World Call) (ctx : ScopedFlowContext)
    (outcome : StepOutcome)
    (after : Turn (RunState World Call) (Departure World Call)) : Prop where
  visits : (endState after).visits = before.visits
  ctx : (endState after).ctx = ctx
  world : (endState after).world = before.world
  totalSteps : (endState after).totalSteps = before.totalSteps
  executedPath : (endState after).executedPath = before.executedPath
  counts : exitOf after = none → (endState after).nodeVisitCounts =
      if restarts outcome then [] else before.nodeVisitCounts
  exit : exitOf after = none ∨ exitOf after = some (.returned ())

variable {before : RunState World Call} {ctx : ScopedFlowContext} {graph : ExecutionGraph}
variable {node : Node} {outcome : StepOutcome} {env : Env World Call} {runSub : SubRun World Call}
variable {world after : World} {isLast : Bool}

theorem kept_leave {after : RunState World Call} (outcome : StepOutcome)
    (hvisits : after.visits = before.visits) (hctx : after.ctx = ctx)
    (hworld : after.world = before.world) (hsteps : after.totalSteps = before.totalSteps)
    (hpath : after.executedPath = before.executedPath) :
    Kept before ctx outcome (.leave { state := after, exit := .returned () }) where
  visits := hvisits
  ctx := hctx
  world := hworld
  totalSteps := hsteps
  executedPath := hpath
  counts := by
    intro hagain
    cases hagain
  exit := Or.inr rfl

section

variable (graph : ExecutionGraph) (node : Node) (outcome : StepOutcome)
  (state : RunState World Call)

theorem followEdge_kept (hstay : restarts outcome = false) :
    Kept state state.ctx outcome (followEdge graph node outcome state) := by
  unfold followEdge
  split
  all_goals
    exact ⟨rfl, rfl, rfl, rfl, rfl, fun _ => by simp [hstay, endState, RunState.advance],
      Or.inl rfl⟩

theorem followPolicy_kept (hstay : restarts outcome = false) :
    Kept state state.ctx outcome (followPolicy graph node outcome state) := by
  unfold followPolicy
  split
  · split
    · exact kept_leave outcome rfl rfl rfl rfl rfl
    · exact ⟨rfl, rfl, rfl, rfl, rfl,
        fun _ => by simp [hstay, endState, RunState.advance], Or.inl rfl⟩
    · exact followEdge_kept graph node outcome state hstay
  · exact followEdge_kept graph node outcome state hstay

theorem followSignal_kept :
    Kept state state.ctx outcome (followSignal graph node outcome state) := by
  unfold followSignal
  split
  · exact kept_leave outcome rfl rfl rfl rfl rfl
  · exact kept_leave outcome rfl rfl rfl rfl rfl
  · next hsignal =>
    split
    · next htarget =>
      refine ⟨rfl, rfl, rfl, rfl, rfl, fun _ => ?_, Or.inl rfl⟩
      simp [endState, RunState.advance, restarts, hsignal, htarget]
    · next htarget =>
      exact followPolicy_kept graph node outcome state (by simp [restarts, htarget])
  · next hother =>
    refine followPolicy_kept graph node outcome state ?_
    cases hsignal : outcome.signal <;> simp_all [restarts]

theorem settle_kept :
    Kept state (state.ctx.recordStepOutcome outcome) outcome (settle graph node outcome state) := by
  have hrecord : ((state.record outcome).note outcome).ctx =
      state.ctx.recordStepOutcome outcome := by
    rw [note_ctx]
    rfl
  unfold settle
  split
  · exact kept_leave outcome (note_visits _ _) hrecord (note_world _ _)
      (note_totalSteps _ _) (note_executedPath _ _)
  · dsimp only
    split
    · exact kept_leave outcome (note_visits _ _) hrecord (note_world _ _)
        (note_totalSteps _ _) (note_executedPath _ _)
    · have hkept := followSignal_kept graph node outcome
        { (state.record outcome).note outcome with
          consecutiveFailures :=
            countFailures ((state.record outcome).note outcome).consecutiveFailures outcome.status }
      refine ⟨hkept.visits.trans (note_visits _ _), hkept.ctx.trans hrecord,
        hkept.world.trans (note_world _ _),
        hkept.totalSteps.trans (note_totalSteps _ _),
        hkept.executedPath.trans (note_executedPath _ _), fun hagain => ?_,
        hkept.exit⟩
      rw [hkept.counts hagain]
      simp [RunState.record]

end

theorem settle_controlled (state : RunState World Call) (hcontrolled : isControlled outcome = true)
    :
    exitOf (settle graph node outcome state) = some (.returned ()) ∧
      (endState (settle graph node outcome state)).currentId = TERMINAL_FAIL_ID ∧
      (endState (settle graph node outcome state)).lastNonRetryable = true := by
  have hnoted := note_lastNonRetryable (state.record outcome) outcome hcontrolled
  simp only [settle, hcontrolled, if_true]
  exact ⟨rfl, rfl, hnoted⟩

/-! ## One visit, one turn -/

/-- The record of a visit to `node` that was entered under `key`. -/
def visitOf (key : String) (node : Node)
    (attempts : List (Attempt Call (RunLog Call))) (outcome : Option StepOutcome) :
    Visit Call (RunLog Call) :=
  { key, node, attempts, outcome }

/-- The attempts that a visit makes unless its guards skip it. -/
def attemptsOf (env : Env World Call) (runSub : SubRun World Call)
    (graph : ExecutionGraph) (node : Node) (ctx : ScopedFlowContext)
    (world : World) : AttemptsReply World Call :=
  attemptLoop env node (executeNode env runSub graph node)
    node.retryPolicy.maxAttempts.toNat ctx world

/-- What a visit can be, and what it makes of the context: the guards raise or
skip, or the attempts are interrupted, or their outcome is recorded. -/
inductive VisitRun (env : Env World Call) (runSub : SubRun World Call)
    (graph : ExecutionGraph) (key : String) (node : Node)
    (ctx : ScopedFlowContext) (world : World) :
    Visit Call (RunLog Call) → ScopedFlowContext → Prop where
  | guardRaised {error : PyError} (hguard : skipReason env node ctx = .error error) :
      VisitRun env runSub graph key node ctx world (visitOf key node [] none) ctx
  | skipped {reason : String} (hguard : skipReason env node ctx = .ok (some reason)) :
      VisitRun env runSub graph key node ctx world
        (visitOf key node [] (some (skippedOutcome node.id reason)))
        (ctx.recordStepOutcome (skippedOutcome node.id reason))
  | interrupted (hguard : skipReason env node ctx = .ok none)
      (hexit : ∀ outcome, (attemptsOf env runSub graph node ctx world).exit ≠ .returned outcome) :
      VisitRun env runSub graph key node ctx world
        (visitOf key node (attemptsOf env runSub graph node ctx world).attempts none)
        (attemptsOf env runSub graph node ctx world).ctx
  | settled {outcome : StepOutcome} (hguard : skipReason env node ctx = .ok none)
      (hexit : (attemptsOf env runSub graph node ctx world).exit = .returned outcome) :
      VisitRun env runSub graph key node ctx world
        (visitOf key node (attemptsOf env runSub graph node ctx world).attempts (some outcome))
        ((attemptsOf env runSub graph node ctx world).ctx.recordStepOutcome outcome)

/-- What a visit makes of the variables of the run. -/
structure VisitEffect (before : RunState World Call)
    (visit : Visit Call (RunLog Call)) (ctx : ScopedFlowContext)
    (after : Turn (RunState World Call) (Departure World Call)) : Prop where
  visits : (endState after).visits = before.visits ++ [visit]
  ctx : (endState after).ctx = ctx
  totalSteps : (endState after).totalSteps = before.totalSteps
  counts : exitOf after = none → (endState after).nodeVisitCounts =
      if visit.restarts then [] else before.nodeVisitCounts
  returned : ∀ outcome, visit.outcome = some outcome →
    exitOf after = none ∨ exitOf after = some (.returned ())
  controlled : ∀ outcome, visit.outcome = some outcome → isControlled outcome = true →
      exitOf after = some (.returned ()) ∧ (endState after).currentId = TERMINAL_FAIL_ID ∧
        (endState after).lastNonRetryable = true

/-- What a turn can do. -/
inductive TurnCases (env : Env World Call) (runSub : SubRun World Call)
    (graph : ExecutionGraph) (state : RunState World Call)
    (result : Turn (RunState World Call) (Departure World Call)) : Prop where
  /-- The run is at its end, at the step limit or at a target that is no node. -/
  | ended (terminal : String) (error : Option String)
      (heq : result = .leave
          { state :=
              { state with currentId := terminal, lastFailureError := error }
            exit := .returned () })
      (hfailed : terminal = state.currentId ∨ terminal = TERMINAL_FAIL_ID)
  /-- The node was entered too often. -/
  | refused (node : Node) (error : PyError)
      (heq : result = .leave { state := state.enter node, exit := .raised error })
  | visited (node : Node) (visit : Visit Call (RunLog Call))
      (ctx : ScopedFlowContext)
      (hnode : Dict.getItem graph.nodes state.currentId = some node)
      (hsteps : (state.totalSteps : ℤ) < graph.maxTotalSteps)
      (hallowed : loopLimitError (state.enter node) node = none)
      (hrun : VisitRun env runSub graph state.currentId node state.ctx state.world visit ctx)
      (heffect : VisitEffect (state.enter node) visit ctx result)
      (hturn : result = visitNode env runSub graph node (state.enter node))

theorem effect_leave {after : RunState World Call} {visit : Visit Call (RunLog Call)}
    (exit : Exit Unit) (hvisits : after.visits = before.visits ++ [visit]) (hctx : after.ctx = ctx)
    (hsteps : after.totalSteps = before.totalSteps) (hnone : visit.outcome = none) :
    VisitEffect before visit ctx (.leave { state := after, exit }) where
  visits := hvisits
  ctx := hctx
  totalSteps := hsteps
  counts := by
    intro hagain
    cases hagain
  returned := by
    intro outcome houtcome
    rw [hnone] at houtcome
    cases houtcome
  controlled := by
    intro outcome houtcome
    rw [hnone] at houtcome
    cases houtcome

theorem effect_settle {visited : RunState World Call} {visit : Visit Call (RunLog Call)}
    (graph : ExecutionGraph) (node : Node) (houtcome : visit.outcome = some outcome)
    (hctx : visited.ctx.recordStepOutcome outcome = ctx)
    (hvisits : visited.visits = before.visits ++ [visit])
    (hsteps : visited.totalSteps = before.totalSteps)
    (hcounts : visited.nodeVisitCounts = before.nodeVisitCounts) :
    VisitEffect before visit ctx (settle graph node outcome visited) := by
  have hkept := settle_kept graph node outcome visited
  have hsame : ∀ other, visit.outcome = some other → other = outcome := by
    intro other hother
    exact Option.some.inj (hother.symm.trans houtcome)
  exact
    { visits := hkept.visits.trans hvisits
      ctx := hkept.ctx.trans hctx
      totalSteps := hkept.totalSteps.trans hsteps
      counts := by
        intro hagain
        rw [hkept.counts hagain, hcounts, Visit.restarts, houtcome]
        rfl
      returned := fun _ _ => hkept.exit
      controlled := by
        intro other hother hcontrolled
        rw [hsame other hother] at hcontrolled
        exact settle_controlled visited hcontrolled }

section

variable (env : Env World Call) (runSub : SubRun World Call) (graph : ExecutionGraph)

theorem visitNode_cases (node : Node) (state : RunState World Call) :
    ∃ visit ctx, VisitRun env runSub graph state.currentId node state.ctx state.world visit ctx ∧
      VisitEffect state visit ctx (visitNode env runSub graph node state) := by
  unfold visitNode
  cases hguard : skipReason env node state.ctx with
  | error error =>
    exact ⟨_, _, VisitRun.guardRaised hguard, effect_leave _ rfl rfl rfl rfl⟩
  | ok skip =>
    cases skip with
    | some reason =>
      refine ⟨_, _, VisitRun.skipped hguard, ?_⟩
      exact
        { visits := rfl
          ctx := rfl
          totalSteps := rfl
          counts := fun _ => rfl
          returned := fun _ _ => Or.inl rfl
          controlled := by
            intro outcome houtcome hcontrolled
            obtain rfl : skippedOutcome node.id reason = outcome :=
              Option.some.inj houtcome
            simp [isControlled, skippedOutcome, reviewOrStop] at hcontrolled }
    | none =>
      dsimp only
      have hattempts : attemptLoop env node (executeNode env runSub graph node)
          node.retryPolicy.maxAttempts.toNat state.ctx state.world =
            attemptsOf env runSub graph node state.ctx state.world := rfl
      rw [hattempts]
      cases hexit : (attemptsOf env runSub graph node state.ctx state.world).exit with
      | raised error =>
        exact ⟨_, _, VisitRun.interrupted hguard (by simp [hexit]), effect_leave _ rfl rfl rfl rfl⟩
      | cancelled level =>
        exact ⟨_, _, VisitRun.interrupted hguard (by simp [hexit]), effect_leave _ rfl rfl rfl rfl⟩
      | returned outcome =>
        refine ⟨_, _, VisitRun.settled hguard hexit, ?_⟩
        dsimp only
        exact effect_settle graph node rfl rfl rfl rfl rfl

theorem turn_cases (state : RunState World Call) :
    TurnCases env runSub graph state (turn env runSub graph state) := by
  unfold turn
  split
  · exact TurnCases.ended state.currentId state.lastFailureError rfl (Or.inl rfl)
  · split
    · exact TurnCases.ended _ _ rfl (Or.inr rfl)
    · next hlimit =>
      split
      · exact TurnCases.ended _ _ rfl (Or.inr rfl)
      · next node hnode =>
        dsimp only
        cases hallowed : loopLimitError (state.enter node) node with
        | some error => exact TurnCases.refused node error rfl
        | none =>
          obtain ⟨visit, ctx, hrun, heffect⟩ :=
            visitNode_cases env runSub graph node (state.enter node)
          exact TurnCases.visited node visit ctx hnode (by omega) hallowed hrun heffect rfl

end

/-! ## The loop -/

/-- How many steps a run may still take. -/
def stepsLeft (graph : ExecutionGraph) (state : RunState World Call) : ℕ :=
  graph.maxTotalSteps.toNat - state.totalSteps

theorem stepsLeft_turn {state next : RunState World Call}
    (hagain : turn env runSub graph state = .again next) :
    stepsLeft graph next < stepsLeft graph state := by
  have hcases := turn_cases env runSub graph state
  rw [hagain] at hcases
  cases hcases with
  | ended terminal error heq => cases heq
  | refused node error heq => cases heq
  | visited node visit ctx hnode hsteps hallowed hrun heffect =>
    have htotal : next.totalSteps = state.totalSteps + 1 := heffect.totalSteps
    unfold stepsLeft
    omega

theorem runLoop_leaves (env : Env World Call) (runSub : SubRun World Call)
    (graph : ExecutionGraph) (ctx : ScopedFlowContext) (world : World) :
    Leaves (turn env runSub graph) (entryState graph ctx world)
      (runLoop env runSub graph ctx world) :=
  whileLoop_leaves _ (stepsLeft graph)
    (fun _ _ hagain => stepsLeft_turn hagain) _ _ (Nat.sub_le _ _)

theorem buildResult_failed (env : Env World Call) (graph : ExecutionGraph)
    (state : RunState World Call) (hfailed : state.currentId ≠ TERMINAL_COMPLETE_ID) :
    (buildResult env graph state).success = false ∧
      ∃ failure, (buildResult env graph state).failure = some failure ∧
        failure.nonRetryable = state.lastNonRetryable := by
  have hsuccess : (state.currentId == TERMINAL_COMPLETE_ID) = false := by
    simpa using hfailed
  refine ⟨hsuccess, ?_⟩
  simp only [buildResult, hsuccess, Bool.false_eq_true, if_false]
  exact ⟨_, rfl, rfl⟩

theorem runLoop_invariant (Inv : RunState World Call → Prop) (Post : Departure World Call → Prop)
    (hentry : Inv (entryState graph ctx world))
    (hkeep : ∀ state next, Inv state → turn env runSub graph state = .again next →
      Inv next) (hpost : ∀ state departure, Inv state →
      turn env runSub graph state = .leave departure → Post departure) :
    Post (runLoop env runSub graph ctx world) :=
  (runLoop_leaves env runSub graph ctx world).invariant Inv Post hkeep hpost hentry

/-- The turn leaves the loop by an exception or a cancellation. -/
def LeavesAbruptly (after : Turn (RunState World Call) (Departure World Call)) : Prop :=
  ∃ departure, after = .leave departure ∧ departure.exit ≠ .returned ()

theorem runLoop_returned (Inv : RunState World Call → Prop)
    (hentry : Inv (entryState graph ctx world))
    (hturn : ∀ state, Inv state → Inv (endState (turn env runSub graph state)) ∨
      LeavesAbruptly (turn env runSub graph state))
    (hexit : (runLoop env runSub graph ctx world).exit = .returned ()) :
    Inv (runLoop env runSub graph ctx world).state := by
  refine runLoop_invariant Inv
    (fun departure => departure.exit = .returned () → Inv departure.state)
    hentry ?_ ?_ hexit
  · intro state next hinv hagain
    have hkept := hturn state hinv
    rw [hagain] at hkept
    rcases hkept with hnext | ⟨departure, heq, -⟩
    · exact hnext
    · cases heq
  · intro state departure hinv hleave hreturned
    have hkept := hturn state hinv
    rw [hleave] at hkept
    rcases hkept with hlast | ⟨other, heq, habrupt⟩
    · exact hlast
    · obtain rfl := Turn.leave.inj heq
      exact absurd hreturned habrupt

/-! ## Attempts -/

def letsRetry {R : Type} (policy : RetryPolicy) (attempt : Attempt Call R) : Bool :=
  match expire attempt.exit with
  | .returned outcome => outcome.signal == .retryNode
  | .raised error => !stopsRetry policy attempt.ctx error
  | .cancelled _ => false

theorem handleException_none {error : PyError}
    (hnone : handleException env node isLast error ctx world = (none, after)) :
    isLast = false ∧ stopsRetry node.retryPolicy ctx error = false := by
  unfold handleException at hnone
  split at hnone
  · simp at hnone
  · next hgo =>
    simp only [Bool.or_eq_true, not_or, Bool.not_eq_true] at hgo
    exact ⟨hgo.2, hgo.1⟩

theorem handleException_returned {error : PyError}
    (hreturned : handleException env node isLast error ctx world =
      (some (.returned outcome), after)) :
    outcome = failedOutcome node.id error := by
  unfold handleException at hreturned
  split at hreturned
  · simpa using congrArg Prod.fst hreturned.symm
  · unfold backoff at hreturned
    split at hreturned <;> simp at hreturned

theorem afterAttempt_none {reply : NodeReply World Call}
    (hnone : afterAttempt env node isLast reply = (none, after)) :
    isLast = false ∧ letsRetry node.retryPolicy reply.attempt = true := by
  unfold afterAttempt at hnone
  unfold letsRetry
  change _ ∧ (match expire reply.exit with
    | .returned outcome => outcome.signal == .retryNode
    | .raised error => !stopsRetry node.retryPolicy reply.ctx error
    | .cancelled _ => false) = true
  cases hexit : expire reply.exit with
  | cancelled level => simp [hexit] at hnone
  | raised error =>
    simp only [hexit] at hnone
    obtain ⟨hlast, hgo⟩ := handleException_none hnone
    exact ⟨hlast, by simp [hgo]⟩
  | returned outcome =>
    simp only [hexit] at hnone
    split at hnone
    · simp at hnone
    · next hsignal =>
      have hretry : outcome.signal = .retryNode := not_not.mp hsignal
      cases isLast with
      | true => simp at hnone
      | false => exact ⟨rfl, by simp [hretry]⟩

theorem returned_of_expire {exit : Exit StepOutcome} (hexpire : expire exit = .returned outcome) :
    exit = .returned outcome := by
  cases exit with
  | returned value => exact hexpire
  | raised error => cases hexpire
  | cancelled level => cases level <;> cases hexpire

/-- Where the outcome of a visit comes from: an attempt, or the engine that gave
the node up. -/
inductive OutcomeOf (node : Node) (attempts : List (Attempt Call (RunLog Call))) :
    StepOutcome → Prop where
  | attempt {outcome : StepOutcome} {attempt : Attempt Call (RunLog Call)}
      (hattempt : attempt ∈ attempts) (hexit : attempt.exit = .returned outcome) :
      OutcomeOf node attempts outcome
  | raised (error : PyError) : OutcomeOf node attempts (failedOutcome node.id error)
  | exhausted {outcome : StepOutcome} {attempt : Attempt Call (RunLog Call)}
      (hattempt : attempt ∈ attempts) (hexit : attempt.exit = .returned outcome) :
      OutcomeOf node attempts (exhausted outcome)
  | none : OutcomeOf node attempts { nodeId := node.id, status := .failed }

theorem OutcomeOf.mono {fewer more : List (Attempt Call (RunLog Call))} (hsubset : fewer ⊆ more)
    (houtcome : OutcomeOf node fewer outcome) :
    OutcomeOf node more outcome := by
  cases houtcome with
  | attempt hattempt hexit => exact .attempt (hsubset hattempt) hexit
  | raised error => exact .raised error
  | exhausted hattempt hexit => exact .exhausted (hsubset hattempt) hexit
  | none => exact .none

theorem afterAttempt_returned {reply : NodeReply World Call}
    (hreturned : afterAttempt env node isLast reply = (some (.returned outcome), after)) :
    OutcomeOf node [reply.attempt] outcome := by
  unfold afterAttempt at hreturned
  split at hreturned
  · simp at hreturned
  · rw [handleException_returned hreturned]
    exact .raised _
  · next result hexit =>
    have hreply : reply.attempt.exit = .returned result := returned_of_expire hexit
    split at hreturned
    · have hresult : result = outcome := by simpa using congrArg Prod.fst hreturned
      rw [← hresult]
      exact .attempt (List.mem_singleton.mpr rfl) hreply
    · split at hreturned
      · have hresult : exhausted result = outcome := by
          simpa using congrArg Prod.fst hreturned
        rw [← hresult]
        exact .exhausted (List.mem_singleton.mpr rfl) hreply
      · split at hreturned
        · simp at hreturned
        · simp at hreturned
        · rw [handleException_returned hreturned]
          exact .raised _

section Attempts

variable (env : Env World Call) (node : Node)
  (execute : ScopedFlowContext → World → NodeReply World Call)

theorem attemptLoop_length (remaining : ℕ) (ctx : ScopedFlowContext) (world : World) :
    (attemptLoop env node execute remaining ctx world).attempts.length ≤ remaining := by
  induction remaining generalizing ctx world with
  | zero => simp [attemptLoop]
  | succ remaining ih =>
    simp only [attemptLoop]
    split
    · simp
    · simpa using ih _ _

theorem attemptLoop_invariant (Inv : ScopedFlowContext → Prop)
    (hexecute : ∀ ctx world, Inv ctx → Inv (execute ctx world).ctx)
    (remaining : ℕ) (ctx : ScopedFlowContext) (world : World) (hinv : Inv ctx) :
    Inv (attemptLoop env node execute remaining ctx world).ctx ∧
      ∀ attempt ∈ (attemptLoop env node execute remaining ctx world).attempts,
        ∃ before start, Inv before ∧ attempt = (execute before start).attempt := by
  induction remaining generalizing ctx world with
  | zero => exact ⟨hinv, by simp [attemptLoop]⟩
  | succ remaining ih =>
    have hreply := hexecute ctx world hinv
    simp only [attemptLoop]
    split
    · refine ⟨hreply, ?_⟩
      intro attempt hattempt
      exact ⟨ctx, world, hinv, List.mem_singleton.mp hattempt⟩
    · next after _ =>
      obtain ⟨hctx, hattempts⟩ := ih (execute ctx world).ctx after hreply
      refine ⟨hctx, ?_⟩
      intro attempt hattempt
      rcases List.mem_cons.mp hattempt with heq | hrest
      · exact ⟨ctx, world, hinv, heq⟩
      · exact hattempts attempt hrest

variable {env node execute}

variable {remaining : ℕ} {ctx : ScopedFlowContext} {world : World}

theorem attemptLoop_mem {attempt : Attempt Call (RunLog Call)}
    (hattempt : attempt ∈ (attemptLoop env node execute remaining ctx world).attempts) :
    ∃ before start, attempt = (execute before start).attempt := by
  obtain ⟨before, start, -, heq⟩ :=
    (attemptLoop_invariant env node execute (fun _ => True) (fun _ _ _ => trivial)
      remaining ctx world trivial).2 attempt hattempt
  exact ⟨before, start, heq⟩

theorem attemptLoop_retried {before after : List (Attempt Call (RunLog Call))}
    {attempt : Attempt Call (RunLog Call)}
    (hsplit : (attemptLoop env node execute remaining ctx world).attempts =
      before ++ attempt :: after) (hafter : after ≠ []) :
    letsRetry node.retryPolicy attempt = true := by
  induction remaining generalizing ctx world before with
  | zero => simp [attemptLoop] at hsplit
  | succ remaining ih =>
    simp only [attemptLoop] at hsplit
    split at hsplit
    · cases before with
      | nil => simp_all
      | cons head tail => simp at hsplit
    · next hgo =>
      cases before with
      | nil =>
        have heq := (List.cons.inj hsplit).1
        rw [← heq]
        exact (afterAttempt_none hgo).2
      | cons head tail => exact ih (List.cons.inj hsplit).2

theorem attemptLoop_outcome {outcome : StepOutcome}
    (hexit : (attemptLoop env node execute remaining ctx world).exit = .returned outcome) :
    OutcomeOf node (attemptLoop env node execute remaining ctx world).attempts outcome := by
  induction remaining generalizing ctx world with
  | zero =>
    rw [← Exit.returned.inj hexit]
    exact .none
  | succ remaining ih =>
    simp only [attemptLoop] at hexit ⊢
    split at hexit
    · next exit after hstop =>
      obtain rfl : exit = .returned outcome := hexit
      exact afterAttempt_returned hstop
    · exact (ih hexit).mono (List.subset_cons_self _ _)

theorem attemptLoop_grows (Grows : ScopedFlowContext → ScopedFlowContext → Prop)
    (hrefl : ∀ ctx, Grows ctx ctx)
    (htrans : ∀ {first second third}, Grows first second → Grows second third → Grows first third)
    (hexecute : ∀ ctx world, Grows ctx (execute ctx world).ctx)
    (remaining : ℕ) (ctx : ScopedFlowContext) (world : World) :
    Grows ctx (attemptLoop env node execute remaining ctx world).ctx ∧
      ∀ attempt ∈ (attemptLoop env node execute remaining ctx world).attempts,
        Grows attempt.ctx (attemptLoop env node execute remaining ctx world).ctx := by
  induction remaining generalizing ctx world with
  | zero => exact ⟨hrefl ctx, by simp [attemptLoop]⟩
  | succ remaining ih =>
    simp only [attemptLoop]
    split
    · refine ⟨hexecute ctx world, ?_⟩
      intro attempt hattempt
      rw [List.mem_singleton.mp hattempt]
      exact hrefl _
    · next after _ =>
      obtain ⟨hctx, hattempts⟩ := ih (execute ctx world).ctx after
      refine ⟨htrans (hexecute ctx world) hctx, ?_⟩
      intro attempt hattempt
      rcases List.mem_cons.mp hattempt with heq | hrest
      · rw [heq]
        exact hctx
      · exact hattempts attempt hrest

end Attempts

/-! ## Nested runs -/

variable {left right : SubRun World Call}

section

variable (env : Env World Call)

theorem runBranches_congr (ctx : ScopedFlowContext) :
    ∀ (branches : List ExecutionGraph) (world : World),
      (∀ graph ∈ branches, left graph = right graph) →
      runBranches env left ctx branches world = runBranches env right ctx branches world := by
  intro branches
  induction branches with
  | nil => exact fun _ _ => rfl
  | cons graph rest ih =>
    intro world hagree
    have hrest : ∀ world, runBranches env left ctx rest world =
        runBranches env right ctx rest world := fun world =>
      ih world fun inner hinner => hagree inner (List.mem_cons_of_mem _ hinner)
    simp only [runBranches, hagree graph List.mem_cons_self, hrest]

section

variable (graph : ExecutionGraph)

theorem executeNode_congr (node : Node)
    (hagree : ∀ inner ∈ subgraphs node, left inner = right inner) :
    executeNode env left graph node = executeNode env right graph node := by
  funext ctx world
  unfold executeNode
  cases hkind : node.kind with
  | subflow subflowGraph config =>
    cases subflowGraph with
    | none => rfl
    | some inner =>
      have hinner : left inner = right inner :=
        hagree inner (by simp [subgraphs, hkind])
      simp only [runSubflowNode, hinner]
  | parallel branches mode joinStrategy policy =>
    have hbranches := fun world => runBranches_congr env ctx branches world
      fun inner hinner => hagree inner (by simpa [subgraphs, hkind] using hinner)
    simp only [runParallelNode, hbranches]
  | _ => rfl

section

variable
  (hagree : ∀ node ∈ Dict.valueList graph.nodes, ∀ inner ∈ subgraphs node, left inner = right inner)

include hagree

theorem turn_congr : turn env left graph = turn env right graph := by
  funext state
  unfold turn
  split
  · rfl
  · split
    · rfl
    · split
      · rfl
      · next node hnode =>
        have hexecute := executeNode_congr env graph node
          (hagree node (Dict.mem_valueList_of_getItem hnode))
        simp only [visitNode, hexecute]

theorem runWith_congr : runWith env left graph = runWith env right graph := by
  funext ctx world
  unfold runWith runLoop
  rw [turn_congr env graph hagree]

end

theorem run_eq : run env graph = runWith env (run env) graph :=
  levels_eq (fun _ => rfl) (runWith_congr env _) graph

theorem run_eq_conclude (ctx : ScopedFlowContext) (world : World) :
    run env graph ctx world = conclude env graph (runLoop env (run env) graph ctx world) := by
  rw [run_eq]
  rfl

end

end

end SignPulse.EngineLaws
