import SignPulse.Foundation.BoundedWalk
import SignPulse.Flow.PlainVisits

/-!
# Runs that follow a walk

A graph of action nodes without guards, retries and error handling, run with an
executor that answers yes or no, is a walk with visit limits: the nodes answer,
the answers choose the edges, and the loop limits are those of the walk.  Such a
run ends as the walk does, unless the step limit of the graph cuts it short.
-/

namespace SignPulse.WalkRuns

open Foundation
open FlowModels
open FlowContext
open RunEnvironment
open TargetAliases
open NodeRuns
open FlowEngine
open EngineLaws
open PlainVisits

variable {World Call W : Type}

/-! ## Graphs that follow a walk -/

/-- The id under which the engine knows a place. -/
def placeId : Place String → String
  | .node id => id
  | .complete => TERMINAL_COMPLETE_ID
  | .fail => TERMINAL_FAIL_ID

/-- How often a loop policy lets a run into its node. -/
def visitLimit (policy : LoopPolicy) : ℤ :=
  if policy.allowLoop then policy.maxVisits else 1

structure NodeFollows (walk : Walk String W) (id : String) (node : Node) : Prop where
  named : node.id = id
  action : isAction node = true
  unskipped : truthy node.skipIf = false
  unguarded : truthy node.runIf = false
  once : node.retryPolicy.maxAttempts = 1
  onSuccess : normalizeTarget (pyOr node.nextNodeId (some TERMINAL_COMPLETE_ID)) =
    placeId (walk.onSuccess id)
  onFailure : normalizeTarget (pyOr node.onFailureNodeId (some TERMINAL_FAIL_ID)) =
    placeId (walk.onFailure id)
  limit : visitLimit node.loopPolicy = walk.limit id

/-- The place is one of the two ends or a node of the walk. -/
def Known (walk : Walk String W) (place : Place String) : Prop :=
  ∀ id, place = .node id → id ∈ walk.nodes

structure Follows (walk : Walk String W) (graph : ExecutionGraph) : Prop where
  nodes : ∀ id ∈ walk.nodes, ∃ node, Dict.getItem graph.nodes id = some node ∧
    NodeFollows walk id node
  closed : ∀ id ∈ walk.nodes, Known walk (walk.onSuccess id) ∧ Known walk (walk.onFailure id)
  names : ∀ id ∈ walk.nodes, id ≠ "" ∧ atTerminal id = false
  unresumed : graph.resumeFromNodeId = none
  unhandled : graph.errorHandlerNodeId = none
  unbroken : graph.consecutiveFailureLimit = none

def answerOutcome (nodeId : String) (holds : Bool) : StepOutcome where
  nodeId := nodeId
  status := if holds then .success else .failed

/-- The executor answers as the walk does.  `Rel` says which worlds go with which
path and which world of the walk. -/
def Answers (walk : Walk String W)
    (executor : Node → ScopedFlowContext → World → ExecutorReply World Call)
    (Rel : World → List String → W → Prop) : Prop :=
  ∀ id ∈ walk.nodes, ∀ (node : Node) (ctx : ScopedFlowContext) (world : World)
    (path : List String) (inner : W), node.id = id → Rel world path inner →
      (executor node ctx world).exit = .returned (answerOutcome id (walk.answer id inner).1) ∧
        Rel (executor node ctx world).world (path ++ [id]) (walk.answer id inner).2

/-- A state of the run and a state of the walk that belong together. -/
structure Matches (walk : Walk String W) (Rel : World → List String → W → Prop)
    (here : Walk.State String W) (state : RunState World Call) : Prop where
  current : state.currentId = placeId here.place
  known : Known walk here.place
  steps : state.totalSteps = here.path.length
  path : state.executedPath = here.path
  counts : ∀ id, state.visitCount id = here.path.count id
  world : Rel state.world here.path here.world
  error : state.lastFailureError = here.lastFailed.map fun id => s!"Node {id} failed"

/-! ## One visit -/

@[simp]
theorem visitCount_enter_self (state : RunState World Call) (node : Node) :
    (state.enter node).visitCount node.id = state.visitCount node.id + 1 := by
  simp [RunState.visitCount, RunState.enter]

theorem visitCount_enter_of_ne (state : RunState World Call) (node : Node) {id : String}
    (hne : id ≠ node.id) : (state.enter node).visitCount id = state.visitCount id := by
  simp [RunState.visitCount, RunState.enter, Dict.getItem_setItem_of_ne _ _ hne]

theorem counts_enter {state : RunState World Call} {path : List String} {node : Node}
    (hcounts : ∀ id, state.visitCount id = path.count id) (id : String) :
    (state.enter node).visitCount id = (path ++ [node.id]).count id := by
  rw [List.count_append, List.count_singleton]
  by_cases hid : id = node.id
  · subst hid
    simp [hcounts]
  · simp [visitCount_enter_of_ne state node hid, hcounts, Ne.symm hid]

theorem loopLimitError_eq_none_iff (state : RunState World Call) (node : Node) :
    loopLimitError state node = none ↔
      (state.visitCount node.id : ℤ) ≤ visitLimit node.loopPolicy := by
  unfold loopLimitError visitLimit
  cases node.loopPolicy.allowLoop with
  | true => simp
  | false =>
    simp only [Bool.not_false, Bool.true_and, decide_eq_true_eq, Bool.false_and,
      Bool.false_eq_true, if_false]
    split
    · next hover =>
      simp only [reduceCtorEq, false_iff]
      omega
    · next hunder =>
      simp only [true_iff]
      omega

theorem name_of_loopLimitError {state : RunState World Call} {node : Node} {error : PyError}
    (herror : loopLimitError state node = some error) :
    error.name = "FlowLoopLimitExceededError" := by
  simp only [loopLimitError] at herror
  split at herror
  · rw [← Option.some.inj herror]
  · split at herror
    · rw [← Option.some.inj herror]
    · cases herror

theorem skipReason_of_unguarded {env : Env World Call} {walk : Walk String W} {id : String}
    {node : Node} (hnode : NodeFollows walk id node) (ctx : ScopedFlowContext) :
    skipReason env node ctx = .ok none := by
  simp [skipReason, hnode.unskipped, hnode.unguarded, pure, Except.pure, bind, Except.bind]

theorem answerOutcome_plain (node : Node) (id : String) (holds : Bool) :
    PlainOutcome node (answerOutcome id holds) where
  signal := rfl
  controlled := rfl
  terminal := Or.inl rfl

@[simp]
theorem goesOn_answerOutcome (id : String) (holds : Bool) :
    goesOn (answerOutcome id holds) = holds := by
  cases holds <;> rfl

theorem executeNode_action {env : Env World Call} {runSub : SubRun World Call}
    {graph : ExecutionGraph} {node : Node} (haction : isAction node = true)
    (ctx : ScopedFlowContext) (world : World) :
    executeNode env runSub graph node ctx world =
      ofExecutor (env.executor node (rememberAction ctx node) world) := by
  unfold isAction at haction
  split at haction
  · next rawAction hkind => simp only [executeNode, hkind]
  · cases haction

section Step

variable {env : Env World Call} {runSub : SubRun World Call} {graph : ExecutionGraph}
  {walk : Walk String W} {Rel : World → List String → W → Prop}
  {here : Walk.State String W} {state : RunState World Call} {id : String} {node : Node}

theorem matches_away (hfollows : Follows walk graph) (hmatches : Matches walk Rel here state)
    (hplace : here.place = .node id) :
    state.currentId = id ∧ state.currentId ≠ "" ∧ atTerminal state.currentId = false := by
  have hcurrent : state.currentId = id := by rw [hmatches.current, hplace, placeId]
  rw [hcurrent]
  exact ⟨rfl, hfollows.names id (hmatches.known id hplace)⟩

/-- The engine lets a run into a node as often as the walk is let in. -/
theorem loopLimitError_enter_iff (hfollows : NodeFollows walk id node)
    (hmatches : Matches walk Rel here state) (hknown : id ∈ walk.nodes) :
    loopLimitError (state.enter node) node = none ↔ walk.Admits here.path id := by
  rw [loopLimitError_eq_none_iff, visitCount_enter_self, hfollows.limit, hfollows.named,
    hmatches.counts]
  simp [Walk.Admits, hknown]

theorem errorAfter_answerOutcome (hnode : NodeFollows walk id node) (holds : Bool)
    (before : Option String) :
    errorAfter node (answerOutcome id holds) before =
      if holds then before else some s!"Node {id} failed" := by
  rw [errorAfter, goesOn_answerOutcome, hnode.named]
  rfl

theorem edgeTarget_answerOutcome (hfollows : Follows walk graph)
    (hnode : NodeFollows walk id node) (holds : Bool) :
    normalizeTarget (edgeTarget graph node (answerOutcome id holds)) =
      placeId (if holds then walk.onSuccess id else walk.onFailure id) := by
  have hfallback : fallbackTarget graph node = node.onFailureNodeId := by
    simp [fallbackTarget, hfollows.unhandled, truthy]
  rw [edgeTarget, goesOn_answerOutcome, hfallback]
  cases holds with
  | true => exact hnode.onSuccess
  | false => exact hnode.onFailure

theorem settle_answer (hfollows : Follows walk graph) (hnode : NodeFollows walk id node)
    (holds : Bool) (visited : RunState World Call) :
    ∃ after, settle graph node (answerOutcome id holds) visited = .again after ∧
      after.currentId = placeId (if holds then walk.onSuccess id else walk.onFailure id) ∧
      after.lastFailureError =
        (if holds then visited.lastFailureError else some s!"Node {id} failed") ∧
      after.totalSteps = visited.totalSteps ∧ after.executedPath = visited.executedPath ∧
      after.nodeVisitCounts = visited.nodeVisitCounts ∧ after.world = visited.world := by
  obtain ⟨after, hagain, hcurrent, herror⟩ := settle_proceeds hfollows.unbroken
    (answerOutcome_plain node id holds) visited
  have hkept := settle_kept graph node (answerOutcome id holds) visited
  rw [hagain] at hkept
  rw [edgeTarget_answerOutcome hfollows hnode] at hcurrent
  rw [errorAfter_answerOutcome hnode] at herror
  exact ⟨after, hagain, hcurrent, herror, hkept.totalSteps, hkept.executedPath,
    hkept.counts rfl, hkept.world⟩

variable {world : World} {inner : W} {finish : Walk.Finish String W} {entry : String}

theorem attempts_answer (hanswers : Answers walk env.executor Rel) (hknown : id ∈ walk.nodes)
    (hnode : NodeFollows walk id node) (ctx : ScopedFlowContext) {path : List String}
    (hrel : Rel world path inner) :
    (attemptsOf env runSub graph node ctx world).exit =
        .returned (answerOutcome id (walk.answer id inner).1) ∧
      Rel (attemptsOf env runSub graph node ctx world).world (path ++ [id])
        (walk.answer id inner).2 := by
  obtain ⟨hanswer, hafter⟩ :=
    hanswers id hknown node (rememberAction ctx node) world path inner hnode.named hrel
  have hexecute : executeNode env runSub graph node ctx world = _ :=
    executeNode_action hnode.action ctx world
  have hreturned : (executeNode env runSub graph node ctx world).exit =
      .returned (answerOutcome id (walk.answer id inner).1) := by
    rw [hexecute]
    exact hanswer
  obtain ⟨hexit, -, hworld⟩ := attemptsOf_once hnode.once hreturned rfl
  refine ⟨hexit, ?_⟩
  rw [hworld, hexecute]
  exact hafter

theorem visit_follows (hfollows : Follows walk graph) (hanswers : Answers walk env.executor Rel)
    (hmatches : Matches walk Rel here state) (hknown : id ∈ walk.nodes)
    (hnode : NodeFollows walk id node) :
    ∃ after, visitNode env runSub graph node (state.enter node) = .again after ∧
      Matches walk Rel (walk.step id here) after := by
  have hattempts : (attemptsOf env runSub graph node (state.enter node).ctx
      (state.enter node).world).exit = _ ∧ _ :=
    attempts_answer hanswers hknown hnode (state.enter node).ctx hmatches.world
  obtain ⟨hexit, hworld⟩ := hattempts
  rw [visitNode_settled (skipReason_of_unguarded hnode _) hexit]
  obtain ⟨after, hagain, hcurrent, herror, hsteps, hpath, hcounts, hafter⟩ :=
    settle_answer hfollows hnode (walk.answer id here.world).1 _
  refine ⟨after, hagain, ?_⟩
  exact
    { current := hcurrent
      known := by
        obtain ⟨hsuccess, hfailure⟩ := hfollows.closed id hknown
        simp only [Walk.step]
        split
        · exact hsuccess
        · exact hfailure
      steps := by
        rw [hsteps]
        simp [RunState.enter, Walk.step, hmatches.steps]
      path := by
        rw [hpath]
        simp [RunState.enter, Walk.step, hmatches.path, hnode.named]
      counts := by
        intro other
        have hcount : after.visitCount other = (state.enter node).visitCount other := by
          simp only [RunState.visitCount, hcounts]
        rw [hcount, counts_enter hmatches.counts, hnode.named]
        rfl
      world := by
        rw [hafter]
        exact hworld
      error := by
        rw [herror]
        simp only [Walk.step]
        split
        · exact hmatches.error
        · rfl }

/-! ## One turn -/

/-- The steps that the graph allows are not used up. -/
def Within (graph : ExecutionGraph) (path : List String) : Prop :=
  (path.length : ℤ) < graph.maxTotalSteps

theorem turn_again_follows {next : Walk.State String W} (hfollows : Follows walk graph)
    (hanswers : Answers walk env.executor Rel) (hmatches : Matches walk Rel here state)
    (hwithin : Within graph here.path) (hturn : walk.turn here = .again next) :
    ∃ after, turn env runSub graph state = .again after ∧ Matches walk Rel next after := by
  obtain ⟨id, hplace, hadmits, rfl⟩ := Walk.turn_again hturn
  obtain ⟨hcurrent, hne, haway⟩ := matches_away hfollows hmatches hplace
  obtain ⟨node, hfound, hnode⟩ := hfollows.nodes id hadmits.1
  have hallowed := (loopLimitError_enter_iff hnode hmatches hadmits.1).mpr hadmits
  rw [turn_at_node hne haway (by rw [hmatches.steps]; exact hwithin) (hcurrent ▸ hfound) hallowed]
  exact visit_follows hfollows hanswers hmatches hadmits.1 hnode

/-- How a run that followed a walk is left: at the same end; with the loop error;
or at the step limit. -/
inductive LeftAs (walk : Walk String W) (Rel : World → List String → W → Prop)
    (graph : ExecutionGraph) (finish : Walk.Finish String W)
    (departure : Departure World Call) : Prop where
  | ended (hending : finish.ending ≠ .refused) (hexit : departure.exit = .returned ())
      (hplace : finish.last.place = if finish.ending = .completed then .complete else .fail)
      (hmatches : Matches walk Rel finish.last departure.state)
  | refused {error : PyError} (hending : finish.ending = .refused)
      (hwithin : Within graph finish.last.path) (hexit : departure.exit = .raised error)
      (hname : error.name = "FlowLoopLimitExceededError")
      (hworld : Rel departure.state.world finish.last.path finish.last.world)
  | stopped (hending : finish.ending = .refused) (hlimit : ¬ Within graph finish.last.path)
      (hexit : departure.exit = .returned ())
      (hworld : Rel departure.state.world finish.last.path finish.last.world)

theorem turn_leave_follows (hfollows : Follows walk graph) (hmatches : Matches walk Rel here state)
    (hturn : walk.turn here = .leave finish) :
    ∃ departure, turn env runSub graph state = .leave departure ∧
      LeftAs walk Rel graph finish departure := by
  cases Walk.turn_leave hturn with
  | completed hplace =>
    have hcurrent : state.currentId = TERMINAL_COMPLETE_ID := by
      rw [hmatches.current, hplace, placeId]
    refine ⟨{ state, exit := .returned () }, ?_, .ended (by simp) rfl hplace hmatches⟩
    simp [turn, hcurrent, atTerminal]
  | failed hplace =>
    have hcurrent : state.currentId = TERMINAL_FAIL_ID := by
      rw [hmatches.current, hplace, placeId]
    refine ⟨{ state, exit := .returned () }, ?_, .ended (by simp) rfl hplace hmatches⟩
    simp [turn, hcurrent, atTerminal]
  | @refused id hplace hrefused =>
    obtain ⟨hcurrent, hne, haway⟩ := matches_away hfollows hmatches hplace
    have hknown := hmatches.known id hplace
    obtain ⟨node, hfound, hnode⟩ := hfollows.nodes id hknown
    by_cases hwithin : Within graph here.path
    · cases hallowed : loopLimitError (state.enter node) node with
      | none =>
        exact absurd ((loopLimitError_enter_iff hnode hmatches hknown).mp hallowed) hrefused
      | some error =>
        refine ⟨{ state := state.enter node, exit := .raised error }, ?_,
          .refused rfl hwithin rfl (name_of_loopLimitError hallowed) hmatches.world⟩
        rw [turn, if_neg (by simp [hne, haway]), if_neg, hcurrent, hfound]
        · dsimp only
          rw [hallowed]
        · rw [hmatches.steps]
          exact not_le.mpr hwithin
    · let error := s!"Flow step limit exceeded: {graph.maxTotalSteps}"
      refine ⟨{ state :=
          { state with lastFailureError := some error, currentId := TERMINAL_FAIL_ID }
                exit := .returned () }, ?_,
        .stopped rfl hwithin rfl hmatches.world⟩
      rw [turn, if_neg (by simp [hne, haway]), if_pos]
      · rfl
      · rw [hmatches.steps]
        exact not_lt.mp hwithin

/-! ## The run -/

theorem matches_entry {ctx : ScopedFlowContext} (hfollows : Follows walk graph)
    (hentry : graph.entryNodeId = entry) (hknown : entry ∈ walk.nodes) (hrel : Rel world [] inner) :
    Matches walk Rel { place := .node entry, world := inner }
      (entryState graph ctx world : RunState World Call) where
  current := by
    simp [entryState, hfollows.unresumed, hentry, placeId, pyOrElse, pyOr, truthy]
  known := by
    rintro id hid
    cases hid
    exact hknown
  steps := rfl
  path := rfl
  counts := fun _ => rfl
  world := hrel
  error := rfl

theorem runLoop_follows (ctx : ScopedFlowContext) (hfollows : Follows walk graph)
    (hanswers : Answers walk env.executor Rel) (hentry : graph.entryNodeId = entry)
    (hknown : entry ∈ walk.nodes) (hrel : Rel world [] inner)
    (hsteps : ((walk.finish { place := .node entry, world := inner }).last.path.length : ℤ) ≤
      graph.maxTotalSteps) :
    LeftAs walk Rel graph (walk.finish { place := .node entry, world := inner })
      (runLoop env runSub graph ctx world) := by
  have hleaves := walk.finish_leaves { place := .node entry, world := inner }
  have hagain : ∀ (here next : Walk.State String W) (state : RunState World Call),
      Matches walk Rel here state → walk.turn here = .again next →
        Leaves walk.turn next (walk.finish { place := .node entry, world := inner }) →
          ∃ after, turn env runSub graph state = .again after ∧ Matches walk Rel next after := by
    intro here next state hmatches hturn hrest
    refine turn_again_follows hfollows hanswers hmatches ?_ hturn
    obtain ⟨id, -, -, rfl⟩ := Walk.turn_again hturn
    have hpath := Walk.path_le_finish hrest
    simp only [Walk.step, List.length_append, List.length_singleton] at hpath
    unfold Within
    omega
  obtain ⟨departure, hdeparture, hleft⟩ := hleaves.simulates (Matches walk Rel)
    (LeftAs walk Rel graph) hagain
    (fun _ _ hmatches hturn => turn_leave_follows hfollows hmatches hturn)
    (matches_entry hfollows hentry hknown hrel)
  have hrun := runLoop_leaves env runSub graph ctx world
  rwa [hdeparture.unique hrun] at hleft

/-! ## The result -/

/-- The error of a walk that failed: it names the last node that answered no. -/
def failureMessage (finish : Walk.Finish String W) : String :=
  pyOrElse (finish.last.lastFailed.map fun id => s!"Node {id} failed")
    s!"Workflow failed at node {TERMINAL_FAIL_ID}"

/-- What a run makes of the end of the walk that it followed. -/
inductive EndsAs (redact : String → String) (graph : ExecutionGraph)
    (finish : Walk.Finish String W) (exit : Exit FlowResult) : Prop where
  | ended {result : FlowResult} (hending : finish.ending ≠ .refused)
      (hexit : exit = .returned result)
      (hsuccess : result.success = decide (finish.ending = .completed))
      (hpath : result.path = finish.last.path)
      (herror : result.failure.map Failure.error = if finish.ending = .completed then none
        else some (redact (failureMessage finish)))
  | refused {error : PyError} (hending : finish.ending = .refused)
      (hwithin : Within graph finish.last.path) (hexit : exit = .raised error)
      (hname : error.name = "FlowLoopLimitExceededError")
  | stopped {result : FlowResult} (hending : finish.ending = .refused)
      (hlimit : ¬ Within graph finish.last.path) (hexit : exit = .returned result)

theorem buildResult_matches {last : RunState World Call}
    (hplace : finish.last.place = if finish.ending = .completed then .complete else .fail)
    (hmatches : Matches walk Rel finish.last last) :
    (buildResult env graph last).success = decide (finish.ending = .completed) ∧
      (buildResult env graph last).failure.map Failure.error =
        if finish.ending = .completed then none
        else some (env.redactTraceText (failureMessage finish)) := by
  have hcurrent := hmatches.current
  rw [hplace] at hcurrent
  by_cases hcompleted : finish.ending = .completed
  · simp only [hcompleted, if_true, placeId] at hcurrent
    simp [buildResult, hcurrent, hcompleted]
  · simp only [hcompleted, if_false, placeId] at hcurrent
    have hfailed : (TERMINAL_FAIL_ID == TERMINAL_COMPLETE_ID) = false := by decide
    have hlast : pyOrElse (some TERMINAL_FAIL_ID) "unknown" = TERMINAL_FAIL_ID := by decide
    simp [buildResult, hcurrent, hcompleted, hfailed, hlast, hmatches.error, failureMessage]

theorem conclude_returned {departure : Departure World Call}
    (hexit : departure.exit = .returned ()) :
    (conclude env graph departure).exit = .returned (buildResult env graph departure.state) := by
  simp only [conclude, hexit]

theorem endsAs_conclude {departure : Departure World Call}
    (hleft : LeftAs walk Rel graph finish departure) :
    EndsAs env.redactTraceText graph finish (conclude env graph departure).exit ∧
      Rel (conclude env graph departure).world finish.last.path finish.last.world := by
  cases hleft with
  | ended hending hexit hplace hmatches =>
    obtain ⟨hsuccess, herror⟩ := buildResult_matches hplace hmatches
    exact ⟨.ended hending (conclude_returned hexit) hsuccess hmatches.path herror, hmatches.world⟩
  | refused hending hwithin hexit hname hworld =>
    exact ⟨.refused hending hwithin (by simp only [conclude, hexit]) hname, hworld⟩
  | stopped hending hlimit hexit hworld =>
    exact ⟨.stopped hending hlimit (conclude_returned hexit), hworld⟩

theorem run_follows (ctx : ScopedFlowContext) (hfollows : Follows walk graph)
    (hanswers : Answers walk env.executor Rel) (hentry : graph.entryNodeId = entry)
    (hknown : entry ∈ walk.nodes) (hrel : Rel world [] inner)
    (hsteps : ((walk.finish { place := .node entry, world := inner }).last.path.length : ℤ) ≤
      graph.maxTotalSteps) :
    EndsAs env.redactTraceText graph (walk.finish { place := .node entry, world := inner })
        (run env graph ctx world).exit ∧
      Rel (run env graph ctx world).world
        (walk.finish { place := .node entry, world := inner }).last.path
        (walk.finish { place := .node entry, world := inner }).last.world := by
  rw [run_eq_conclude]
  exact endsAs_conclude (runLoop_follows ctx hfollows hanswers hentry hknown hrel hsteps)

end Step

end SignPulse.WalkRuns
