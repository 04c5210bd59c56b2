import SignPulse.Flow.RunLogs

/-!
# The report of a run

`PulseFlowEngine._build_trace` and `_calculate_metrics`, and that they agree with
the path and the number of steps of the result they belong to.
-/

namespace SignPulse.RunReport

open Foundation
open FlowModels
open FlowContext
open RunEnvironment
open NodeRuns
open FlowEngine
open EngineLaws
open NodeLaws
open RunLogs

variable {World Call : Type}

/-! ## Trace and metrics -/

def reportedOutcomes (executedPath : List String) (ctx : ScopedFlowContext) : List StepOutcome :=
  if ctx.stepHistory.isEmpty then
    executedPath.filterMap (Dict.getItem ctx.stepOutcomes)
  else ctx.stepHistory

/-- An entry of the trace.  `output` and `output_text` are the same text. -/
structure TraceEntry where
  nodeId : String
  status : NodeStatus
  outputText : String
  extractedVars : Dict String PyValue
  matchedTerminal : Bool
  signal : FlowSignal
  targetNodeId : Option String
  error : Option String
  details : StepDetails

/-- How a trace hides secrets: `_redact_trace_text` and `redact_sensitive_value`. -/
structure Redaction where
  text : String → String
  vars : Dict String PyValue → Dict String PyValue

def traceEntry (redaction : Redaction) (outcome : StepOutcome) : TraceEntry where
  nodeId := outcome.nodeId
  status := outcome.status
  outputText := redaction.text outcome.outputText
  extractedVars := redaction.vars outcome.extractedVars
  matchedTerminal := outcome.matchedTerminal
  signal := outcome.signal
  targetNodeId := outcome.targetNodeId
  error := outcome.error.map fun error => redaction.text error.message
  details := outcome.details

/-- `_build_trace`. -/
def buildTrace (redaction : Redaction) (executedPath : List String)
    (ctx : ScopedFlowContext) : List TraceEntry :=
  (reportedOutcomes executedPath ctx).map (traceEntry redaction)

structure Metrics where
  totalSteps : ℕ
  uniqueNodesCount : ℕ
  succeededSteps : ℕ := 0
  failedSteps : ℕ := 0
  skippedSteps : ℕ := 0
  timeoutSteps : ℕ := 0
  deriving DecidableEq, Repr

def countOutcome (metrics : Metrics) (outcome : StepOutcome) : Metrics :=
  if succeededStatus outcome.status then
    { metrics with succeededSteps := metrics.succeededSteps + 1 }
  else if outcome.status = .skipped then
    { metrics with skippedSteps := metrics.skippedSteps + 1 }
  else if outcome.status = .timeout then
    { metrics with
      timeoutSteps := metrics.timeoutSteps + 1
      failedSteps := metrics.failedSteps + 1 }
  else if outcome.status = .failed then
    { metrics with failedSteps := metrics.failedSteps + 1 }
  else metrics

/-- `_calculate_metrics`. -/
def calculateMetrics (executedPath : List String) (ctx : ScopedFlowContext) : Metrics :=
  (reportedOutcomes executedPath ctx).foldl countOutcome
    { totalSteps := executedPath.length
      uniqueNodesCount := executedPath.dedup.length }

/-! ## What the metrics count -/

/-- The counters are those of `before` and of the outcomes together. -/
structure Counts (before after : Metrics) (outcomes : List StepOutcome) : Prop where
  total : after.totalSteps = before.totalSteps
  unique : after.uniqueNodesCount = before.uniqueNodesCount
  succeeded : after.succeededSteps = before.succeededSteps +
    outcomes.countP fun outcome => succeededStatus outcome.status
  skipped : after.skippedSteps = before.skippedSteps +
    outcomes.countP fun outcome => outcome.status == .skipped
  failed : after.failedSteps = before.failedSteps +
    outcomes.countP fun outcome => failedStatus outcome.status
  timeouts : after.timeoutSteps = before.timeoutSteps +
    outcomes.countP fun outcome => outcome.status == .timeout

theorem counts_one (metrics : Metrics) (outcome : StepOutcome) :
    Counts metrics (countOutcome metrics outcome) [outcome] := by
  unfold countOutcome
  cases hstatus : outcome.status <;> constructor <;> simp [hstatus, succeededStatus, failedStatus]

theorem Counts.append {before middle after : Metrics} {first second : List StepOutcome}
    (hfirst : Counts before middle first) (hsecond : Counts middle after second) :
    Counts before after (first ++ second) where
  total := hsecond.total.trans hfirst.total
  unique := hsecond.unique.trans hfirst.unique
  succeeded := by rw [hsecond.succeeded, hfirst.succeeded, List.countP_append, Nat.add_assoc]
  skipped := by rw [hsecond.skipped, hfirst.skipped, List.countP_append, Nat.add_assoc]
  failed := by rw [hsecond.failed, hfirst.failed, List.countP_append, Nat.add_assoc]
  timeouts := by rw [hsecond.timeouts, hfirst.timeouts, List.countP_append, Nat.add_assoc]

theorem counts_foldl (outcomes : List StepOutcome) :
    ∀ metrics, Counts metrics (outcomes.foldl countOutcome metrics) outcomes := by
  induction outcomes with
  | nil => exact fun metrics => ⟨rfl, rfl, rfl, rfl, rfl, rfl⟩
  | cons outcome rest ih =>
    intro metrics
    exact (counts_one metrics outcome).append (ih (countOutcome metrics outcome))

theorem counted_once {status : NodeStatus} (hfinal : finalStatus status = true) :
    (if succeededStatus status = true then 1 else 0) +
        (if failedStatus status = true then 1 else 0) +
        (if (status == .skipped) = true then 1 else 0) = 1 := by
  cases status <;> first | rfl | cases hfinal

theorem length_eq_counts {outcomes : List StepOutcome}
    (hfinal : ∀ outcome ∈ outcomes, finalStatus outcome.status = true) :
    (outcomes.countP fun outcome => succeededStatus outcome.status) +
        (outcomes.countP fun outcome => failedStatus outcome.status) +
        (outcomes.countP fun outcome => outcome.status == .skipped) =
      outcomes.length := by
  induction outcomes with
  | nil => rfl
  | cons outcome rest ih =>
    have hrest := ih fun other hother => hfinal other (List.mem_cons_of_mem _ hother)
    have hone := counted_once (hfinal outcome List.mem_cons_self)
    simp only [List.countP_cons, List.length_cons]
    omega

/-! ## The step history of a run -/

/-- A step that leaves the step history alone. -/
def SameHistory (before after : ScopedFlowContext) : Prop :=
  after.stepHistory = before.stepHistory

theorem sameHistory_frame : Frame SameHistory where
  trans := fun hfirst hsecond => hsecond.trans hfirst
  engine := fun _ hsame _ => hsame

/-- The executor returns outcomes in the name of the executed node and with a final
status, and leaves the step history to the engine. -/
structure Reports (env : Env World Call) : Prop where
  names : ExecutorNames env
  final : ∀ node ctx world outcome, (env.executor node ctx world).exit = .returned outcome →
      finalStatus outcome.status = true
  keeps : ExecutorGrows env SameHistory

/-- The history tells the path. -/
structure TellsPath (state : RunState World Call) : Prop where
  path : state.ctx.stepHistory.map StepOutcome.nodeId = state.executedPath
  steps : state.totalSteps = state.executedPath.length
  final : ∀ outcome ∈ state.ctx.stepHistory, finalStatus outcome.status = true

section Run

variable {env : Env World Call} {runSub : SubRun World Call} {graph : ExecutionGraph}

theorem attemptsOf_final (hreports : Reports env) {node : Node}
    {ctx : ScopedFlowContext} {world : World} {outcome : StepOutcome}
    (hexit : (attemptsOf env runSub graph node ctx world).exit = .returned outcome) :
    finalStatus outcome.status = true := by
  refine attemptsOf_outcome (fun outcome => finalStatus outcome.status = true) ?_ ?_ hexit
    (fun _ _ => rfl)
  · intro before start result hresult
    rcases executeNode_outcome hresult with hown | ⟨earlier, begun, hexecutor⟩
    · exact hown.final
    · exact hreports.final _ _ _ _ hexecutor
  · intro result _ _ hfailed
    cases hstatus : result.status <;> simp_all [failedStatus, finalStatus]

theorem visitRun_history (hreports : Reports env) {key : String} {node : Node}
    {ctx after : ScopedFlowContext} {world : World} {visit : Visit Call (RunLog Call)}
    (hrun : VisitRun env runSub graph key node ctx world visit after) :
    visit.outcome = none ∨ ∃ outcome, after.stepHistory = ctx.stepHistory ++ [outcome] ∧
      outcome.nodeId = node.id ∧ finalStatus outcome.status = true := by
  cases hrun with
  | guardRaised hguard => exact Or.inl rfl
  | skipped hguard => exact Or.inr ⟨_, rfl, rfl, rfl⟩
  | interrupted hguard hexit => exact Or.inl rfl
  | settled hguard hexit =>
    have hsame : SameHistory ctx (attemptsOf env runSub graph node ctx world).ctx :=
      (attemptsOf_grows sameHistory_frame hreports.keeps runSub ctx world).1
    refine Or.inr ⟨_, ?_, attemptsOf_nodeId hreports.names hexit, attemptsOf_final hreports hexit⟩
    rw [← show (attemptsOf env runSub graph node ctx world).ctx.stepHistory =
      ctx.stepHistory from hsame]
    rfl

theorem visitNode_none {node : Node} {state : RunState World Call} {key : String}
    {after : ScopedFlowContext} {visit : Visit Call (RunLog Call)}
    (hrun : VisitRun env runSub graph key node state.ctx state.world visit after)
    (hnone : visit.outcome = none) :
    LeavesAbruptly (visitNode env runSub graph node state) := by
  unfold visitNode
  cases hrun with
  | guardRaised hguard =>
    rw [hguard]
    exact ⟨_, rfl, by simp⟩
  | skipped hguard => cases hnone
  | settled hguard hexit => cases hnone
  | interrupted hguard hexit =>
    rw [hguard]
    dsimp only
    split
    · exact ⟨_, rfl, by simp⟩
    · exact ⟨_, rfl, by simp⟩
    · next outcome hreturned => exact absurd hreturned (hexit outcome)

theorem visitNode_path (node : Node) (state : RunState World Call) :
    (endState (visitNode env runSub graph node state)).executedPath = state.executedPath := by
  unfold visitNode
  split
  · rfl
  · rfl
  · dsimp only
    split
    · rfl
    · rfl
    · exact (settle_kept graph node _ _).executedPath

variable (runSub graph) in
theorem tellsPath_turn (hreports : Reports env) {state : RunState World Call}
    (htells : TellsPath state) :
    TellsPath (endState (turn env runSub graph state)) ∨
      LeavesAbruptly (turn env runSub graph state) := by
  cases turn_cases env runSub graph state with
  | ended terminal error heq =>
    rw [heq]
    exact Or.inl ⟨htells.path, htells.steps, htells.final⟩
  | refused node error heq => exact Or.inr ⟨_, heq, by simp⟩
  | visited node visit ctx hnode hsteps hallowed hrun heffect hturn =>
    have hpath : (endState (turn env runSub graph state)).executedPath =
        state.executedPath ++ [node.id] := by
      rw [hturn]
      exact visitNode_path node (state.enter node)
    rcases visitRun_history hreports hrun with hnone | ⟨outcome, hhistory, hid, hfinal⟩
    · rw [hturn]
      have hrun : VisitRun env runSub graph state.currentId node
        (state.enter node).ctx (state.enter node).world visit ctx := hrun
      exact Or.inr (visitNode_none hrun hnone)
    · refine Or.inl ⟨?_, ?_, ?_⟩
      · rw [heffect.ctx, hhistory, hpath, List.map_append, htells.path]
        simp [hid]
      · rw [heffect.totalSteps, hpath]
        simp [RunState.enter, htells.steps]
      · rw [heffect.ctx, hhistory]
        intro other hother
        rcases List.mem_append.mp hother with hold | hnew
        · exact htells.final other hold
        · rw [List.mem_singleton.mp hnew]
          exact hfinal

theorem run_tellsPath (hreports : Reports env) {ctx : ScopedFlowContext}
    (hfresh : ctx.stepHistory = []) (world : World)
    (hexit : (runLoop env (run env) graph ctx world).exit = .returned ()) :
    TellsPath (runLoop env (run env) graph ctx world).state := by
  apply runLoop_returned TellsPath _ (fun _ htells => tellsPath_turn _ graph hreports htells) hexit
  exact ⟨by simp [entryState, hfresh], rfl, by simp [entryState, hfresh]⟩

end Run

/-- Path, number of steps, trace and metrics of a result tell the same story. -/
structure Agrees (redaction : Redaction) (result : FlowResult) (ctx : ScopedFlowContext) :
    Prop where
  steps : result.steps = result.path.length
  traceLength : (buildTrace redaction result.path ctx).length = result.steps
  named : (buildTrace redaction result.path ctx).map TraceEntry.nodeId = result.path
  total : (calculateMetrics result.path ctx).totalSteps = result.steps
  counted : (calculateMetrics result.path ctx).succeededSteps +
      (calculateMetrics result.path ctx).failedSteps +
      (calculateMetrics result.path ctx).skippedSteps = result.steps
  timeouts : (calculateMetrics result.path ctx).timeoutSteps =
      ctx.stepHistory.countP (fun outcome => outcome.status == .timeout) ∧
    (calculateMetrics result.path ctx).failedSteps =
      ctx.stepHistory.countP (fun outcome => outcome.status == .failed) +
        (calculateMetrics result.path ctx).timeoutSteps

theorem reportedOutcomes_of_tellsPath {state : RunState World Call} (htells : TellsPath state) :
    reportedOutcomes state.executedPath state.ctx = state.ctx.stepHistory := by
  unfold reportedOutcomes
  split
  · next hempty =>
    have hnil : state.ctx.stepHistory = [] := List.isEmpty_iff.mp hempty
    rw [← htells.path, hnil]
    rfl
  · rfl

theorem countP_failed (outcomes : List StepOutcome) :
    (outcomes.countP fun outcome => failedStatus outcome.status) =
      outcomes.countP (fun outcome => outcome.status == .failed) +
        outcomes.countP (fun outcome => outcome.status == .timeout) := by
  induction outcomes with
  | nil => rfl
  | cons outcome rest ih =>
    simp only [List.countP_cons, ih]
    cases outcome.status <;> simp [failedStatus] <;> omega

theorem agrees_of_tellsPath (redaction : Redaction) (env : Env World Call)
    (graph : ExecutionGraph) {state : RunState World Call} (htells : TellsPath state) :
    Agrees redaction (buildResult env graph state) state.ctx := by
  have houtcomes := reportedOutcomes_of_tellsPath htells
  have hlength : state.ctx.stepHistory.length = state.executedPath.length := by
    rw [← htells.path, List.length_map]
  have hcounts := counts_foldl state.ctx.stepHistory
    { totalSteps := state.executedPath.length
      uniqueNodesCount := state.executedPath.dedup.length }
  have hmetrics : calculateMetrics state.executedPath state.ctx =
      state.ctx.stepHistory.foldl countOutcome
        { totalSteps := state.executedPath.length
          uniqueNodesCount := state.executedPath.dedup.length } := by
    rw [calculateMetrics, houtcomes]
  rw [← hmetrics] at hcounts
  have hsum := length_eq_counts htells.final
  have hfailed := countP_failed state.ctx.stepHistory
  obtain ⟨htotal, -, hsucceeded, hskipped, hfailedSteps, htimeouts⟩ := hcounts
  dsimp only at hsucceeded hskipped hfailedSteps htimeouts
  exact
    { steps := htells.steps
      traceLength := by
        change (buildTrace redaction state.executedPath state.ctx).length = state.totalSteps
        rw [buildTrace, houtcomes, List.length_map, htells.steps, hlength]
      named := by
        change (buildTrace redaction state.executedPath state.ctx).map TraceEntry.nodeId =
          state.executedPath
        rw [buildTrace, houtcomes, List.map_map]
        exact htells.path
      total := htotal.trans htells.steps.symm
      counted := by
        change (calculateMetrics state.executedPath state.ctx).succeededSteps +
          (calculateMetrics state.executedPath state.ctx).failedSteps +
          (calculateMetrics state.executedPath state.ctx).skippedSteps = state.totalSteps
        rw [hsucceeded, hskipped, hfailedSteps, htells.steps]
        omega
      timeouts := by
        change (calculateMetrics state.executedPath state.ctx).timeoutSteps = _ ∧
          (calculateMetrics state.executedPath state.ctx).failedSteps =
            _ + (calculateMetrics state.executedPath state.ctx).timeoutSteps
        rw [htimeouts, hfailedSteps]
        omega }

/-- A run from a fresh context reports a trace and metrics that agree with its path
and its number of steps. -/
theorem run_report_agrees {env : Env World Call} (hreports : Reports env)
    (redaction : Redaction) {graph : ExecutionGraph} {ctx : ScopedFlowContext}
    (hfresh : ctx.stepHistory = []) {world : World} {result : FlowResult}
    (hexit : (run env graph ctx world).log.exit = .returned result) :
    Agrees redaction result (run env graph ctx world).log.ctx := by
  rw [run_eq_conclude] at hexit ⊢
  obtain ⟨hreturned, rfl⟩ := returned_of_conclude hexit
  have htells := run_tellsPath hreports hfresh world hreturned
  exact agrees_of_tellsPath redaction env graph htells

/-! ## Two executors -/

/-- An executor that answers with `status`. -/
def answering (status : NodeStatus) : Env Unit Unit :=
  Env.still fun node ctx world =>
    { exit := .returned { nodeId := node.id, status }, ctx, world }

/-- An executor that records its outcome by itself. -/
def recordingEnv : Env Unit Unit :=
  Env.still fun node ctx world =>
    { exit := .returned { nodeId := node.id, status := .success }
      ctx := ctx.recordStepOutcome { nodeId := node.id, status := .success }
      world }

def oneStep : ExecutionGraph where
  entryNodeId := "checkin"
  nodes := [("checkin", { id := "checkin" })]

def showAll : Redaction where
  text := id
  vars := id

/-- The outcome that the executor recorded stands in the trace once more. -/
theorem recorded_twice : ExecutorNames recordingEnv ∧
      (∀ node ctx world outcome, (recordingEnv.executor node ctx world).exit = .returned outcome →
          finalStatus outcome.status = true) ∧
      ∃ result, (run recordingEnv oneStep {} ()).log.exit = .returned result ∧
        (buildTrace showAll result.path
          (run recordingEnv oneStep {} ()).log.ctx).length ≠ result.steps := by
  refine ⟨?_, ?_, ?_⟩
  · rintro node ctx world outcome houtcome
    obtain rfl := Exit.returned.inj houtcome
    rfl
  · rintro node ctx world outcome houtcome
    obtain rfl := Exit.returned.inj houtcome
    rfl
  · exact ⟨_, rfl, by decide⟩

theorem reports_answering {status : NodeStatus} (hfinal : finalStatus status = true) :
    Reports (answering status) where
  names := by
    rintro node ctx world outcome houtcome
    obtain rfl := Exit.returned.inj houtcome
    rfl
  final := by
    rintro node ctx world outcome houtcome
    obtain rfl := Exit.returned.inj houtcome
    exact hfinal
  keeps := fun _ _ _ => rfl

theorem timeout_reported :
    ∃ result, (run (answering .timeout) oneStep {} ()).log.exit = .returned result ∧
      result.steps = 1 ∧
      Agrees showAll result (run (answering .timeout) oneStep {} ()).log.ctx := by
  refine ⟨_, rfl, by decide, ?_⟩
  exact run_report_agrees (reports_answering (by decide)) showAll rfl rfl

end SignPulse.RunReport
