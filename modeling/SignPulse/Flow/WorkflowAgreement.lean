import SignPulse.Flow.WalkRuns
import SignPulse.Flow.WorkflowEngine
import SignPulse.Flow.TargetAgreement

/-!
# Workflows under the two engines

The same steps can be given to the older workflow engine, or be compiled and
given to the flow engine.  Both graphs follow one walk, that of the steps
themselves, and the results differ in what the engines make of its end.
-/

namespace SignPulse.WorkflowAgreement

open Foundation
open FlowModels
open FlowContext
open RunEnvironment
open TargetAliases
open GraphNormalizer
open FlowEngine
open ChatCompiler
open WorkflowEngine
open WalkRuns

variable {World Call : Type}

/-! ## The walk of a workflow -/

/-- `entry_id`. -/
def entryId (chat : StepChat) : String :=
  pyOrElse chat.initialStepId
    ((chat.steps.head?.map WorkflowStepConfig.stepId).getD TERMINAL_COMPLETE_ID)

def stepIds (chat : StepChat) : List String :=
  chat.steps.map WorkflowStepConfig.stepId

def olderStep (step : WorkflowStepConfig) : WorkflowStep where
  stepId := step.stepId
  nextStepId := step.nextStepId
  onFailureStepId := step.onFailureStepId
  allowLoop := step.allowLoop
  maxRetries := step.maxRetries

def olderDefinition (chat : StepChat) : WorkflowDefinition where
  steps := chat.steps.map olderStep
  initialStepId := entryId chat

def readPlace (target : Option String) (terminal : String) : Place String :=
  let text := normalizeTarget (pyOr target (some terminal))
  if text = TERMINAL_COMPLETE_ID then .complete
  else if text = TERMINAL_FAIL_ID then .fail
  else .node text

def stepOf (chat : StepChat) (stepId : String) : Option WorkflowStepConfig :=
  chat.steps.find? fun step => step.stepId == stepId

/-- The walk over the steps, with the answers of an executor. -/
def stepWalk (chat : StepChat) (answer : String → World → Bool × World) : Walk String World where
  nodes := stepIds chat
  onSuccess stepId :=
    readPlace ((stepOf chat stepId).bind WorkflowStepConfig.nextStepId) TERMINAL_COMPLETE_ID
  onFailure stepId :=
    readPlace ((stepOf chat stepId).bind WorkflowStepConfig.onFailureStepId) TERMINAL_FAIL_ID
  limit stepId :=
    ((stepOf chat stepId).map fun step => maxVisits step.allowLoop step.maxRetries).getD 0
  answer := answer

/-- Steps that the two engines can both be given: no two of one id, none with the
id of a terminal, and none with a guard, which only the flow engine knows. -/
structure Comparable (chat : StepChat) : Prop where
  distinct : (stepIds chat).Nodup
  names : ∀ stepId ∈ stepIds chat, atTerminal stepId = false
  unguarded : ∀ step ∈ chat.steps, truthy step.config.runIf = false ∧
    truthy step.config.condition = false ∧ truthy step.config.skipIf = false

theorem placeId_readPlace (target : Option String) (terminal : String) :
    placeId (readPlace target terminal) = normalizeTarget (pyOr target (some terminal)) := by
  simp only [readPlace]
  split
  · next hcomplete => rw [placeId, hcomplete]
  · split
    · next hfail => rw [placeId, hfail]
    · rfl

variable {chat : StepChat} {terminal : String} {target : Option String}

theorem stepOf_of_mem (hdistinct : (stepIds chat).Nodup) {step : WorkflowStepConfig}
    (hmem : step ∈ chat.steps) :
    stepOf chat step.stepId = some step := by
  cases hfound : stepOf chat step.stepId with
  | none =>
    have := List.find?_eq_none.mp hfound step hmem
    simp at this
  | some other =>
    have hid : other.stepId = step.stepId := by simpa using List.find?_some hfound
    have hother : other ∈ chat.steps := List.mem_of_find?_eq_some hfound
    rw [List.inj_on_of_nodup_map hdistinct hother hmem hid]

/-! ## Targets -/

/-- The target is absent or empty, or the end of the workflow, or a step. -/
def Given (chat : StepChat) (target : Option String) : Prop :=
  ∀ text, target = some text → text ≠ "" → text ∈ endNames ∨ text ∈ stepIds chat

/-- The terminal of one of the two ends. -/
def IsTerminal (terminal : String) : Prop :=
  terminal = TERMINAL_COMPLETE_ID ∨ terminal = TERMINAL_FAIL_ID

theorem normalize_terminal (hterminal : IsTerminal terminal) :
    normalizeTarget (some terminal) = terminal := by
  rcases hterminal with rfl | rfl <;> decide

/-- A target that is not empty is read by itself. -/
theorem normalize_named {text : String} (htext : text ≠ "") (other : Option String) :
    normalizeTarget (pyOr (some text) other) = resolveAlias text := by
  rw [pyOr_some htext, normalizeTarget_some htext]

theorem resolveAlias_COMPLETE : resolveAlias "COMPLETE" = TERMINAL_COMPLETE_ID := by decide

theorem resolveAlias_FAIL : resolveAlias "FAIL" = TERMINAL_FAIL_ID := by decide

theorem resolveAlias_given {text : String} (hgiven : text ∈ endNames ∨ text ∈ stepIds chat) :
    IsTerminal (resolveAlias text) ∨ resolveAlias text ∈ stepIds chat := by
  rcases hgiven with hend | hstep
  · left
    simp only [endNames, List.mem_cons, List.not_mem_nil, or_false] at hend
    rcases hend with rfl | rfl
    · exact Or.inl resolveAlias_COMPLETE
    · exact Or.inr resolveAlias_FAIL
  · obtain ⟨step, -, rfl⟩ := List.mem_map.mp hstep
    rcases resolveAlias_cases step.stepId with hcomplete | hfail | ⟨hstrip, -⟩
    · exact Or.inl (Or.inl hcomplete)
    · exact Or.inl (Or.inr hfail)
    · rw [hstrip, step.stripped]
      exact Or.inr hstep

theorem normalize_given (hgiven : Given chat target) (hterminal : IsTerminal terminal) :
    IsTerminal (normalizeTarget (pyOr target (some terminal))) ∨
      normalizeTarget (pyOr target (some terminal)) ∈ stepIds chat := by
  by_cases htruthy : truthy target = true
  · cases target with
    | none => cases htruthy
    | some text =>
      have htext : text ≠ "" := by simpa [truthy] using htruthy
      rw [normalize_named htext]
      exact resolveAlias_given (hgiven text rfl htext)
  · rw [pyOr_of_not_truthy (Bool.eq_false_iff.mpr htruthy), normalize_terminal hterminal]
    exact Or.inl hterminal

theorem known_readPlace {answer : String → World → Bool × World} (hgiven : Given chat target)
    (hterminal : IsTerminal terminal) :
    Known (stepWalk chat answer) (readPlace target terminal) := by
  intro id hplace
  simp only [readPlace] at hplace
  split at hplace
  · cases hplace
  · next hcomplete =>
    split at hplace
    · cases hplace
    · next hfail =>
      cases hplace
      rcases normalize_given hgiven hterminal with (hend | hend) | hstep
      · exact absurd hend hcomplete
      · exact absurd hend hfail
      · exact hstep

theorem normalize_resolveSentinelId (hgiven : Given chat target) (terminal : String) :
    normalizeTarget (pyOr (resolveSentinelId target) (some terminal)) =
      normalizeTarget (pyOr target (some terminal)) := by
  cases target with
  | none => rfl
  | some text =>
    by_cases htext : text = ""
    · subst htext
      rfl
    · have hresolved : resolveAlias text ≠ "" := by
        rcases resolveAlias_given (hgiven text rfl htext) with (hend | hend) | hstep
        · rw [hend]
          decide
        · rw [hend]
          decide
        · obtain ⟨step, -, hid⟩ := List.mem_map.mp hstep
          rw [← hid]
          exact step.nonempty
      simp only [resolveSentinelId, htext, if_false]
      rw [normalize_named hresolved, normalize_named htext, resolveAlias_resolveAlias]

theorem normalize_end {name : String} (hname : name ≠ "") (hend : resolveAlias name = terminal)
    (hterminal : IsTerminal terminal) (other : Option String) :
    normalizeTarget (pyOr (some terminal) other) = normalizeTarget (pyOr (some name) other) := by
  have hne : terminal ≠ "" := by
    rcases hterminal with rfl | rfl <;> decide
  rw [normalize_named hne, normalize_named hname, ← hend, resolveAlias_resolveAlias]

theorem normalize_nextNodeId (target : Option String) :
    normalizeTarget (pyOr (some (nextNodeId target)) (some TERMINAL_COMPLETE_ID)) =
      normalizeTarget (pyOr target (some TERMINAL_COMPLETE_ID)) := by
  cases target with
  | none => rfl
  | some text =>
    simp only [nextNodeId]
    split
    · next heq =>
      rw [heq]
      exact normalize_end (by decide) resolveAlias_COMPLETE (Or.inl rfl) _
    · split
      · next heq =>
        rw [heq]
        exact normalize_end (by decide) resolveAlias_FAIL (Or.inr rfl) _
      · rfl

theorem normalize_onFailureNodeId (target : Option String) :
    normalizeTarget (pyOr (some (onFailureNodeId target)) (some TERMINAL_FAIL_ID)) =
      normalizeTarget (pyOr target (some TERMINAL_FAIL_ID)) := by
  cases target with
  | none => rfl
  | some text =>
    simp only [onFailureNodeId]
    split
    · next heq =>
      rw [heq]
      exact normalize_end (by decide) resolveAlias_FAIL (Or.inr rfl) _
    · split
      · next heq =>
        rw [heq]
        exact normalize_end (by decide) resolveAlias_COMPLETE (Or.inl rfl) _
      · rfl

/-! ## Dictionaries by step id -/

section Rows

variable {ν : Type} {chat : StepChat} {node : WorkflowStepConfig → ν}

def rows (chat : StepChat) (node : WorkflowStepConfig → ν) : Dict String ν :=
  chat.steps.map fun step => (step.stepId, node step)

theorem keyList_rows : Dict.keyList (rows chat node) = stepIds chat := by
  simp [rows, Dict.keyList, stepIds]

theorem update_rows (hdistinct : (stepIds chat).Nodup) :
    Dict.update [] (rows chat node) = rows chat node :=
  Dict.update_of_nodup _ (by rwa [List.nil_append, keyList_rows])

theorem getItem_rows (hdistinct : (stepIds chat).Nodup) {step : WorkflowStepConfig}
    (hmem : step ∈ chat.steps) :
    Dict.getItem (rows chat node) step.stepId = some (node step) := by
  apply Dict.getItem_of_mem
  · rwa [keyList_rows]
  · exact List.mem_map_of_mem hmem

end Rows

theorem stepMap_olderDefinition {chat : StepChat} (hdistinct : (stepIds chat).Nodup) :
    stepMap (olderDefinition chat) = rows chat olderStep := by
  have hrows : (olderDefinition chat).steps.map (fun step => (step.stepId, step)) =
      rows chat olderStep := by
    simp [olderDefinition, rows, olderStep]
  rw [stepMap, hrows, update_rows hdistinct]

theorem hasKey_stepMap {chat : StepChat} (hdistinct : (stepIds chat).Nodup) (text : String) :
    Dict.hasKey (stepMap (olderDefinition chat)) text = true ↔ text ∈ stepIds chat := by
  rw [Dict.hasKey_iff_mem_keyList, stepMap_olderDefinition hdistinct, keyList_rows]

/-! ## What the topology check makes sure of -/

theorem given_of_not_missing {chat : StepChat} (hdistinct : (stepIds chat).Nodup)
    {target : Option String} (hfound : missing (olderDefinition chat) target = false) :
    Given chat target := by
  rintro text rfl htext
  simp only [missing, Bool.and_eq_false_iff, Bool.not_eq_false', bne_eq_false_iff_eq,
    List.contains_iff_mem] at hfound
  rcases hfound with (hempty | hend) | hstep
  · exact absurd hempty htext
  · exact Or.inl hend
  · exact Or.inr ((hasKey_stepMap hdistinct text).mp hstep)

theorem checkStep_ok {wf : WorkflowDefinition} {step : WorkflowStep}
    (hok : checkStep wf step = .ok ()) :
    missing wf step.nextStepId = false ∧ missing wf step.onFailureStepId = false := by
  cases hnext : missing wf step.nextStepId with
  | true =>
    rw [checkStep, if_pos hnext] at hok
    cases hok
  | false =>
    rw [checkStep, hnext, if_neg Bool.false_ne_true] at hok
    cases hfailure : missing wf step.onFailureStepId with
    | true =>
      rw [if_pos hfailure] at hok
      cases hok
    | false => exact ⟨rfl, rfl⟩

/-- The entry is a step, and every target is given. -/
structure Checked (chat : StepChat) : Prop where
  entry : entryId chat ∈ stepIds chat
  next : ∀ step ∈ chat.steps, Given chat step.nextStepId
  onFailure : ∀ step ∈ chat.steps, Given chat step.onFailureStepId

theorem checked_of_valid {chat : StepChat} (hdistinct : (stepIds chat).Nodup)
    (hvalid : validateTopology (olderDefinition chat) = .ok ()) : Checked chat := by
  unfold validateTopology at hvalid
  split at hvalid
  · cases hvalid
  · next hentry =>
    have hkey : Dict.hasKey (stepMap (olderDefinition chat))
        (olderDefinition chat).initialStepId = true := by
      simpa using hentry
    obtain ⟨⟨⟩, hsteps, -⟩ := LoopCheck.ok_of_bind hvalid
    have hchecked := (TargetAgreement.forM_ok_iff _).mp hsteps
    have hfound : ∀ step ∈ chat.steps, missing (olderDefinition chat) step.nextStepId = false ∧
        missing (olderDefinition chat) step.onFailureStepId = false := fun step hstep =>
      checkStep_ok (hchecked (olderStep step) (List.mem_map_of_mem hstep))
    exact
      { entry := (hasKey_stepMap hdistinct (entryId chat)).mp hkey
        next := fun step hstep => given_of_not_missing hdistinct (hfound step hstep).1
        onFailure := fun step hstep => given_of_not_missing hdistinct (hfound step hstep).2 }

/-! ## Both graphs follow the walk -/

section Graphs

variable {chat : StepChat} {answer : String → World → Bool × World}

variable {step : WorkflowStepConfig}

section

variable (hdistinct : (stepIds chat).Nodup) (hmem : step ∈ chat.steps)

include hdistinct hmem

theorem placeId_onSuccess : placeId ((stepWalk chat answer).onSuccess step.stepId) =
      normalizeTarget (pyOr step.nextStepId (some TERMINAL_COMPLETE_ID)) := by
  simp only [stepWalk, stepOf_of_mem hdistinct hmem, Option.bind_some]
  exact placeId_readPlace _ _

theorem placeId_onFailure : placeId ((stepWalk chat answer).onFailure step.stepId) =
      normalizeTarget (pyOr step.onFailureStepId (some TERMINAL_FAIL_ID)) := by
  simp only [stepWalk, stepOf_of_mem hdistinct hmem, Option.bind_some]
  exact placeId_readPlace _ _

theorem visitLimit_maxVisits : visitLimit
        { allowLoop := step.allowLoop
          maxVisits := maxVisits step.allowLoop step.maxRetries } =
      (stepWalk chat answer).limit step.stepId := by
  simp only [stepWalk, stepOf_of_mem hdistinct hmem, Option.map_some, Option.getD_some, visitLimit]
  cases step.allowLoop with
  | true => rfl
  | false => cases step.maxRetries <;> rfl

theorem bridgeNode_follows :
    NodeFollows (stepWalk chat answer) step.stepId (bridgeNode (olderStep step)) where
  named := rfl
  action := rfl
  unskipped := rfl
  unguarded := rfl
  once := rfl
  onSuccess := by
    rw [placeId_onSuccess hdistinct hmem]
    exact normalize_nextNodeId step.nextStepId
  onFailure := by
    rw [placeId_onFailure hdistinct hmem]
    exact normalize_onFailureNodeId step.onFailureStepId
  limit := visitLimit_maxVisits hdistinct hmem

end

theorem stepNode_follows (settings : Settings) (rawAction : SignAction)
    (hcomparable : Comparable chat) (hchecked : Checked chat) (hmem : step ∈ chat.steps) :
    NodeFollows (stepWalk chat answer) step.stepId (stepNode settings rawAction step) where
  named := rfl
  action := rfl
  unskipped := (hcomparable.unguarded step hmem).2.2
  unguarded := by
    obtain ⟨hrun, hcondition, -⟩ := hcomparable.unguarded step hmem
    simp only [stepNode]
    rwa [pyOr_of_not_truthy hrun]
  once := rfl
  onSuccess := by
    rw [placeId_onSuccess hcomparable.distinct hmem]
    exact normalize_resolveSentinelId (hchecked.next step hmem) _
  onFailure := by
    rw [placeId_onFailure hcomparable.distinct hmem]
    exact normalize_resolveSentinelId (hchecked.onFailure step hmem) _
  limit := visitLimit_maxVisits hcomparable.distinct hmem

theorem follows_rows {graph : ExecutionGraph} {node : WorkflowStepConfig → Node}
    (hcomparable : Comparable chat) (hchecked : Checked chat)
    (hgraph : graph =
      { entryNodeId := entryId chat
        nodes := rows chat node
        maxTotalSteps := graph.maxTotalSteps })
    (hnode : ∀ step ∈ chat.steps, NodeFollows (stepWalk chat answer) step.stepId (node step)) :
    Follows (stepWalk chat answer) graph where
  nodes := by
    intro id hid
    obtain ⟨step, hstep, rfl⟩ := List.mem_map.mp hid
    refine ⟨node step, ?_, hnode step hstep⟩
    rw [hgraph]
    exact getItem_rows hcomparable.distinct hstep
  closed := by
    intro id hid
    obtain ⟨step, hstep, rfl⟩ := List.mem_map.mp hid
    simp only [stepWalk, stepOf_of_mem hcomparable.distinct hstep, Option.bind_some]
    exact ⟨known_readPlace (hchecked.next step hstep) (Or.inl rfl),
      known_readPlace (hchecked.onFailure step hstep) (Or.inr rfl)⟩
  names := by
    intro id hid
    refine ⟨?_, hcomparable.names id hid⟩
    obtain ⟨step, -, rfl⟩ := List.mem_map.mp hid
    exact step.nonempty
  unresumed := by rw [hgraph]
  unhandled := by rw [hgraph]
  unbroken := by rw [hgraph]

theorem bridgeGraph_eq (hdistinct : (stepIds chat).Nodup) (maxTotalSteps : ℤ) :
    bridgeGraph (olderDefinition chat) maxTotalSteps =
      { entryNodeId := entryId chat
        nodes := rows chat fun step => bridgeNode (olderStep step)
        maxTotalSteps } := by
  have hrows : (olderDefinition chat).steps.map (fun step => (step.stepId, bridgeNode step)) =
      rows chat fun step => bridgeNode (olderStep step) := by
    simp [olderDefinition, rows, olderStep]
  rw [bridgeGraph, hrows, update_rows hdistinct]
  rfl

def rawActionOf (actionFromStep : WorkflowStepConfig → Except String SignAction)
    (step : WorkflowStepConfig) : SignAction :=
  match actionFromStep step with
  | .ok rawAction => rawAction
  | .error _ => {}

theorem foldlM_stepNode (settings : Settings)
    {actionFromStep : WorkflowStepConfig → Except String SignAction} :
    ∀ (steps : List WorkflowStepConfig) (before after : Dict String Node), steps.foldlM
          (fun nodes step => do
            let rawAction ← actionFromStep step
            return Dict.setItem nodes step.stepId (stepNode settings rawAction step))
          before = .ok after →
        after = Dict.update before (steps.map fun step =>
          (step.stepId, stepNode settings (rawActionOf actionFromStep step) step)) := by
  intro steps
  induction steps with
  | nil =>
    intro before after hfold
    exact (Except.ok.inj hfold).symm
  | cons step rest ih =>
    intro before after hfold
    rw [List.foldlM_cons] at hfold
    obtain ⟨nodes, hfirst, hrest⟩ := LoopCheck.ok_of_bind hfold
    obtain ⟨rawAction, haction, hnodes⟩ := LoopCheck.ok_of_bind hfirst
    have hraw : rawActionOf actionFromStep step = rawAction := by
      rw [rawActionOf, haction]
    rw [ih nodes after hrest, ← Except.ok.inj hnodes, ← hraw]
    rfl

theorem compiled_eq {settings : Settings}
    {actionFromStep : WorkflowStepConfig → Except String SignAction} {ledger after : Ledger}
    {graph : ExecutionGraph} (hdistinct : (stepIds chat).Nodup)
    (hcompiled : fromWorkflowSteps settings actionFromStep chat ledger = .ok (graph, after)) :
    graph =
      { entryNodeId := entryId chat
        nodes := rows chat fun step =>
          stepNode settings (rawActionOf actionFromStep step) step
        maxTotalSteps := graph.maxTotalSteps } := by
  obtain ⟨nodes, hnodes, hrest⟩ := LoopCheck.ok_of_bind hcompiled
  obtain ⟨validated, -, hreturn⟩ := LoopCheck.ok_of_bind hrest
  have hrows := (foldlM_stepNode settings _ _ _ hnodes).trans (update_rows hdistinct)
  have hgraph := (Prod.mk.inj (Except.ok.inj hreturn)).1
  rw [← hgraph, hrows]
  rfl

end Graphs

/-! ## The two runs -/

def answerExecutor (answer : String → World → Bool × World) (node : Node)
    (ctx : ScopedFlowContext) (world : World) : ExecutorReply World Call where
  exit := .returned (answerOutcome node.id (answer node.id world).1)
  ctx := ctx
  world := (answer node.id world).2

def answerStep (answer : String → World → Bool × World) : StepExecutor World :=
  fun step ctx world =>
    (.returned (answer step.stepId world).1, ctx, (answer step.stepId world).2)

def stepFinish (chat : StepChat) (answer : String → World → Bool × World) (world : World) :
    Walk.Finish String World :=
  (stepWalk chat answer).finish { place := .node (entryId chat), world }

def stepsTaken (chat : StepChat) (answer : String → World → Bool × World) (world : World) : ℕ :=
  (stepFinish chat answer world).last.path.length

/-- The world of the older engine after a path: the context has counted it. -/
structure Counted (start : WorkflowContext) (reached : WorkflowContext × World)
    (visited : List String) (inner : World) : Prop where
  world : reached.2 = inner
  path : reached.1.executionPath = start.executionPath ++ visited
  steps : reached.1.totalStepsExecuted = start.totalStepsExecuted + visited.length
  limit : reached.1.maxTotalSteps = start.maxTotalSteps

section Runs

variable {chat : StepChat} {answer : String → World → Bool × World}

theorem answerExecutor_answers : Answers (stepWalk chat answer)
      (answerExecutor answer : Node → ScopedFlowContext → World → ExecutorReply World Call)
      (fun world _ inner => world = inner) := by
  intro id _ node ctx world path inner hid hworld
  subst hid hworld
  exact ⟨rfl, rfl⟩

theorem bridgeOutcome_answer {node : Node} {step : WorkflowStepConfig}
    {ctx : WorkflowContext} (hnode : node.id = step.stepId)
    (hctx : ctx.currentStepId = step.stepId) (holds : Bool) :
    bridgeOutcome node (olderStep step) ctx holds = answerOutcome step.stepId holds := by
  obtain ⟨hcomplete, hfail⟩ := step.notReserved
  simp [bridgeOutcome, hctx, hcomplete, hfail, olderStep, hnode, answerOutcome]

theorem bridgeExecutor_answers (hdistinct : (stepIds chat).Nodup) (start : WorkflowContext) :
    Answers (stepWalk chat answer)
      (bridgeExecutor (olderDefinition chat) (some (answerStep answer)) :
        Node → ScopedFlowContext → WorkflowContext × World →
          ExecutorReply (WorkflowContext × World) Call)
      (Counted start) := by
  intro id hid node ctx world path inner hnode hcounted
  obtain ⟨step, hstep, rfl⟩ := List.mem_map.mp hid
  have hfound : Dict.getItem (stepMap (olderDefinition chat)) node.id = some (olderStep step) := by
    rw [stepMap_olderDefinition hdistinct, hnode]
    exact getItem_rows hdistinct hstep
  simp only [bridgeExecutor, hfound, answerStep, hcounted.world]
  refine ⟨?_, ?_⟩
  · rw [bridgeOutcome_answer hnode rfl]
    rfl
  · exact
      { world := rfl
        path := by simp [WorkflowContext.enter, hcounted.path, olderStep]
        steps := by simp [WorkflowContext.enter, hcounted.steps, Nat.add_assoc]
        limit := hcounted.limit }

def answerEnv (env : Env World Call) (answer : String → World → Bool × World) : Env World Call :=
  { env with executor := answerExecutor answer }

def compiledRun (env : Env World Call) (answer : String → World → Bool × World)
    (graph : ExecutionGraph) (flowCtx : ScopedFlowContext) (world : World) :
    RunReply World Call :=
  FlowEngine.run (answerEnv env answer) graph flowCtx world

def olderRun (env : Env (WorkflowContext × World) Call) (chat : StepChat)
    (answer : String → World → Bool × World) (ctx : WorkflowContext) (world : World) :
    WorkflowReply World :=
  WorkflowEngine.run env (olderDefinition chat) (some (answerStep answer)) ctx world

theorem compiledRun_endsAs {settings : Settings}
    {actionFromStep : WorkflowStepConfig → Except String SignAction} {ledger after : Ledger}
    {graph : ExecutionGraph} (hcomparable : Comparable chat) (hchecked : Checked chat)
    (hcompiled : fromWorkflowSteps settings actionFromStep chat ledger = .ok (graph, after))
    (env : Env World Call) (flowCtx : ScopedFlowContext) {world : World}
    (hsteps : (stepsTaken chat answer world : ℤ) ≤ graph.maxTotalSteps) :
    EndsAs env.redactTraceText graph (stepFinish chat answer world)
      (compiledRun env answer graph flowCtx world).exit := by
  have hgraph := compiled_eq hcomparable.distinct hcompiled
  have hfollows : Follows (stepWalk chat answer) graph :=
    follows_rows hcomparable hchecked hgraph fun step hstep =>
      stepNode_follows settings _ hcomparable hchecked hstep
  have hentry : graph.entryNodeId = entryId chat := by rw [hgraph]
  have hanswers : Answers (stepWalk chat answer) (answerEnv env answer).executor
      (fun world _ inner => world = inner) := answerExecutor_answers
  exact (run_follows flowCtx hfollows hanswers hentry hchecked.entry rfl hsteps).1

theorem bridgeRun_endsAs (hcomparable : Comparable chat) (hchecked : Checked chat)
    (env : Env (WorkflowContext × World) Call) {ctx : WorkflowContext} {world : World}
    (hsteps : (stepsTaken chat answer world : ℤ) ≤ ctx.maxTotalSteps) :
    EndsAs env.redactTraceText (bridgeGraph (olderDefinition chat) ctx.maxTotalSteps)
        (stepFinish chat answer world)
        (bridgeRun env (olderDefinition chat) (some (answerStep answer)) ctx world).exit ∧
      Counted ctx (bridgeRun env (olderDefinition chat) (some (answerStep answer)) ctx world).world
        (stepFinish chat answer world).last.path (stepFinish chat answer world).last.world := by
  have hgraph := bridgeGraph_eq hcomparable.distinct ctx.maxTotalSteps
  have hfollows : Follows (stepWalk chat answer)
      (bridgeGraph (olderDefinition chat) ctx.maxTotalSteps) :=
    follows_rows hcomparable hchecked hgraph fun step hstep =>
      bridgeNode_follows hcomparable.distinct hstep
  have hcounted : Counted ctx (ctx, world) [] world :=
    { world := rfl
      path := (List.append_nil _).symm
      steps := rfl
      limit := rfl }
  have hanswers : Answers (stepWalk chat answer)
      (bridgeEnv env (olderDefinition chat) (some (answerStep answer))).executor
      (Counted ctx) := bridgeExecutor_answers hcomparable.distinct ctx
  exact run_follows {} hfollows hanswers rfl hchecked.entry hcounted hsteps

/-! ## Agreement -/

/-- The same status and the same path, or the loop-limit error on both sides. -/
def SameResult (older : Exit WorkflowResult) (compiled : Exit FlowResult) : Prop :=
  match older, compiled with
  | .returned left, .returned right =>
    left.success = right.success ∧ left.path = right.path
  | .raised left, .raised right => isLoopLimit left = true ∧ isLoopLimit right = true
  | _, _ => False

/-- The text by which the older engine knows that the step limit was hit. -/
def stepLimitMarker : String :=
  "Flow step limit exceeded"

/-- Both engines tell the same of the end of the walk: the walk is refused within the
limit of the compiled graph; or it ends, the older engine has no earlier steps in
its context and counts fewer than its limit, and does not take the error of a
failure for the step limit. -/
def ToldAlike (redact : String → String) (ctx : WorkflowContext) (limit : ℤ)
    (finish : Walk.Finish String World) : Prop :=
  if finish.ending = .refused then (finish.last.path.length : ℤ) < limit
  else
    ctx.executionPath = [] ∧
      ((ctx.totalStepsExecuted + finish.last.path.length : ℕ) : ℤ) < ctx.maxTotalSteps ∧
      (finish.ending = .failed →
        pyContains (redact (failureMessage finish)) stepLimitMarker = false)

section Adapt

variable {wf : WorkflowDefinition} {ctx : WorkflowContext}

theorem isLoopLimit_adaptLoopLimit (error : PyError) :
    isLoopLimit (adaptLoopLimit wf ctx error) = true := by
  unfold adaptLoopLimit
  split <;> rfl

theorem adapt_raised {error : PyError} (hlimit : isLoopLimit error = true) :
    ∃ raised, adapt wf ctx (.raised error) = .raised raised ∧ isLoopLimit raised = true := by
  refine ⟨adaptLoopLimit wf ctx error, ?_, isLoopLimit_adaptLoopLimit error⟩
  simp only [adapt, hlimit, if_true]

theorem adapt_hit {result : FlowResult}
    (hhit : hitStepLimit ctx stepLimitMarker
      (pyOrElse (result.failure.map Failure.error) "") = true) :
    ∃ raised, adapt wf ctx (.returned result) = .raised raised ∧ isLoopLimit raised = true := by
  have hadapted : ∃ error, adaptResult ctx result = .raised error ∧ isLoopLimit error = true := by
    refine ⟨loopExceeded s!"执行已达最大步数硬上限 {ctx.maxTotalSteps}", ?_, rfl⟩
    unfold adaptResult
    exact if_pos hhit
  obtain ⟨error, hraised, hlimit⟩ := hadapted
  refine ⟨adaptLoopLimit wf ctx error, ?_, isLoopLimit_adaptLoopLimit error⟩
  simp only [adapt, hraised, hlimit, if_true]

theorem adapt_passed {result : FlowResult}
    (hpassed : hitStepLimit ctx stepLimitMarker
      (pyOrElse (result.failure.map Failure.error) "") = false) :
    adapt wf ctx (.returned result) = .returned
        { success := result.success
          path := ctx.executionPath
          steps := ctx.totalStepsExecuted
          error := result.failure.map Failure.error } := by
  have hadapted : adaptResult ctx result = .returned
        { success := result.success
          path := ctx.executionPath
          steps := ctx.totalStepsExecuted
          error := result.failure.map Failure.error } := by
    unfold adaptResult
    exact if_neg (by rw [← stepLimitMarker, hpassed]; exact Bool.false_ne_true)
  simp only [adapt, hadapted]

end Adapt

theorem olderRun_exit (hvalid : validateTopology (olderDefinition chat) = .ok ())
    (env : Env (WorkflowContext × World) Call) (ctx : WorkflowContext) (world : World) :
    (olderRun env chat answer ctx world).exit = adapt (olderDefinition chat)
        (bridgeRun env (olderDefinition chat) (some (answerStep answer)) ctx world).world.1
        (bridgeRun env (olderDefinition chat) (some (answerStep answer)) ctx world).exit := by
  simp only [olderRun, WorkflowEngine.run, hvalid]

theorem older_refused {redact : String → String} {wf : WorkflowDefinition}
    {start : WorkflowContext} {reached : WorkflowContext × World} {exit : Exit FlowResult}
    {finish : Walk.Finish String World} {graph : ExecutionGraph}
    (hlimit : graph.maxTotalSteps = start.maxTotalSteps)
    (hends : EndsAs redact graph finish exit)
    (hcounted : Counted start reached finish.last.path finish.last.world)
    (hrefused : finish.ending = .refused) :
    ∃ raised, adapt wf reached.1 exit = .raised raised ∧ isLoopLimit raised = true := by
  cases hends with
  | ended hending => exact absurd hrefused hending
  | refused hending hwithin hexit hname =>
    rw [hexit]
    apply adapt_raised
    simp [isLoopLimit, hname]
  | stopped hending hover hexit =>
    rw [hexit]
    apply adapt_hit
    have hcount : reached.1.maxTotalSteps ≤ (reached.1.totalStepsExecuted : ℤ) := by
      rw [hcounted.limit, hcounted.steps, ← hlimit]
      unfold Within at hover
      omega
    simp [hitStepLimit, hcount]

theorem pyOrElse_empty (text : String) : pyOrElse (some text) "" = text := by
  by_cases htext : text = ""
  · rw [htext]
    decide
  · simp [pyOrElse, pyOr, truthy, htext]

theorem passed_iff {redact : String → String}
    {start : WorkflowContext} {reached : WorkflowContext × World} {result : FlowResult}
    {finish : Walk.Finish String World}
    (hcounted : Counted start reached finish.last.path finish.last.world)
    (herror : result.failure.map Failure.error = if finish.ending = .completed then none
      else some (redact (failureMessage finish)))
    (hending : finish.ending ≠ .refused) :
    hitStepLimit reached.1 stepLimitMarker
        (pyOrElse (result.failure.map Failure.error) "") = false ↔
      ((start.totalStepsExecuted + finish.last.path.length : ℕ) : ℤ) < start.maxTotalSteps ∧
        (finish.ending = .failed →
          pyContains (redact (failureMessage finish)) stepLimitMarker = false) := by
  have hcount : decide (reached.1.maxTotalSteps ≤ (reached.1.totalStepsExecuted : ℤ)) = false ↔
      ((start.totalStepsExecuted + finish.last.path.length : ℕ) : ℤ) < start.maxTotalSteps := by
    rw [hcounted.limit, hcounted.steps, decide_eq_false_iff_not, not_le]
  rw [hitStepLimit, Bool.or_eq_false_iff, hcount, herror]
  cases hcase : finish.ending with
  | refused => exact absurd hcase hending
  | completed =>
    have hempty : pyContains (pyOrElse none "") stepLimitMarker = false := by decide
    simp [hempty]
  | failed =>
    simp only [reduceCtorEq, if_false, pyOrElse_empty, forall_const]
    exact and_comm

/-- The two engines give the same result where they tell the same of the end of the
walk, and nowhere else. -/
theorem same_result_iff {settings : Settings}
    {actionFromStep : WorkflowStepConfig → Except String SignAction} {ledger after : Ledger}
    {graph : ExecutionGraph} (hcomparable : Comparable chat)
    (hvalid : validateTopology (olderDefinition chat) = .ok ())
    (hcompiled : fromWorkflowSteps settings actionFromStep chat ledger = .ok (graph, after))
    (olderEnv : Env (WorkflowContext × World) Call) (env : Env World Call)
    (ctx : WorkflowContext) (flowCtx : ScopedFlowContext) (world : World)
    (holder : (stepsTaken chat answer world : ℤ) ≤ ctx.maxTotalSteps)
    (hlimit : (stepsTaken chat answer world : ℤ) ≤ graph.maxTotalSteps) :
    SameResult (olderRun olderEnv chat answer ctx world).exit
        (compiledRun env answer graph flowCtx world).exit ↔
      ToldAlike olderEnv.redactTraceText ctx graph.maxTotalSteps
        (stepFinish chat answer world) := by
  have hchecked := checked_of_valid hcomparable.distinct hvalid
  have hflow := compiledRun_endsAs hcomparable hchecked hcompiled env flowCtx hlimit
  obtain ⟨hbridge, hcounted⟩ := bridgeRun_endsAs hcomparable hchecked olderEnv holder
  rw [olderRun_exit hvalid]
  unfold ToldAlike
  cases hflow with
  | refused hending hwithin hexit hname =>
    obtain ⟨raised, hraised, hloop⟩ := older_refused rfl hbridge hcounted hending
    rw [hraised, hexit, if_pos hending]
    simp only [SameResult, hloop, true_and]
    exact iff_of_true (by simp [isLoopLimit, hname]) hwithin
  | stopped hending hover hexit =>
    obtain ⟨raised, hraised, -⟩ := older_refused rfl hbridge hcounted hending
    rw [hraised, hexit, if_pos hending]
    exact iff_of_false id hover
  | ended hending hexit hsuccess hpath herror =>
    rw [hexit, if_neg hending]
    cases hbridge with
    | refused hrefused => exact absurd hrefused hending
    | stopped hrefused => exact absurd hrefused hending
    | @ended result _ hreturned hstatus hvisited hfailure =>
      rw [hreturned, ← passed_iff hcounted hfailure hending]
      cases hhit : hitStepLimit _ stepLimitMarker
          (pyOrElse (result.failure.map Failure.error) "") with
      | true =>
        obtain ⟨raised, hraised, -⟩ := adapt_hit hhit
        rw [hraised]
        simp [SameResult]
      | false =>
        rw [adapt_passed hhit]
        simp [SameResult, hstatus, hsuccess, hcounted.path, hpath]

end Runs

/-! ## A run of exactly as many steps as are allowed -/

instance (older : Exit WorkflowResult) (compiled : Exit FlowResult) :
    Decidable (SameResult older compiled) :=
  match older, compiled with
  | .returned _, .returned _ => inferInstanceAs (Decidable (_ ∧ _))
  | .raised _, .raised _ => inferInstanceAs (Decidable (_ ∧ _))
  | .returned _, .raised _ => .isFalse id
  | .returned _, .cancelled _ => .isFalse id
  | .raised _, .returned _ => .isFalse id
  | .raised _, .cancelled _ => .isFalse id
  | .cancelled _, .returned _ => .isFalse id
  | .cancelled _, .raised _ => .isFalse id
  | .cancelled _, .cancelled _ => .isFalse id

def checkinStep : WorkflowStepConfig where
  stepId := "checkin"
  stripped := by decide
  nonempty := by decide
  notReserved := by decide
  retries := by rfl

def checkinChat : StepChat where
  steps := [checkinStep]

def checkinGraph : ExecutionGraph where
  entryNodeId := "checkin"
  nodes := [("checkin", stepNode {} {} checkinStep)]
  maxTotalSteps := 60

def yes (_stepId : String) (world : Unit) : Bool × Unit :=
  (true, world)

def quiet (World : Type) : Env World Unit :=
  Env.still (answerExecutor fun _ world => (true, world))

theorem checkin_comparable : Comparable checkinChat where
  distinct := by decide
  names := by decide
  unguarded := by decide

theorem checkin_valid : validateTopology (olderDefinition checkinChat) = .ok () := by
  decide

theorem checkin_compiled :
    fromWorkflowSteps {} (fun _ => .ok {}) checkinChat {} = .ok (checkinGraph, {}) := by
  rfl

/-- The only step succeeds, and one step is allowed: the flow engine reports the
success, and the older engine raises its error for the step limit. -/
theorem last_allowed_step_raises :
    Comparable checkinChat ∧ validateTopology (olderDefinition checkinChat) = .ok () ∧
      fromWorkflowSteps {} (fun _ => .ok {}) checkinChat {} = .ok (checkinGraph, {}) ∧
      (stepsTaken checkinChat yes () : ℤ) ≤ 1 ∧
      (stepsTaken checkinChat yes () : ℤ) ≤ checkinGraph.maxTotalSteps ∧
      ¬ SameResult (olderRun (quiet _) checkinChat yes { maxTotalSteps := 1 } ()).exit
          (compiledRun (quiet _) yes checkinGraph {} ()).exit := by
  refine ⟨checkin_comparable, checkin_valid, checkin_compiled, ?_, ?_, ?_⟩ <;> decide

/-- One more step is allowed. -/
theorem checkin_same_result :
    SameResult (olderRun (quiet _) checkinChat yes { maxTotalSteps := 2 } ()).exit
      (compiledRun (quiet _) yes checkinGraph {} ()).exit := by
  apply (same_result_iff checkin_comparable checkin_valid checkin_compiled (quiet _) (quiet _)
    { maxTotalSteps := 2 } {} () (by decide) (by decide)).mpr
  refine ⟨rfl, by decide, fun hfailed => ?_⟩
  exact absurd hfailed (by decide)

end SignPulse.WorkflowAgreement
