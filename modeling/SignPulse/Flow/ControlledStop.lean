import SignPulse.Flow.RunLogs

/-!
# Controlled stops

An outcome whose error is final, or that asks for a review or a stop, is meant
to end the whole flow.  It ends the run that records it; the run around a
subflow or a parallel node learns only that its child failed.
-/

namespace SignPulse.ControlledStop

open Foundation
open FlowModels
open FlowContext
open RunEnvironment
open NodeRuns
open FlowEngine
open EngineLaws

variable {World Call : Type}

def recordsStop (visit : Visit Call (RunLog Call)) : Bool :=
  visit.outcome.any isControlled

/-- Some node executed in the run, at any depth, recorded a controlled
outcome. -/
inductive StopReached : RunLog Call → Prop where
  | here {log : RunLog Call} {visit : Visit Call (RunLog Call)}
      (hvisit : visit ∈ log.visits) (hstop : recordsStop visit = true) :
      StopReached log
  | inside {log inner : RunLog Call} {visit : Visit Call (RunLog Call)}
      (hvisit : visit ∈ log.visits) (hinner : inner ∈ visit.nested)
      (hstop : StopReached inner) : StopReached log

/-- A controlled outcome was recorded and a node of the same graph, or of one
around it, was executed afterwards. -/
inductive GoesOn : RunLog Call → Prop where
  | visits {log : RunLog Call} {before after : List (Visit Call (RunLog Call))}
      {visit later : Visit Call (RunLog Call)}
      (hvisits : log.visits = before ++ visit :: later :: after)
      (hstop : recordsStop visit = true ∨ ∃ inner ∈ visit.nested, StopReached inner) :
      GoesOn log
  | attempts {log inner : RunLog Call} {visit : Visit Call (RunLog Call)}
      {before after : List (Attempt Call (RunLog Call))}
      {attempt later : Attempt Call (RunLog Call)} (hvisit : visit ∈ log.visits)
      (hattempts : visit.attempts = before ++ attempt :: later :: after)
      (hinner : inner ∈ attempt.nested) (hstop : StopReached inner) : GoesOn log
  | inside {log inner : RunLog Call} {visit : Visit Call (RunLog Call)}
      (hvisit : visit ∈ log.visits) (hinner : inner ∈ visit.nested)
      (hgoes : GoesOn inner) : GoesOn log

/-- The run returned a failure that is not to be retried. -/
def EndsStopped (log : RunLog Call) : Prop :=
  ∃ result failure, log.exit = .returned result ∧ result.success = false ∧
    result.failure = some failure ∧ failure.nonRetryable = true

/-- A controlled outcome, wherever it was recorded, ended everything. -/
def StopIsFinal (log : RunLog Call) : Prop :=
  StopReached log → ¬ GoesOn log ∧ EndsStopped log

theorem GoesOn.stopReached {log : RunLog Call} (hgoes : GoesOn log) : StopReached log := by
  induction hgoes with
  | @visits log before after visit later hvisits hstop =>
    have hvisit : visit ∈ log.visits := by
      rw [hvisits]
      exact List.mem_append_right _ List.mem_cons_self
    rcases hstop with hstop | ⟨inner, hinner, hstop⟩
    · exact .here hvisit hstop
    · exact .inside hvisit hinner hstop
  | attempts hvisit hattempts hinner hstop =>
    refine .inside hvisit (List.mem_flatMap.mpr ⟨_, ?_, hinner⟩) hstop
    rw [hattempts]
    exact List.mem_append_right _ List.mem_cons_self
  | inside hvisit hinner _ ih => exact .inside hvisit hinner ih

/-- How the loop of a run is left where one of its visits recorded a controlled
outcome. -/
structure StoppedBy (departure : Departure World Call)
    (earlier : List (Visit Call (RunLog Call))) (visit : Visit Call (RunLog Call)) :
    Prop where
  visits : departure.state.visits = earlier ++ [visit]
  earlier : ∀ old ∈ earlier, recordsStop old = false
  exit : departure.exit = .returned ()
  terminal : departure.state.currentId = TERMINAL_FAIL_ID
  nonRetryable : departure.state.lastNonRetryable = true

theorem runLoop_stops (env : Env World Call) (runSub : SubRun World Call)
    (graph : ExecutionGraph) (ctx : ScopedFlowContext) (world : World) :
    (∀ visit ∈ (runLoop env runSub graph ctx world).state.visits, recordsStop visit = false) ∨
    ∃ earlier visit, StoppedBy (runLoop env runSub graph ctx world) earlier visit := by
  refine runLoop_invariant (fun state => ∀ visit ∈ state.visits, recordsStop visit = false)
    (fun departure => (∀ visit ∈ departure.state.visits, recordsStop visit = false) ∨
      ∃ earlier visit, StoppedBy departure earlier visit) (by simp [entryState]) ?_ ?_
  · intro state next hinv hagain
    have hcases := turn_cases env runSub graph state
    rw [hagain] at hcases
    cases hcases with
    | ended terminal error heq => cases heq
    | refused node error heq => cases heq
    | visited node visit after hnode hsteps hallowed hrun heffect =>
      have hvisits : next.visits = state.visits ++ [visit] := heffect.visits
      rw [hvisits]
      intro old hold
      rcases List.mem_append.mp hold with hbefore | hlast
      · exact hinv old hbefore
      · rw [List.mem_singleton.mp hlast]
        cases houtcome : visit.outcome with
        | none => simp [recordsStop, houtcome]
        | some outcome =>
          rw [recordsStop, houtcome, Option.any_some]
          refine Bool.eq_false_iff.mpr fun hcontrolled => ?_
          obtain ⟨hexit, -⟩ := heffect.controlled outcome houtcome hcontrolled
          cases hexit
  · intro state departure hinv hleave
    have hcases := turn_cases env runSub graph state
    rw [hleave] at hcases
    cases hcases with
    | ended terminal error heq =>
      cases heq
      exact Or.inl hinv
    | refused node error heq =>
      cases heq
      exact Or.inl hinv
    | visited node visit after hnode hsteps hallowed hrun heffect =>
      have hvisits : departure.state.visits = state.visits ++ [visit] :=
        heffect.visits
      cases hstop : recordsStop visit with
      | false =>
        left
        rw [hvisits]
        intro old hold
        rcases List.mem_append.mp hold with hbefore | hlast
        · exact hinv old hbefore
        · rwa [List.mem_singleton.mp hlast]
      | true =>
        right
        obtain ⟨outcome, houtcome, hcontrolled⟩ : ∃ outcome,
            visit.outcome = some outcome ∧ isControlled outcome = true := by
          simpa [recordsStop, Option.any_eq_true] using hstop
        obtain ⟨hexit, hterminal, hnonRetryable⟩ :=
          heffect.controlled outcome houtcome hcontrolled
        exact ⟨state.visits, visit, hvisits, hinv, Option.some.inj hexit, hterminal, hnonRetryable⟩

/-- A controlled outcome that is recorded by a node of the outermost graph ends
everything: no node is executed afterwards, and the result is a failure that is
not to be retried, whatever edges, policies and handlers say. -/
theorem stop_is_final_at_top (env : Env World Call) (graph : ExecutionGraph)
    (ctx : ScopedFlowContext) (world : World)
    (htop : ∀ visit ∈ (run env graph ctx world).log.visits,
      ∀ inner ∈ visit.nested, ¬ StopReached inner) :
    StopIsFinal (run env graph ctx world).log := by
  rw [run_eq_conclude] at htop ⊢
  intro hreached
  have hown : ∃ visit ∈ (runLoop env (run env) graph ctx world).state.visits,
      recordsStop visit = true := by
    cases hreached with
    | here hvisit hstop => exact ⟨_, hvisit, hstop⟩
    | inside hvisit hinner hstop => exact absurd hstop (htop _ hvisit _ hinner)
  obtain ⟨visit, hvisit, hstop⟩ := hown
  rcases runLoop_stops env (run env) graph ctx world with hnone | ⟨earlier, last, hlast⟩
  · simp [hnone visit hvisit] at hstop
  · refine ⟨?_, ?_⟩
    · intro hgoes
      cases hgoes with
      | @visits _ before after visit later hvisits hstop =>
        have hsplit : (runLoop env (run env) graph ctx world).state.visits =
            before ++ visit :: later :: after := hvisits
        have hearlier : visit ∈ earlier := by
          rw [hlast.visits] at hsplit
          have hdrop := congrArg List.dropLast hsplit
          rw [List.dropLast_concat, List.dropLast_append_cons] at hdrop
          rw [hdrop]
          simp
        rcases hstop with hstop | ⟨inner, hinner, hstop⟩
        · simp [hlast.earlier visit hearlier] at hstop
        · refine htop visit ?_ inner hinner hstop
          change visit ∈ (runLoop env (run env) graph ctx world).state.visits
          rw [hlast.visits]
          exact List.mem_append_left _ hearlier
      | attempts hvisit hattempts hinner hstop =>
        refine htop _ hvisit _ (List.mem_flatMap.mpr ⟨_, ?_, hinner⟩) hstop
        rw [hattempts]
        exact List.mem_append_right _ List.mem_cons_self
      | inside hvisit hinner hgoes =>
        exact htop _ hvisit _ hinner hgoes.stopReached
    · have hexit : (conclude env graph (runLoop env (run env) graph ctx world)).log.exit =
          .returned (buildResult env graph (runLoop env (run env) graph ctx world).state) := by
        simp only [conclude, hlast.exit]
      have hterminal : (runLoop env (run env) graph ctx world).state.currentId ≠
          TERMINAL_COMPLETE_ID := by
        rw [hlast.terminal]
        decide
      obtain ⟨hsuccess, failure, hfailure, hnonRetryable⟩ :=
        buildResult_failed env graph _ hterminal
      exact ⟨_, failure, hexit, hsuccess, hfailure, hnonRetryable.trans hlast.nonRetryable⟩

/-! ## A stop inside a subflow -/

/-- A run without nested runs in which no stop was recorded. -/
def quiet (log : RunLog Call) : Bool :=
  log.visits.all fun visit => !recordsStop visit && visit.nested.isEmpty

theorem not_stopReached_of_quiet {log : RunLog Call} (hquiet : quiet log = true) :
    ¬ StopReached log := by
  intro hreached
  have hall := List.all_eq_true.mp hquiet
  cases hreached with
  | here hvisit hstop => simpa [hstop] using hall _ hvisit
  | inside hvisit hinner hstop =>
    have hnone := hall _ hvisit
    simp only [Bool.and_eq_true, List.isEmpty_iff] at hnone
    rw [hnone.2] at hinner
    cases hinner

/-- An executor that ends every node in `stopping` with a final error, and
succeeds elsewhere. -/
def stoppingExecutor (stopping : List String) :
    Node → ScopedFlowContext → Unit → ExecutorReply Unit Unit :=
  fun node ctx world =>
    { exit := .returned
        (if node.id ∈ stopping then
          { nodeId := node.id
            status := .failed
            error := some
              { name := "SemanticStopRequested"
                nonRetryable := true
                failureCode := some "semantic_stop_requested" } }
        else { nodeId := node.id, status := .success })
      ctx, world }

/-- A subflow of one action, then an action with a failure edge. -/
def subflowGraph : ExecutionGraph where
  entryNodeId := "sub"
  nodes :=
    [("sub",
      { id := "sub"
        nextNodeId := some "pay"
        onFailureNodeId := some "pay"
        kind := .subflow
          (some { entryNodeId := "checkin", nodes := [("checkin", { id := "checkin" })] })
          {} }),
     ("pay", { id := "pay", onFailureNodeId := some "notify" }),
     ("notify", { id := "notify" })]

def succeeds {Call : Type} (log : RunLog Call) : Bool :=
  match log.exit with
  | .returned result => result.success
  | _ => false

theorem success_of_succeeds {Call : Type} {log : RunLog Call} {result : FlowResult}
    (hsucceeds : succeeds log = true) (hexit : log.exit = .returned result) :
    result.success = true := by
  rw [succeeds, hexit] at hsucceeds
  exact hsucceeds

/-- The stop of the nested action leaves the outer run to go on along the
failure edge, and to succeed. -/
theorem subflow_hides_stop : ¬ StopIsFinal
      (run (Env.still (stoppingExecutor ["checkin"])) subflowGraph {} ()).log := by
  intro hfinal
  have hstops : ((run (Env.still (stoppingExecutor ["checkin"])) subflowGraph {}
      ()).log.visits.any fun visit =>
        visit.nested.any fun inner => inner.visits.any recordsStop) = true := by
    decide
  obtain ⟨visit, hvisit, hnested⟩ := List.any_eq_true.mp hstops
  obtain ⟨inner, hinner, hrecorded⟩ := List.any_eq_true.mp hnested
  obtain ⟨stopped, hstopped, hstop⟩ := List.any_eq_true.mp hrecorded
  obtain ⟨-, result, failure, hexit, hfailed, -⟩ :=
    hfinal (.inside hvisit hinner (.here hstopped hstop))
  have hsuccess : succeeds (run (Env.still (stoppingExecutor ["checkin"])) subflowGraph {}
      ()).log = true := by
    decide
  exact Bool.false_ne_true (hfailed.symm.trans (success_of_succeeds hsuccess hexit))

theorem stop_is_final_at_pay :
    StopIsFinal (run (Env.still (stoppingExecutor ["pay"])) subflowGraph {} ()).log := by
  refine stop_is_final_at_top _ _ _ _ fun visit hvisit inner hinner => ?_
  have hall : ((run (Env.still (stoppingExecutor ["pay"])) subflowGraph {}
      ()).log.visits.all fun visit => visit.nested.all quiet) = true := by
    decide
  exact not_stopReached_of_quiet
    (List.all_eq_true.mp (List.all_eq_true.mp hall visit hvisit) inner hinner)

end SignPulse.ControlledStop
