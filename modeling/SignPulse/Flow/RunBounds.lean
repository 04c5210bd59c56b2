import SignPulse.Flow.EngineLaws

/-!
# How long a run can get

The limits of a run: its steps, the visits to one node between two restarts of
the flow, and the attempts of one visit.
-/

namespace SignPulse.RunBounds

open Foundation
open FlowModels
open FlowContext
open RunEnvironment
open NodeRuns
open FlowEngine
open EngineLaws

variable {World Call : Type}

/-- How often a node may be visited between two restarts. -/
def visitBound (node : Node) : ℕ :=
  if node.loopPolicy.allowLoop then node.loopPolicy.maxVisits.toNat else 1

def visitsTo (key : String) (stretch : List (Visit Call (RunLog Call))) : ℕ :=
  stretch.countP fun visit => visit.key == key

/-- A stretch of a run within which the flow was not restarted; its last visit
may be one that restarts it. -/
def Unrestarted (stretch : List (Visit Call (RunLog Call))) : Prop :=
  ∀ visit ∈ stretch.dropLast, visit.restarts = false

variable {state : RunState World Call} {node : Node} {env : Env World Call}
variable {runSub : SubRun World Call} {graph : ExecutionGraph} {visit : Visit Call (RunLog Call)}

theorem count_le_visitBound (hallowed : loopLimitError (state.enter node) node = none) :
    state.visitCount node.id + 1 ≤ visitBound node := by
  have hcount : (state.enter node).visitCount node.id = state.visitCount node.id + 1 := by
    simp [RunState.visitCount, RunState.enter]
  rw [loopLimitError, hcount] at hallowed
  unfold visitBound
  cases hloop : node.loopPolicy.allowLoop with
  | false =>
    simp only [hloop, Bool.not_false, Bool.true_and, decide_eq_true_eq] at hallowed
    split at hallowed
    · cases hallowed
    · simp only [Bool.false_eq_true, if_false]
      omega
  | true =>
    simp only [hloop, Bool.not_true, Bool.false_and, Bool.false_eq_true, if_false,
      Bool.true_and, decide_eq_true_eq] at hallowed
    split at hallowed
    · cases hallowed
    · simp only [if_true]
      omega

/-- What the turns of a run keep. -/
structure Bounded (graph : ExecutionGraph) (state : RunState World Call) : Prop where
  steps : state.visits.length = state.totalSteps
  limit : state.totalSteps ≤ graph.maxTotalSteps.toNat
  found : ∀ visit ∈ state.visits, Dict.getItem graph.nodes visit.key = some visit.node
  attempts : ∀ visit ∈ state.visits,
    visit.attempts.length ≤ visit.node.retryPolicy.maxAttempts.toNat
  /-- The counters know of every visit since the last restart. -/
  counted : ∀ stretch, stretch <:+ state.visits →
    (∀ visit ∈ stretch, visit.restarts = false) → ∀ nodeId,
      stretch.countP (fun visit => visit.node.id == nodeId) ≤ state.visitCount nodeId
  visits : ∀ stretch, stretch <:+: state.visits → Unrestarted stretch →
    ∀ key node, Dict.getItem graph.nodes key = some node → visitsTo key stretch ≤ visitBound node

theorem bounded_entryState (graph : ExecutionGraph) (ctx : ScopedFlowContext) (world : World) :
    Bounded graph (entryState graph ctx world : RunState World Call) where
  steps := rfl
  limit := Nat.zero_le _
  found := by simp [entryState]
  attempts := by simp [entryState]
  counted := by
    intro stretch hsuffix _ nodeId
    simp [entryState] at hsuffix
    simp [hsuffix]
  visits := by
    intro stretch hstretchIn _ key node _
    simp [entryState] at hstretchIn
    simp [hstretchIn, visitsTo]

theorem visitRun_shape {key : String} {ctx after : ScopedFlowContext} {world : World}
    (hrun : VisitRun env runSub graph key node ctx world visit after) :
    visit.key = key ∧ visit.node = node ∧
      visit.attempts.length ≤ node.retryPolicy.maxAttempts.toNat := by
  cases hrun with
  | guardRaised hguard => exact ⟨rfl, rfl, Nat.zero_le _⟩
  | skipped hguard => exact ⟨rfl, rfl, Nat.zero_le _⟩
  | interrupted hguard hexit => exact ⟨rfl, rfl, attemptLoop_length _ _ _ _ _ _⟩
  | settled hguard hexit => exact ⟨rfl, rfl, attemptLoop_length _ _ _ _ _ _⟩

theorem visits_concat (hbounded : Bounded graph state)
    (hnode : Dict.getItem graph.nodes visit.key = some visit.node)
    (hallowed : loopLimitError (state.enter visit.node) visit.node = none)
    {stretch : List (Visit Call (RunLog Call))} (hstretchIn : stretch <:+: state.visits ++ [visit])
    (hstretch : Unrestarted stretch) {key : String}
    (hkey : Dict.getItem graph.nodes key = some node) :
    visitsTo key stretch ≤ visitBound node := by
  rcases List.infix_concat_iff.mp hstretchIn with hsuffix | hold
  · rcases List.suffix_concat_iff.mp hsuffix with rfl | ⟨earlier, rfl, hearlier⟩
    · exact Nat.zero_le _
    · have hplain : ∀ old ∈ earlier, old.restarts = false := by
        simpa [Unrestarted] using hstretch
      by_cases hsame : visit.key = key
      · obtain rfl : visit.node = node := by
          rw [hsame, hkey] at hnode
          exact (Option.some.inj hnode).symm
        have hids : visitsTo key earlier ≤
            earlier.countP fun old => old.node.id == visit.node.id := by
          refine List.countP_mono_left fun old hmem hold => ?_
          have hfound := hbounded.found old (hearlier.subset hmem)
          rw [beq_iff_eq.mp hold, hkey] at hfound
          rw [← Option.some.inj hfound]
          exact beq_self_eq_true _
        have hcount := hbounded.counted earlier hearlier hplain visit.node.id
        have hbound := count_le_visitBound hallowed
        have hone : visitsTo key (earlier ++ [visit]) = visitsTo key earlier + 1 := by
          simp [visitsTo, hsame]
        omega
      · have hzero : visitsTo key (earlier ++ [visit]) = visitsTo key earlier := by
          simp [visitsTo, hsame]
        rw [hzero]
        exact hbounded.visits earlier hearlier.isInfix
          (fun old hmem => hplain old (List.dropLast_subset _ hmem)) key node hkey
  · exact hbounded.visits stretch hold hstretch key node hkey

theorem bounded_enter_visit {next : RunState World Call} (hbounded : Bounded graph state)
    (hsteps : (state.totalSteps : ℤ) < graph.maxTotalSteps)
    (hnode : Dict.getItem graph.nodes visit.key = some visit.node)
    (hallowed : loopLimitError (state.enter visit.node) visit.node = none)
    (hattempts : visit.attempts.length ≤ visit.node.retryPolicy.maxAttempts.toNat)
    (hvisits : next.visits = state.visits ++ [visit])
    (htotal : next.totalSteps = state.totalSteps + 1) (hcounts : next.nodeVisitCounts =
      if visit.restarts then [] else (state.enter visit.node).nodeVisitCounts) :
    Bounded graph next where
  steps := by simp [hvisits, htotal, hbounded.steps]
  limit := by omega
  found := by
    rw [hvisits]
    intro old hold
    rcases List.mem_append.mp hold with hbefore | hlast
    · exact hbounded.found old hbefore
    · rwa [List.mem_singleton.mp hlast]
  attempts := by
    rw [hvisits]
    intro old hold
    rcases List.mem_append.mp hold with hbefore | hlast
    · exact hbounded.attempts old hbefore
    · rwa [List.mem_singleton.mp hlast]
  counted := by
    rw [hvisits]
    intro stretch hsuffix hplain nodeId
    rcases List.suffix_concat_iff.mp hsuffix with rfl | ⟨earlier, rfl, hearlier⟩
    · exact Nat.zero_le _
    · have hstay : visit.restarts = false := hplain visit (by simp)
      have hold := hbounded.counted earlier hearlier
        (fun old hmem => hplain old (List.mem_append_left _ hmem)) nodeId
      rw [List.countP_append]
      rw [RunState.visitCount, hcounts, hstay]
      by_cases hid : visit.node.id = nodeId
      · subst hid
        simpa [RunState.enter] using hold
      · have hother : (visit.node.id == nodeId) = false := by simpa using hid
        simpa [RunState.enter, hother, RunState.visitCount,
          Dict.getItem_setItem_of_ne _ _ (Ne.symm hid)] using hold
  visits := by
    rw [hvisits]
    intro stretch hstretchIn hstretch key node hkey
    exact visits_concat hbounded hnode hallowed hstretchIn hstretch hkey

theorem bounded_turn {next : RunState World Call} (hbounded : Bounded graph state)
    (hagain : turn env runSub graph state = .again next) : Bounded graph next := by
  have hcases := turn_cases env runSub graph state
  rw [hagain] at hcases
  cases hcases with
  | ended terminal error heq => cases heq
  | refused node error heq => cases heq
  | visited node visit ctx hnode hsteps hallowed hrun heffect =>
    obtain ⟨hkey, rfl, hattempts⟩ := visitRun_shape hrun
    rw [← hkey] at hnode
    exact bounded_enter_visit hbounded hsteps hnode hallowed hattempts
      heffect.visits heffect.totalSteps (heffect.counts rfl)

/-- What holds of the log of a run that was left in `state`. -/
structure WithinLimits (graph : ExecutionGraph)
    (visits : List (Visit Call (RunLog Call))) : Prop where
  steps : visits.length ≤ graph.maxTotalSteps.toNat
  attempts : ∀ visit ∈ visits, visit.attempts.length ≤ visit.node.retryPolicy.maxAttempts.toNat
  visits : ∀ stretch, stretch <:+: visits → Unrestarted stretch →
    ∀ key node, Dict.getItem graph.nodes key = some node → visitsTo key stretch ≤ visitBound node

theorem Bounded.withinLimits (hbounded : Bounded graph state) :
    WithinLimits graph state.visits where
  steps := hbounded.steps ▸ hbounded.limit
  attempts := hbounded.attempts
  visits := hbounded.visits

theorem withinLimits_leave {departure : Departure World Call} (hbounded : Bounded graph state)
    (hleave : turn env runSub graph state = .leave departure) :
    WithinLimits graph departure.state.visits := by
  have hcases := turn_cases env runSub graph state
  rw [hleave] at hcases
  cases hcases with
  | ended terminal error heq =>
    cases heq
    exact hbounded.withinLimits
  | refused node error heq =>
    cases heq
    exact hbounded.withinLimits
  | visited node visit ctx hnode hsteps hallowed hrun heffect =>
    obtain ⟨hkey, rfl, hattempts⟩ := visitRun_shape hrun
    rw [← hkey] at hnode
    have hvisits : departure.state.visits = state.visits ++ [visit] :=
      heffect.visits
    rw [hvisits]
    refine ⟨?_, ?_, ?_⟩
    · have := hbounded.steps
      simp only [List.length_append, List.length_singleton]
      omega
    · intro old hold
      rcases List.mem_append.mp hold with hbefore | hlast
      · exact hbounded.attempts old hbefore
      · rwa [List.mem_singleton.mp hlast]
    · intro stretch hstretchIn hstretch key other hother
      exact visits_concat hbounded hnode hallowed hstretchIn hstretch hother

/-- A run ends, and keeps its limits: at most `max_total_steps` visits in all,
restarts included; between two restarts at most `max_visits` visits to a node
that may loop and one to any other; and at most `max_attempts` attempts in each
visit. -/
theorem run_ends_withinLimits (env : Env World Call) (graph : ExecutionGraph)
    (ctx : ScopedFlowContext) (world : World) :
    (∃ departure, Leaves (turn env (run env) graph) (entryState graph ctx world) departure ∧
        run env graph ctx world = conclude env graph departure) ∧
    WithinLimits graph (run env graph ctx world).log.visits := by
  refine ⟨⟨_, runLoop_leaves env (run env) graph ctx world,
    run_eq_conclude env graph ctx world⟩, ?_⟩
  rw [run_eq_conclude]
  exact runLoop_invariant (Bounded graph)
    (fun departure => WithinLimits graph departure.state.visits)
    (bounded_entryState graph ctx world)
    (fun _ _ hbounded hagain => bounded_turn hbounded hagain)
    (fun _ _ hbounded hleave => withinLimits_leave hbounded hleave)

end SignPulse.RunBounds
