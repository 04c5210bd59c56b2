import SignPulse.Flow.PlainVisits
import SignPulse.Flow.RunReport

/-!
# Failure streaks

A graph can limit how many of its nodes fail one after another.  The count of a run
is that of the failures recorded since its last success: guards that skip a node,
edges, handlers and restarts do not touch it, and at the limit the run is over.
-/

namespace SignPulse.FailureStreaks

open FlowModels
open FlowContext
open RunEnvironment
open NodeRuns
open FlowEngine
open EngineLaws
open RunLogs
open PlainVisits
open RunReport

variable {World Call : Type}

/-! ## Counting over visits -/

def recordsSuccess (visit : Visit Call (RunLog Call)) : Bool :=
  visit.outcome.any fun outcome => succeededStatus outcome.status

def recordsFailure (visit : Visit Call (RunLog Call)) : Bool :=
  visit.outcome.any fun outcome => failedStatus outcome.status

/-- The count after one more visit. -/
def streakAfter (failures : ℕ) (visit : Visit Call (RunLog Call)) : ℕ :=
  if recordsSuccess visit then 0
  else if recordsFailure visit then failures + 1
  else failures

/-- The failures recorded since the last success. -/
def streak (visits : List (Visit Call (RunLog Call))) : ℕ :=
  visits.foldl streakAfter 0

theorem streak_concat (visits : List (Visit Call (RunLog Call)))
    (visit : Visit Call (RunLog Call)) :
    streak (visits ++ [visit]) = streakAfter (streak visits) visit := by
  rw [streak, List.foldl_append]
  rfl

theorem streakAfter_recorded {visit : Visit Call (RunLog Call)} {outcome : StepOutcome}
    (houtcome : visit.outcome = some outcome) (failures : ℕ) :
    streakAfter failures visit = countFailures failures outcome.status := by
  unfold streakAfter recordsSuccess recordsFailure countFailures
  rw [houtcome, Option.any_some, Option.any_some]

theorem countP_le_foldl {visits : List (Visit Call (RunLog Call))}
    (hfailing : ∀ visit ∈ visits, recordsSuccess visit = false) (failures : ℕ) :
    failures + visits.countP recordsFailure ≤ visits.foldl streakAfter failures := by
  induction visits generalizing failures with
  | nil => exact le_rfl
  | cons visit rest ih =>
    have hrest := ih (fun later hlater => hfailing later (List.mem_cons_of_mem _ hlater))
      (streakAfter failures visit)
    have hhead : failures + (recordsFailure visit).toNat = streakAfter failures visit := by
      simp only [streakAfter, hfailing visit List.mem_cons_self, Bool.false_eq_true, if_false]
      cases recordsFailure visit <;> rfl
    have hcount : (visit :: rest).countP recordsFailure =
        (recordsFailure visit).toNat + rest.countP recordsFailure := by
      rw [List.countP_cons]
      cases recordsFailure visit <;> simp [Nat.add_comm]
    calc failures + (visit :: rest).countP recordsFailure
        = streakAfter failures visit + rest.countP recordsFailure := by
          rw [hcount, ← hhead, Nat.add_assoc]
      _ ≤ rest.foldl streakAfter (streakAfter failures visit) := hrest
      _ = (visit :: rest).foldl streakAfter failures := rfl

theorem countP_le_streak (before : List (Visit Call (RunLog Call)))
    {visits : List (Visit Call (RunLog Call))}
    (hfailing : ∀ visit ∈ visits, recordsSuccess visit = false) :
    visits.countP recordsFailure ≤ streak (before ++ visits) := by
  have hcounted := countP_le_foldl hfailing (streak before)
  have hsplit : streak (before ++ visits) = visits.foldl streakAfter (streak before) :=
    List.foldl_append
  rw [hsplit]
  omega

/-! ## One turn -/

section

variable (graph : ExecutionGraph) (node : Node) (outcome : StepOutcome)
  (state : RunState World Call)

theorem followEdge_failures : (endState (followEdge graph node outcome state)).consecutiveFailures =
      state.consecutiveFailures := by
  unfold followEdge
  split <;> rfl

theorem followSignal_failures :
    (endState (followSignal graph node outcome state)).consecutiveFailures =
      state.consecutiveFailures := by
  have hpolicy : (endState (followPolicy graph node outcome state)).consecutiveFailures =
      state.consecutiveFailures := by
    unfold followPolicy
    split
    · split
      · rfl
      · rfl
      · exact followEdge_failures graph node outcome state
    · exact followEdge_failures graph node outcome state
  unfold followSignal
  split
  · rfl
  · rfl
  · split
    · rfl
    · exact hpolicy
  · exact hpolicy

end

def BelowLimit (graph : ExecutionGraph) (failures : ℕ) : Prop :=
  ∀ limit, graph.consecutiveFailureLimit = some limit → 1 ≤ limit → failures < limit

variable {graph : ExecutionGraph} {state next : RunState World Call}

theorem belowLimit_of_breaks {status : NodeStatus} {failures : ℕ}
    (hbelow : BelowLimit graph failures)
    (hclosed : breaks graph status (countFailures failures status) = none) :
    BelowLimit graph (countFailures failures status) := by
  intro limit hlimit hpos
  have hbefore := hbelow limit hlimit hpos
  unfold breaks at hclosed
  unfold countFailures at hclosed ⊢
  split
  · omega
  · next hsucceeded =>
    split
    · next hfailed =>
      simpa [hfailed, hsucceeded, hlimit, Option.filter_eq_none_iff] using hclosed
    · exact hbefore

theorem settle_again {node : Node} {outcome : StepOutcome}
    (hagain : settle graph node outcome state = .again next)
    (hbelow : BelowLimit graph state.consecutiveFailures) :
    next.consecutiveFailures = countFailures state.consecutiveFailures outcome.status ∧
      BelowLimit graph next.consecutiveFailures := by
  have hnoted : ((state.record outcome).note outcome).consecutiveFailures =
      state.consecutiveFailures := note_consecutiveFailures _ _
  simp only [settle] at hagain
  rw [hnoted] at hagain
  split at hagain
  · cases hagain
  · split at hagain
    · cases hagain
    · next hclosed =>
      have hkept := followSignal_failures graph node outcome
        { (state.record outcome).note outcome with
          consecutiveFailures := countFailures state.consecutiveFailures outcome.status }
      rw [hagain] at hkept
      have hcount : next.consecutiveFailures =
          countFailures state.consecutiveFailures outcome.status := hkept
      exact ⟨hcount, hcount ▸ belowLimit_of_breaks hbelow hclosed⟩

theorem visitNode_again {env : Env World Call} {runSub : SubRun World Call} {node : Node}
    {visit : Visit Call (RunLog Call)} {key : String} {after : ScopedFlowContext}
    (hbelow : BelowLimit graph state.consecutiveFailures)
    (hrun : VisitRun env runSub graph key node state.ctx state.world visit after)
    (hagain : visitNode env runSub graph node state = .again next) :
    next.consecutiveFailures = streakAfter state.consecutiveFailures visit ∧
      BelowLimit graph next.consecutiveFailures := by
  have hrecorded : visit.outcome ≠ none := by
    intro hnone
    obtain ⟨departure, hleave, -⟩ := visitNode_none hrun hnone
    rw [hagain] at hleave
    cases hleave
  cases hrun with
  | guardRaised hguard => exact absurd rfl hrecorded
  | interrupted hguard hexit => exact absurd rfl hrecorded
  | skipped hguard =>
    rw [visitNode, hguard] at hagain
    cases hagain
    rw [streakAfter_recorded rfl]
    exact ⟨rfl, hbelow⟩
  | settled hguard hexit =>
    rw [visitNode_settled hguard hexit] at hagain
    rw [streakAfter_recorded rfl]
    have hsettled := settle_again hagain hbelow
    exact hsettled

/-! ## Runs -/

/-- The loop goes on only below the limit, and so it did after each visit so far. -/
structure Counted (graph : ExecutionGraph) (state : RunState World Call) : Prop where
  count : state.consecutiveFailures = streak state.visits
  below : ∀ initial, initial <+: state.visits → BelowLimit graph (streak initial)

theorem counted_entry (graph : ExecutionGraph) (ctx : ScopedFlowContext) (world : World) :
    Counted graph (entryState graph ctx world : RunState World Call) where
  count := rfl
  below := by
    intro initial hinitial limit _ hpos
    obtain rfl := List.prefix_nil.mp hinitial
    have hzero : streak ([] : List (Visit Call (RunLog Call))) = 0 := rfl
    omega

theorem prefix_or_eq {items initial : List (Visit Call (RunLog Call))}
    {item : Visit Call (RunLog Call)} (hbegins : initial <+: items ++ [item]) :
    initial <+: items ∨ initial = items ++ [item] :=
  (List.prefix_concat_iff.mp hbegins).symm

theorem counted_turn {env : Env World Call} {runSub : SubRun World Call}
    (hcounted : Counted graph state) (hagain : turn env runSub graph state = .again next) :
    Counted graph next := by
  have hcases := turn_cases env runSub graph state
  rw [hagain] at hcases
  cases hcases with
  | ended terminal error heq => cases heq
  | refused node error heq => cases heq
  | visited node visit after hnode hsteps hallowed hrun heffect hturn =>
    have hbelow : BelowLimit graph (state.enter node).consecutiveFailures := by
      rw [show (state.enter node).consecutiveFailures = streak state.visits from
        hcounted.count]
      exact hcounted.below _ List.prefix_rfl
    have hvisits : next.visits = state.visits ++ [visit] := heffect.visits
    obtain ⟨hcount, hnext⟩ := visitNode_again hbelow hrun hturn.symm
    have hstreak : next.consecutiveFailures = streak next.visits := by
      rw [hcount, hvisits, streak_concat]
      exact congrArg (fun failures => streakAfter failures visit) hcounted.count
    refine ⟨hstreak, ?_⟩
    intro initial hinitial
    rw [hvisits] at hinitial
    rcases prefix_or_eq hinitial with hbefore | rfl
    · exact hcounted.below initial hbefore
    · rw [hstreak, hvisits] at hnext
      exact hnext

theorem runLoop_below (env : Env World Call) (runSub : SubRun World Call)
    (graph : ExecutionGraph) (ctx : ScopedFlowContext) (world : World) :
    ∀ initial, initial <+: (runLoop env runSub graph ctx world).state.visits →
      initial ≠ (runLoop env runSub graph ctx world).state.visits →
      BelowLimit graph (streak initial) := by
  refine runLoop_invariant (Counted graph)
    (fun departure => ∀ initial, initial <+: departure.state.visits →
      initial ≠ departure.state.visits → BelowLimit graph (streak initial))
    (counted_entry graph ctx world) (fun _ _ hcounted => counted_turn hcounted) ?_
  intro state departure hcounted hleave initial hinitial hshort
  have hcases := turn_cases env runSub graph state
  rw [hleave] at hcases
  cases hcases with
  | ended terminal error heq =>
    cases heq
    exact hcounted.below initial hinitial
  | refused node error heq =>
    cases heq
    exact hcounted.below initial hinitial
  | visited node visit after hnode hsteps hallowed hrun heffect =>
    have hvisits : departure.state.visits = state.visits ++ [visit] := heffect.visits
    rw [hvisits] at hinitial hshort
    rcases prefix_or_eq hinitial with hbefore | heq
    · exact hcounted.below initial hbefore
    · exact absurd heq hshort

/-- The run executes no node after so many failures as its graph allows, between which
nothing succeeded. -/
def StopsAtLimit (log : RunLog Call) : Prop :=
  ∀ limit, log.graph.consecutiveFailureLimit = some limit → 1 ≤ limit →
    ∀ before failing after, log.visits = before ++ failing ++ after →
      (∀ visit ∈ failing, recordsSuccess visit = false) →
      limit ≤ failing.countP recordsFailure → after = []

section

variable (env : Env World Call) (graph : ExecutionGraph) (ctx : ScopedFlowContext) (world : World)

theorem run_stopsAtLimit : StopsAtLimit (run env graph ctx world).log := by
  rw [run_eq_conclude]
  intro limit hlimit hpos before failing after hvisits hfailing hcount
  by_contra hmore
  have hsplit : (runLoop env (run env) graph ctx world).state.visits =
      (before ++ failing) ++ after := hvisits
  have hbelow := runLoop_below env (run env) graph ctx world (before ++ failing)
    (hsplit ▸ List.prefix_append _ _)
    (by simpa [hsplit] using hmore) limit hlimit hpos
  have hstreak := countP_le_streak before hfailing
  omega

/-- Neither a run nor any run nested in it goes on after so many failures in a row as its
graph allows. -/
theorem stopsAtLimit_of_nested {log : RunLog Call}
    (hlog : log = (run env graph ctx world).log ∨
      NestedIn log (run env graph ctx world).log) : StopsAtLimit log := by
  rcases hlog with rfl | hnested
  · exact run_stopsAtLimit env graph ctx world
  · obtain ⟨inner, start, begun, rfl⟩ := nestedIn_run hnested graph ctx world rfl
    exact run_stopsAtLimit env inner start begun

end

/-- A node that fails, an edge to a node that its guard skips, and the way back. -/
def failingLoop : ExecutionGraph where
  entryNodeId := "check"
  consecutiveFailureLimit := some 2
  nodes :=
    [("check",
      { id := "check"
        onFailureNodeId := some "rest"
        loopPolicy := { allowLoop := true, maxVisits := 9 } }),
     ("rest",
      { id := "rest"
        nextNodeId := some "check"
        skipIf := some "always"
        loopPolicy := { allowLoop := true, maxVisits := 9 } })]

def failingEnv : Env Unit Unit :=
  Env.still fun node ctx world =>
    { exit := .returned { nodeId := node.id, status := .failed }, ctx, world }

/-- The second failure ends the run, whatever was skipped in between. -/
theorem stopsAtLimit_failingLoop :
    ((run failingEnv failingLoop {} ()).log.visits.map fun visit =>
        visit.outcome.map StepOutcome.status) =
      [some .failed, some .skipped, some .failed] ∧
    StopsAtLimit (run failingEnv failingLoop {} ()).log :=
  ⟨by decide, stopsAtLimit_of_nested failingEnv failingLoop {} () (Or.inl rfl)⟩

end SignPulse.FailureStreaks
