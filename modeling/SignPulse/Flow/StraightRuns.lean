import SignPulse.Flow.PlainVisits

/-!
# Runs along a row of nodes

A graph is straight when its nodes stand in a row, each one leading to the one
stored after it.  A run in which every node succeeds visits them in that order,
as far as the step limit lets it.  And in any graph, a node that fails and whose
failure edge ends the flow is the last one visited.
-/

namespace SignPulse.StraightRuns

open Foundation
open FlowModels
open FlowContext
open RunEnvironment
open TargetAliases
open NodeRuns
open FlowEngine
open EngineLaws
open PlainVisits

variable {World Call : Type}

/-- Where a row of nodes begins; the end of the flow where it is empty. -/
def headKey (row : Dict String Node) : String :=
  (row.head?.map Prod.fst).getD TERMINAL_COMPLETE_ID

def Leads : Dict String Node → Prop
  | [] => True
  | (_, node) :: rest => node.nextNodeId = some (headKey rest) ∧ Leads rest

/-- A node that can stand in a row. -/
structure InRow (key : String) (node : Node) : Prop where
  named : node.id = key
  nonempty : key ≠ ""
  plain : Plain key
  once : node.retryPolicy.maxAttempts = 1
  unlooped : node.loopPolicy.allowLoop = false

structure Straight (graph : ExecutionGraph) : Prop where
  distinct : (Dict.keyList graph.nodes).Nodup
  entry : graph.entryNodeId = headKey graph.nodes
  unresumed : graph.resumeFromNodeId = none
  unbroken : graph.consecutiveFailureLimit = none
  inRow : ∀ item ∈ graph.nodes, InRow item.1 item.2
  leads : Leads graph.nodes

theorem Leads.next {item : String × Node} {later : Dict String Node} :
    ∀ {earlier : Dict String Node}, Leads (earlier ++ item :: later) →
      item.2.nextNodeId = some (headKey later)
  | [], hleads => hleads.1
  | _ :: _, hleads => Leads.next hleads.2

/-- The visit ended in success, and in nothing else that decides the run. -/
def Succeeds (visit : Visit Call (RunLog Call)) : Prop :=
  ∃ outcome ∈ visit.outcome, succeededStatus outcome.status = true ∧ PlainOutcome visit.node outcome

def AllSucceed (visits : List (Visit Call (RunLog Call))) : Prop :=
  ∀ visit ∈ visits, Succeeds visit

/-- The node of a visit with the key it was found under. -/
def visitedItem (visit : Visit Call (RunLog Call)) : String × Node :=
  (visit.key, visit.node)

instance (node : Node) (outcome : StepOutcome) : Decidable (PlainOutcome node outcome) :=
  decidable_of_iff
    (outcome.signal = .proceed ∧ isControlled outcome = false ∧
      (outcome.matchedTerminal = false ∨ node.terminalPolicy = .ignore))
    ⟨fun h => ⟨h.1, h.2.1, h.2.2⟩, fun h => ⟨h.signal, h.controlled, h.terminal⟩⟩

instance (visit : Visit Call (RunLog Call)) : Decidable (Succeeds visit) :=
  inferInstanceAs (Decidable (∃ outcome ∈ visit.outcome, _))

instance (visits : List (Visit Call (RunLog Call))) : Decidable (AllSucceed visits) :=
  inferInstanceAs (Decidable (∀ visit ∈ visits, _))

/-! ## Along the row -/

/-- The run has visited the first part of the row and stands at the second. -/
structure Along (graph : ExecutionGraph) (visited remaining : Dict String Node)
    (state : RunState World Call) : Prop where
  row : graph.nodes = visited ++ remaining
  items : state.visits.map visitedItem = visited
  once : ∀ visit ∈ state.visits, visit.attempts.length = 1
  current : state.currentId = headKey remaining
  steps : state.totalSteps = visited.length
  within : state.totalSteps ≤ graph.maxTotalSteps.toNat
  unvisited : ∀ item ∈ remaining, state.visitCount item.1 = 0

theorem along_entryState {graph : ExecutionGraph} (hstraight : Straight graph)
    (ctx : ScopedFlowContext) (world : World) :
    Along graph [] graph.nodes (entryState graph ctx world : RunState World Call) where
  row := rfl
  items := rfl
  once := by simp [entryState]
  current := by
    simp [entryState, hstraight.unresumed, pyOrElse, pyOr, truthy, hstraight.entry]
  steps := rfl
  within := Nat.zero_le _
  unvisited := fun _ _ => rfl

theorem not_terminal_of_plain {key : String} (hplain : Plain key) : atTerminal key = false := by
  obtain ⟨-, hcomplete, hfail⟩ := hplain
  have hne : key ≠ TERMINAL_COMPLETE_ID ∧ key ≠ TERMINAL_FAIL_ID := by
    constructor
    · rintro rfl
      exact hcomplete (by decide)
    · rintro rfl
      exact hfail (by decide)
  simp [atTerminal, hne]

theorem normalizeTarget_headKey {row : Dict String Node}
    (hrow : ∀ item ∈ row, InRow item.1 item.2) :
    normalizeTarget (pyOr (some (headKey row)) (some TERMINAL_COMPLETE_ID)) = headKey row := by
  cases row with
  | nil => decide
  | cons item rest =>
    have hitem := hrow item List.mem_cons_self
    have htruthy : truthy (some item.1) = true := by
      simpa [truthy] using hitem.nonempty
    simp [headKey, pyOr, htruthy, normalizeTarget, hitem.nonempty,
      resolveAlias_of_plain hitem.plain]

theorem attemptsOf_length {env : Env World Call} {runSub : SubRun World Call}
    {graph : ExecutionGraph} {node : Node} (honce : node.retryPolicy.maxAttempts = 1)
    (ctx : ScopedFlowContext) (world : World) :
    (attemptsOf env runSub graph node ctx world).attempts.length = 1 := by
  rw [attemptsOf, honce]
  unfold attemptLoop
  dsimp only [Int.toNat_one]
  split <;> simp [attemptLoop]

section Row

variable {env : Env World Call} {runSub : SubRun World Call} {graph : ExecutionGraph}
  {visited : Dict String Node} {state : RunState World Call}

variable {item : String × Node} {rest : Dict String Node}

theorem row_distinct (hstraight : Straight graph) (hrow : graph.nodes = visited ++ item :: rest) :
    ∀ other ∈ rest, item.1 ≠ other.1 := by
  intro other hother heq
  have hdistinct := hstraight.distinct
  rw [hrow, Dict.keyList, List.map_append, List.map_cons] at hdistinct
  have hfresh := (List.nodup_cons.mp (List.nodup_append.mp hdistinct).2.1).1
  exact hfresh (heq ▸ List.mem_map_of_mem hother)

theorem loopLimitError_first {node : Node} (hunlooped : node.loopPolicy.allowLoop = false)
    (hfirst : state.visitCount node.id = 0) :
    loopLimitError (state.enter node) node = none := by
  have hcount : (state.enter node).visitCount node.id = 1 := by
    simp [RunState.visitCount, RunState.enter]
    simpa [RunState.visitCount] using hfirst
  simp [loopLimitError, hunlooped, hcount]

theorem along_item (halong : Along graph visited (item :: rest) state) : item ∈ graph.nodes := by
  rw [halong.row]
  exact List.mem_append_right _ List.mem_cons_self

section

variable (hstraight : Straight graph) (halong : Along graph visited (item :: rest) state)

include hstraight halong

theorem along_not_ended : state.currentId ≠ "" ∧ atTerminal state.currentId = false := by
  have hitem := hstraight.inRow item (along_item halong)
  have hcurrent : state.currentId = item.1 := halong.current
  rw [hcurrent]
  exact ⟨hitem.nonempty, not_terminal_of_plain hitem.plain⟩

theorem along_turn (hsteps : (state.totalSteps : ℤ) < graph.maxTotalSteps) :
    turn env runSub graph state = visitNode env runSub graph item.2 (state.enter item.2) := by
  have hitem := hstraight.inRow item (along_item halong)
  have hcurrent : state.currentId = item.1 := halong.current
  obtain ⟨hne, haway⟩ := along_not_ended hstraight halong
  refine turn_at_node hne haway hsteps ?_ ?_
  · rw [hcurrent]
    exact Dict.getItem_of_mem hstraight.distinct (along_item halong)
  · refine loopLimitError_first hitem.unlooped ?_
    rw [hitem.named]
    exact halong.unvisited item List.mem_cons_self

theorem along_visit
    (hsteps : (state.totalSteps : ℤ) < graph.maxTotalSteps) {visit : Visit Call (RunLog Call)}
    {ctx : ScopedFlowContext}
    (hrun : VisitRun env runSub graph state.currentId item.2 state.ctx state.world
      visit ctx) (heffect : VisitEffect (state.enter item.2) visit ctx
      (visitNode env runSub graph item.2 (state.enter item.2))) (hsucceeds : Succeeds visit) :
    ∃ next, visitNode env runSub graph item.2 (state.enter item.2) = .again next ∧
      Along graph (visited ++ [item]) rest next := by
  obtain ⟨outcome, houtcome, hstatus, hplain⟩ := hsucceeds
  have hran : outcome.status ≠ .skipped := by
    intro hskipped
    simp [hskipped, succeededStatus] at hstatus
  have hsettles : _ ∧ ∃ before, visitNode env runSub graph item.2 (state.enter item.2) =
      settle graph item.2 outcome before := settles_of_outcome hrun houtcome hran
  obtain ⟨rfl, before, hvisit⟩ := hsettles
  have hplain : PlainOutcome item.2 outcome := hplain
  obtain ⟨next, hnext, hcurrent, -⟩ :=
    settle_proceeds hstraight.unbroken hplain before
  have hagain : visitNode env runSub graph item.2 (state.enter item.2) = .again next :=
    hvisit.trans hnext
  rw [hagain] at heffect
  have hitem := hstraight.inRow item (along_item halong)
  refine ⟨next, hagain, ?_⟩
  exact
    { row := by simp [halong.row]
      items := by
        have hvisits := heffect.visits
        simp only [endState] at hvisits
        rw [hvisits, List.map_append, show (state.enter item.2).visits = state.visits from rfl,
          halong.items]
        simp [visitedItem, visitOf, halong.current, headKey]
      once := by
        intro other hother
        have hvisits : next.visits = _ := heffect.visits
        rw [hvisits] at hother
        rcases List.mem_append.mp hother with hold | hnew
        · exact halong.once other hold
        · rw [List.mem_singleton.mp hnew]
          exact attemptsOf_length hitem.once _ _
      current := by
        have hrow : ∀ later ∈ rest, InRow later.1 later.2 := fun later hlater =>
          hstraight.inRow later (by simp [halong.row, hlater])
        have hleads : Leads (visited ++ item :: rest) := halong.row ▸ hstraight.leads
        rw [hcurrent, edgeTarget, if_pos (by simp [goesOn, hstatus]), hleads.next]
        exact normalizeTarget_headKey hrow
      steps := by
        have htotal : next.totalSteps = state.totalSteps + 1 := heffect.totalSteps
        simp [htotal, halong.steps]
      within := by
        have htotal : next.totalSteps = state.totalSteps + 1 := heffect.totalSteps
        omega
      unvisited := by
        intro other hother
        have hne : other.1 ≠ item.2.id := by
          rw [hitem.named]
          exact (row_distinct hstraight halong.row other hother).symm
        have hcounts : next.nodeVisitCounts = _ := heffect.counts rfl
        have hbefore := halong.unvisited other (List.mem_cons_of_mem _ hother)
        unfold RunState.visitCount at hbefore ⊢
        rw [hcounts]
        split
        · rfl
        · rwa [RunState.enter, Dict.getItem_setItem_of_ne _ _ hne] }

end

end Row

/-! ## A whole run -/

/-- What a run along the row comes to: it completes behind the last node, or it
fails at the step limit before that. -/
def RowEnd (graph : ExecutionGraph) (departure : Departure World Call) : Prop :=
  departure.exit = .returned () ∧
    (Along graph graph.nodes [] departure.state ∨ departure.state.currentId = TERMINAL_FAIL_ID ∧
        graph.maxTotalSteps.toNat < graph.nodes.length)

section Run

variable {env : Env World Call} {runSub : SubRun World Call} {graph : ExecutionGraph}

theorem along_stops {visited remaining : Dict String Node} {state : RunState World Call}
    (hstraight : Straight graph) (halong : Along graph visited remaining state)
    (hstop : remaining = [] ∨ graph.maxTotalSteps ≤ state.totalSteps) :
    ∃ departure, turn env runSub graph state = .leave departure ∧ RowEnd graph departure := by
  cases remaining with
  | nil =>
    have hrow : graph.nodes = visited := by simpa using halong.row
    have hcurrent : state.currentId = TERMINAL_COMPLETE_ID := halong.current
    refine ⟨{ state, exit := .returned () }, ?_, rfl, Or.inl (hrow ▸ halong)⟩
    simp [turn, hcurrent, atTerminal]
  | cons item rest =>
    have hlimit : graph.maxTotalSteps ≤ state.totalSteps := by simpa using hstop
    have hlength : graph.nodes.length = visited.length + (rest.length + 1) := by
      rw [halong.row]
      simp
    have hsteps := halong.steps
    obtain ⟨hne, haway⟩ := along_not_ended hstraight halong
    rw [turn, if_neg (by simp [hne, haway]), if_pos hlimit]
    exact ⟨_, rfl, rfl, Or.inr ⟨rfl, by omega⟩⟩

theorem along_goes {visited rest : Dict String Node} {item : String × Node}
    {state : RunState World Call} (hstraight : Straight graph)
    (halong : Along graph visited (item :: rest) state)
    (hsteps : (state.totalSteps : ℤ) < graph.maxTotalSteps) :
    ∃ visit, (endState (turn env runSub graph state)).visits = state.visits ++ [visit] ∧
      (Succeeds visit → ∃ next, turn env runSub graph state = .again next ∧
        Along graph (visited ++ [item]) rest next) := by
  obtain ⟨visit, ctx, hrun, heffect⟩ :=
    visitNode_cases env runSub graph item.2 (state.enter item.2)
  rw [along_turn hstraight halong hsteps]
  exact ⟨visit, heffect.visits, along_visit hstraight halong hsteps hrun heffect⟩

theorem along_step {state : RunState World Call} (hstraight : Straight graph)
    (halong : AllSucceed state.visits → ∃ visited remaining, Along graph visited remaining state)
    (hall : AllSucceed (endState (turn env runSub graph state)).visits) :
    (∃ next visited remaining, turn env runSub graph state = .again next ∧
      Along graph visited remaining next) ∨
    ∃ departure, turn env runSub graph state = .leave departure ∧ RowEnd graph departure := by
  have hbefore : AllSucceed state.visits := by
    intro visit hvisit
    refine hall visit ?_
    cases turn_cases env runSub graph state with
    | ended terminal error heq =>
      rw [heq]
      exact hvisit
    | refused node error heq =>
      rw [heq]
      exact hvisit
    | visited node other ctx hnode hsteps hallowed hrun heffect =>
      rw [heffect.visits]
      exact List.mem_append_left _ hvisit
  obtain ⟨visited, remaining, hrow⟩ := halong hbefore
  by_cases hstop : remaining = [] ∨ graph.maxTotalSteps ≤ state.totalSteps
  · exact Or.inr (along_stops hstraight hrow hstop)
  · obtain ⟨hsome, hbelow⟩ := not_or.mp hstop
    obtain ⟨item, rest, rfl⟩ := List.exists_cons_of_ne_nil hsome
    obtain ⟨visit, hvisits, hgoes⟩ := along_goes hstraight hrow (by omega)
    rw [hvisits] at hall
    obtain ⟨next, hnext, hafter⟩ := hgoes (hall visit (by simp))
    exact Or.inl ⟨next, _, _, hnext, hafter⟩

end Run

theorem straight_run {graph : ExecutionGraph} (hstraight : Straight graph)
    (env : Env World Call) (ctx : ScopedFlowContext) (world : World)
    (hall : AllSucceed (run env graph ctx world).log.visits) :
    ∃ result, (run env graph ctx world).log.exit = .returned result ∧
      (result.success = true ↔ graph.nodes.length ≤ graph.maxTotalSteps.toNat) ∧
      (result.success = true → (run env graph ctx world).log.visits.map visitedItem = graph.nodes ∧
        ∀ visit ∈ (run env graph ctx world).log.visits, visit.attempts.length = 1) := by
  have hend : AllSucceed (runLoop env (run env) graph ctx world).state.visits →
      RowEnd graph (runLoop env (run env) graph ctx world) := by
    refine runLoop_invariant
      (fun state => AllSucceed state.visits →
        ∃ visited remaining, Along graph visited remaining state)
      (fun departure => AllSucceed departure.state.visits → RowEnd graph departure)
      (fun _ => ⟨_, _, along_entryState hstraight ctx world⟩) ?_ ?_
    · intro state next halong hagain hsucceeded
      have hstep := along_step hstraight halong (by rwa [hagain])
      rw [hagain] at hstep
      rcases hstep with ⟨after, visited, remaining, heq, hafter⟩ | ⟨_, heq, _⟩
      · obtain rfl := Turn.again.inj heq
        exact ⟨visited, remaining, hafter⟩
      · cases heq
    · intro state departure halong hleave hsucceeded
      have hstep := along_step hstraight halong (by rwa [hleave])
      rw [hleave] at hstep
      rcases hstep with ⟨_, _, _, heq, _⟩ | ⟨other, heq, hrow⟩
      · cases heq
      · obtain rfl := Turn.leave.inj heq
        exact hrow
  rw [run_eq_conclude] at hall ⊢
  obtain ⟨hexit, hrow⟩ := hend hall
  refine ⟨buildResult env graph (runLoop env (run env) graph ctx world).state,
    by simp [conclude, hexit], ?_⟩
  have hsuccess : (buildResult env graph
      (runLoop env (run env) graph ctx world).state).success = true ↔
        (runLoop env (run env) graph ctx world).state.currentId = TERMINAL_COMPLETE_ID := by
    simp [buildResult]
  rw [hsuccess]
  rcases hrow with halong | ⟨hfailed, hlong⟩
  · have hlength := halong.steps ▸ halong.within
    exact ⟨⟨fun _ => hlength, fun _ => halong.current⟩, fun _ => ⟨halong.items, halong.once⟩⟩
  · have hne : TERMINAL_FAIL_ID ≠ TERMINAL_COMPLETE_ID := by decide
    rw [hfailed]
    exact ⟨⟨fun heq => absurd heq hne, fun hle => by omega⟩, fun heq => absurd heq hne⟩

/-! ## Failures that end the flow -/

/-- The visit failed, and its outcome does not itself say how the run goes on. -/
def Fails (visit : Visit Call (RunLog Call)) : Prop :=
  ∃ outcome ∈ visit.outcome, failedStatus outcome.status = true ∧
    outcome.signal ≠ .branch ∧ outcome.signal ≠ .haltSuccess

/-- A failure that no edge leads away from. -/
def FailsFinally (visit : Visit Call (RunLog Call)) : Prop :=
  Fails visit ∧ visit.node.onFailureNodeId = some TERMINAL_FAIL_ID

theorem settle_fails {graph : ExecutionGraph} {node : Node} {outcome : StepOutcome}
    (hfailed : failedStatus outcome.status = true) (hbranch : outcome.signal ≠ .branch)
    (hhalt : outcome.signal ≠ .haltSuccess)
    (hedge : node.onFailureNodeId = some TERMINAL_FAIL_ID)
    (state : RunState World Call) :
    (endState (settle graph node outcome state)).currentId = TERMINAL_FAIL_ID := by
  have hstatus : succeededStatus outcome.status = false ∧ (outcome.status == .skipped) = false := by
    cases hcase : outcome.status <;> simp_all [failedStatus, succeededStatus]
  have hfollow : ∀ noted : RunState World Call,
      (endState (followPolicy graph node outcome noted)).currentId = TERMINAL_FAIL_ID := by
    intro noted
    have hedgeTarget : pyOr (fallbackTarget graph node) (some TERMINAL_FAIL_ID) =
        some TERMINAL_FAIL_ID := by
      simp [fallbackTarget, hedge, truthy, TERMINAL_FAIL_ID, pyOr]
    simp only [followPolicy, hstatus.1, Bool.and_false, Bool.false_eq_true, if_false,
      followEdge, hstatus.2, Bool.or_false, hedgeTarget]
    exact (by decide : normalizeTarget (some TERMINAL_FAIL_ID) = TERMINAL_FAIL_ID)
  unfold settle
  split
  · rfl
  · dsimp only
    split
    · rfl
    · unfold followSignal
      split
      · next hsignal => exact absurd hsignal hhalt
      · rfl
      · next hsignal => exact absurd hsignal hbranch
      · exact hfollow _

/-- A final failure is the last thing that happened. -/
def FailureLast (state : RunState World Call) : Prop :=
  ∀ earlier visit later, state.visits = earlier ++ visit :: later →
    FailsFinally visit → later = [] ∧ state.currentId = TERMINAL_FAIL_ID

/-- The run is left without an exception. -/
def LeftPlainly (exit : Option (Exit Unit)) : Prop :=
  exit = none ∨ exit = some (.returned ())

section Failures

variable {env : Env World Call} {runSub : SubRun World Call} {graph : ExecutionGraph}
  {state : RunState World Call}

section

variable {node : Node} {visit : Visit Call (RunLog Call)} {ctx : ScopedFlowContext}

theorem visit_fails_finally
    (hrun : VisitRun env runSub graph state.currentId node state.ctx state.world visit ctx)
    (heffect : VisitEffect (state.enter node) visit ctx
      (visitNode env runSub graph node (state.enter node)))
    (hfails : FailsFinally visit) :
    (endState (visitNode env runSub graph node (state.enter node))).currentId = TERMINAL_FAIL_ID ∧
      LeftPlainly (exitOf (visitNode env runSub graph node (state.enter node))) := by
  obtain ⟨⟨outcome, houtcome, hfailed, hbranch, hhalt⟩, hedge⟩ := hfails
  have hran : outcome.status ≠ .skipped := by
    intro hskipped
    simp [hskipped, failedStatus] at hfailed
  have hsettles : _ ∧ ∃ before, visitNode env runSub graph node (state.enter node) =
      settle graph node outcome before := settles_of_outcome hrun houtcome hran
  obtain ⟨rfl, before, hvisit⟩ := hsettles
  refine ⟨?_, heffect.returned outcome houtcome⟩
  rw [hvisit]
  exact settle_fails hfailed hbranch hhalt hedge before

theorem failureLast_visit (hnone : ∀ visit ∈ state.visits, ¬ FailsFinally visit)
    (hrun : VisitRun env runSub graph state.currentId node state.ctx state.world visit ctx)
    (heffect : VisitEffect (state.enter node) visit ctx
      (visitNode env runSub graph node (state.enter node))) :
    FailureLast (endState (visitNode env runSub graph node (state.enter node))) := by
  intro earlier other later hsplit hfails
  have hvisits : (endState (visitNode env runSub graph node
      (state.enter node))).visits = state.visits ++ [visit] := heffect.visits
  rw [hvisits] at hsplit
  rcases List.eq_nil_or_concat later with rfl | ⟨front, last, rfl⟩
  · obtain rfl : visit = other := by
      simpa using List.append_inj_right' hsplit rfl
    exact ⟨rfl, (visit_fails_finally hrun heffect hfails).1⟩
  · have hlast : state.visits ++ [visit] = (earlier ++ other :: front) ++ [last] := by
      simpa using hsplit
    have hold : state.visits = earlier ++ other :: front :=
      List.append_inj_left' hlast rfl
    exact absurd hfails (hnone other (by simp [hold]))

end

variable (env runSub graph) in
theorem failureLast_turn (hlast : FailureLast state) :
    FailureLast (endState (turn env runSub graph state)) ∧
      ((∃ visit ∈ (endState (turn env runSub graph state)).visits, FailsFinally visit) →
        LeftPlainly (exitOf (turn env runSub graph state))) := by
  by_cases hfail : state.currentId = TERMINAL_FAIL_ID
  · have hleave : turn env runSub graph state = .leave { state, exit := .returned () } := by
      simp [turn, hfail, atTerminal]
    rw [hleave]
    exact ⟨hlast, fun _ => Or.inr rfl⟩
  · have hnone : ∀ visit ∈ state.visits, ¬ FailsFinally visit := by
      intro visit hvisit hfails
      obtain ⟨earlier, later, hsplit⟩ := List.append_of_mem hvisit
      exact hfail (hlast earlier visit later hsplit hfails).2
    have hkeep : ∀ after : RunState World Call, after.visits = state.visits →
        FailureLast after ∧ ¬ ∃ visit ∈ after.visits, FailsFinally visit := by
      intro after hvisits
      refine ⟨?_, ?_⟩
      · intro earlier visit later hsplit hfails
        exact absurd hfails (hnone visit (by simp [← hvisits, hsplit]))
      · rintro ⟨visit, hvisit, hfails⟩
        exact hnone visit (hvisits ▸ hvisit) hfails
    cases turn_cases env runSub graph state with
    | ended terminal error heq =>
      obtain ⟨hafter, hno⟩ :=
        hkeep { state with currentId := terminal, lastFailureError := error } rfl
      rw [heq]
      exact ⟨hafter, fun hsome => absurd hsome hno⟩
    | refused node error heq =>
      obtain ⟨hafter, hno⟩ := hkeep (state.enter node) rfl
      rw [heq]
      exact ⟨hafter, fun hsome => absurd hsome hno⟩
    | visited node visit ctx hnode hsteps hallowed hrun heffect hturn =>
      rw [hturn] at heffect ⊢
      refine ⟨failureLast_visit hnone hrun heffect, ?_⟩
      rintro ⟨other, hother, hfails⟩
      have hvisits : (endState (visitNode env runSub graph node
          (state.enter node))).visits = state.visits ++ [visit] := heffect.visits
      rw [hvisits] at hother
      rcases List.mem_append.mp hother with hold | hnew
      · exact absurd hfails (hnone other hold)
      · rw [List.mem_singleton.mp hnew] at hfails
        exact (visit_fails_finally hrun heffect hfails).2

end Failures

theorem final_failure_is_last {env : Env World Call} {graph : ExecutionGraph}
    {ctx : ScopedFlowContext} {world : World}
    {earlier later : List (Visit Call (RunLog Call))} {visit : Visit Call (RunLog Call)}
    (hsplit : (run env graph ctx world).log.visits = earlier ++ visit :: later)
    (hfails : FailsFinally visit) :
    later = [] ∧ ∃ result, (run env graph ctx world).log.exit = .returned result ∧
        result.success = false := by
  have hend : FailureLast (runLoop env (run env) graph ctx world).state ∧
      ((∃ visit ∈ (runLoop env (run env) graph ctx world).state.visits, FailsFinally visit) →
        (runLoop env (run env) graph ctx world).exit = .returned ()) := by
    refine runLoop_invariant FailureLast
      (fun departure => FailureLast departure.state ∧
        ((∃ visit ∈ departure.state.visits, FailsFinally visit) →
          departure.exit = .returned ())) ?_ ?_ ?_
    · intro earlier visit later hnil
      simp [entryState] at hnil
    · intro state next hlast hagain
      have hturn := (failureLast_turn env (run env) graph hlast).1
      rwa [hagain] at hturn
    · intro state departure hlast hleave
      have hturn := failureLast_turn env (run env) graph hlast
      rw [hleave] at hturn
      refine ⟨hturn.1, fun hsome => ?_⟩
      rcases hturn.2 hsome with hnone | hreturned
      · cases hnone
      · exact Option.some.inj hreturned
  rw [run_eq_conclude] at hsplit ⊢
  have hvisits : (runLoop env (run env) graph ctx world).state.visits =
      earlier ++ visit :: later := hsplit
  obtain ⟨hlater, hid⟩ := hend.1 earlier visit later hvisits hfails
  have hexit := hend.2 ⟨visit, by simp [hvisits], hfails⟩
  refine ⟨hlater, buildResult env graph (runLoop env (run env) graph ctx world).state,
    by simp [conclude, hexit], ?_⟩
  have hne : TERMINAL_FAIL_ID ≠ TERMINAL_COMPLETE_ID := by decide
  exact (buildResult_failed env graph _ (hid ▸ hne)).1

end SignPulse.StraightRuns
