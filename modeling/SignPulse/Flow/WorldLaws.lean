import SignPulse.Flow.RunLogs

/-!
# Marks on the world

A mark is a property of the world that nothing takes away again.  If some calls
of the executor leave the mark, then after a run it tells whether such a call was
made in the run, at whatever depth.
-/

namespace SignPulse.WorldLaws

open Foundation
open FlowModels
open FlowContext
open RunEnvironment
open WaitEvent
open NodeRuns
open FlowEngine
open EngineLaws
open NodeLaws

variable {World Call : Type}

/-- A call that the executor made in a run, or in a run inside it. -/
inductive CalledIn (call : Call) : RunLog Call → Prop where
  | own {log : RunLog Call} {visit : Visit Call (RunLog Call)}
      {attempt : Attempt Call (RunLog Call)} (hvisit : visit ∈ log.visits)
      (hattempt : attempt ∈ visit.attempts) (hcall : call ∈ attempt.calls) :
      CalledIn call log
  | inside {log inner : RunLog Call} {visit : Visit Call (RunLog Call)}
      (hvisit : visit ∈ log.visits) (hinner : inner ∈ visit.nested)
      (hcalled : CalledIn call inner) : CalledIn call log

/-- Nothing takes the mark away, and every call that shows `Shows` leaves it. -/
structure Marks (env : Env World Call) (Mark : World → Prop) (Shows : Call → Prop) :
    Prop where
  executor : ∀ node ctx world, Mark world → Mark (env.executor node ctx world).world
  shown : ∀ node ctx world, ∀ call ∈ (env.executor node ctx world).calls, Shows call →
    Mark (env.executor node ctx world).world
  pause : ∀ world, Mark world → Mark (env.pause world).2
  deliveries : ∀ node ctx world, Mark world → Mark (env.deliveries node ctx world).2
  assess : ∀ node text world, Mark world → Mark (env.assess node text world).2

/-- The mark is there if it was there before, or a call of `calls` leaves it. -/
structure Marked (Mark : World → Prop) (Shows : Call → Prop) (before : World)
    (calls : Call → Prop) (after : World) : Prop where
  lasts : Mark before → Mark after
  shown : ∀ call, calls call → Shows call → Mark after

namespace Marked

variable {Mark : World → Prop} {Shows : Call → Prop} {calls more : Call → Prop}
  {before middle after : World}

theorem refl (hnone : ∀ call, ¬calls call) : Marked Mark Shows before calls before where
  lasts := id
  shown := fun call hcall _ => absurd hcall (hnone call)

theorem pass (hmarked : Marked Mark Shows before calls middle)
    (hlasts : Mark middle → Mark after) : Marked Mark Shows before calls after where
  lasts := fun hmark => hlasts (hmarked.lasts hmark)
  shown := fun call hcall hshows => hlasts (hmarked.shown call hcall hshows)

theorem trans (hfirst : Marked Mark Shows before calls middle)
    (hsecond : Marked Mark Shows middle more after) :
    Marked Mark Shows before (fun call => calls call ∨ more call) after where
  lasts := fun hmark => hsecond.lasts (hfirst.lasts hmark)
  shown := fun call hcall hshows =>
    hcall.elim (fun hold => hsecond.lasts (hfirst.shown call hold hshows))
      fun hnew => hsecond.shown call hnew hshows

theorem mono (hmarked : Marked Mark Shows before more after)
    (hsub : ∀ call, calls call → more call) : Marked Mark Shows before calls after where
  lasts := hmarked.lasts
  shown := fun call hcall => hmarked.shown call (hsub call hcall)

end Marked

section Marking

variable {env : Env World Call} {Mark : World → Prop} {Shows : Call → Prop}
  {graph : ExecutionGraph} {node : Node} {config : WaitEventConfig}

theorem executor_marked (hmarks : Marks env Mark Shows) (node : Node)
    (ctx : ScopedFlowContext) (world : World) :
    Marked Mark Shows world (· ∈ (env.executor node ctx world).calls)
      (env.executor node ctx world).world where
  lasts := hmarks.executor node ctx world
  shown := hmarks.shown node ctx world

/-! ## Wait nodes -/

def stepWorld : WaitState World Call ⊕ NodeReply World Call → World
  | .inl state => state.world
  | .inr reply => reply.world

theorem resend_marked (hmarks : Marks env Mark Shows) {start : World} (action : Node)
    {state : WaitState World Call}
    (hmarked : Marked Mark Shows start (· ∈ state.calls) state.world) :
    Marked Mark Shows start (· ∈ stepCalls (resend env node action state))
      (stepWorld (resend env node action state)) := by
  have happend : Marked Mark Shows start
      (· ∈ state.calls ++ (env.executor action state.ctx state.world).calls)
      (env.executor action state.ctx state.world).world :=
    (hmarked.trans (executor_marked hmarks action state.ctx state.world)).mono
      fun _ hcall => List.mem_append.mp hcall
  simp only [resend]
  split
  · split
    · exact happend
    · exact happend
  · exact happend
  · exact happend
  · exact happend

variable {start : World} {runSub : SubRun World Call}

theorem retryReply_marked (hmarks : Marks env Mark Shows) (text : String)
    {state : WaitState World Call} (hmarked : Marked Mark Shows start (· ∈ state.calls) state.world)
    :
    Marked Mark Shows start (· ∈ stepCalls (retryReply env graph node config text state))
      (stepWorld (retryReply env graph node config text state)) := by
  have hpaused : Marked Mark Shows start (· ∈ state.calls) (env.pause state.world).2 :=
    hmarked.pass (hmarks.pause state.world)
  unfold retryReply
  split
  · split
    · next level world hpause =>
      rw [hpause] at hpaused
      exact hpaused
    · next error world hpause =>
      rw [hpause] at hpaused
      exact hpaused
    · next world hpause =>
      rw [hpause] at hpaused
      dsimp only
      split
      · exact hpaused
      · split
        · exact hpaused
        · next action _ =>
          exact @resend_marked _ _ env Mark Shows node hmarks start action
            ({ state with world }.countRetry node.id) hpaused
  · exact hmarked

theorem handleEvent_marked (hmarks : Marks env Mark Shows) {start : World}
    (event : TelegramMessageEvent) {state : WaitState World Call}
    (hmarked : Marked Mark Shows start (· ∈ state.calls) state.world) :
    Marked Mark Shows start (· ∈ stepCalls (handleEvent env graph node config event state))
      (stepWorld (handleEvent env graph node config event state)) := by
  unfold handleEvent
  split
  · exact retryReply_marked hmarks _ hmarked
  · split
    · exact hmarked
    · split
      · exact hmarked
      · split
        · exact hmarked
        · have hassessed : Marked Mark Shows start (· ∈ state.calls)
              (env.assess node event.text state.world).2 :=
            hmarked.pass (hmarks.assess node event.text state.world)
          simp only [unmatchedReply]
          split
          · split
            all_goals next hassess =>
                rw [hassess] at hassessed
                exact hassessed
          · exact hmarked

theorem waitLoop_marked (hmarks : Marks env Mark Shows) (chatId : ChatId) (threadId : Option ℤ) :
    ∀ (deliveries : List Delivery) (state : WaitState World Call),
      Marked Mark Shows start (· ∈ state.calls) state.world → Marked Mark Shows start
          (· ∈ (waitLoop env graph node config chatId threadId deliveries state).calls)
          (waitLoop env graph node config chatId threadId deliveries state).world := by
  intro deliveries
  induction deliveries with
  | nil => exact fun state hmarked => hmarked
  | cons delivery rest ih =>
    intro state hmarked
    cases delivery with
    | timedOut => exact hmarked
    | gap => exact hmarked
    | cancelled level => exact hmarked
    | event event =>
      have hevent := @handleEvent_marked _ _ env Mark Shows graph node config hmarks start
        event state hmarked
      unfold waitLoop
      split
      · split
        · next next hnext =>
          rw [hnext] at hevent
          exact ih next hevent
        · next reply hreply =>
          rw [hreply] at hevent
          exact hevent
      · exact ih state hmarked

/-! ## Nodes -/

/-- A call that an execution made by itself, or in a run inside it. -/
def ActsIn (calls : List Call) (nested : List (RunLog Call)) (call : Call) : Prop :=
  call ∈ calls ∨ ∃ inner ∈ nested, CalledIn call inner

theorem actsIn_own {calls : List Call} {call : Call} : ActsIn calls [] call → call ∈ calls := by
  rintro (hown | ⟨inner, hinner, -⟩)
  · exact hown
  · cases hinner

theorem not_actsIn_nil (call : Call) : ¬ActsIn ([] : List Call) [] call :=
  fun hacts => List.not_mem_nil (actsIn_own hacts)

/-- Running a nested graph keeps to the marks. -/
def SubMarked (Mark : World → Prop) (Shows : Call → Prop) (runSub : SubRun World Call)
    (graph : ExecutionGraph) : Prop :=
  ∀ ctx world, Marked Mark Shows world (CalledIn · (runSub graph ctx world).log)
    (runSub graph ctx world).world

theorem runBranches_marked (hmarks : Marks env Mark Shows) (ctx : ScopedFlowContext) :
    ∀ (branches : List ExecutionGraph) (world : World),
      (∀ graph ∈ branches, SubMarked Mark Shows runSub graph) → Marked Mark Shows world
          (fun call => ∃ inner ∈
            (runBranches env runSub ctx branches world).1.filterMap BranchReply.log,
              CalledIn call inner)
          (runBranches env runSub ctx branches world).2 := by
  intro branches
  induction branches with
  | nil =>
    intro world _
    exact .refl fun call hcall => by simp [runBranches] at hcall
  | cons graph rest ih =>
    intro world hbranches
    have hpaused : Mark world → Mark (env.pause world).2 := hmarks.pause world
    have hrest := fun world =>
      ih world fun inner hinner => hbranches inner (List.mem_cons_of_mem _ hinner)
    unfold runBranches
    split
    next reply after hbranch =>
      split at hbranch
      · next start hpause =>
        rw [hpause] at hpaused
        obtain ⟨rfl, rfl⟩ := Prod.mk.inj hbranch
        have hrun := hbranches graph List.mem_cons_self ctx.childContext start
        have hboth := hrun.trans (hrest (runSub graph ctx.childContext start).world)
        refine ⟨fun hmark => hboth.lasts (hpaused hmark), ?_⟩
        rintro call ⟨inner, hinner, hcalled⟩
        apply hboth.shown call
        rw [List.filterMap_cons] at hinner
        rcases List.mem_cons.mp hinner with rfl | hlater
        · exact Or.inl hcalled
        · exact Or.inr ⟨inner, hlater, hcalled⟩
      all_goals next hpause =>
          rw [hpause] at hpaused
          obtain ⟨rfl, rfl⟩ := Prod.mk.inj hbranch
          exact ⟨fun hmark => (hrest _).lasts (hpaused hmark), (hrest _).shown⟩

theorem runSubflowNode_marked {nodeId : String} {subflowGraph : Option ExecutionGraph}
    (config : SubflowVars) (ctx : ScopedFlowContext) (world : World)
    (hsub : ∀ inner ∈ subflowGraph, SubMarked Mark Shows runSub inner) :
    Marked Mark Shows world
      (ActsIn (runSubflowNode runSub nodeId subflowGraph config ctx world).calls
        (runSubflowNode runSub nodeId subflowGraph config ctx world).nested)
      (runSubflowNode runSub nodeId subflowGraph config ctx world).world := by
  cases subflowGraph with
  | none => exact .refl not_actsIn_nil
  | some inner =>
    have hrun : ∀ start, Marked Mark Shows world
        (ActsIn ([] : List Call) [(runSub inner start world).log])
        (runSub inner start world).world := by
      intro start
      apply (hsub inner rfl start world).mono
      rintro call (hnone | ⟨log, hlog, hcalled⟩)
      · cases hnone
      · rwa [List.mem_singleton.mp hlog] at hcalled
    simp only [runSubflowNode]
    split
    all_goals exact hrun _

variable (hmarks : Marks env Mark Shows)

include hmarks

theorem runParallelNode_marked {branches : List ExecutionGraph}
    (nodeId : String) (mode : ParallelMode) (joinStrategy : String)
    (policy : VariableConflictPolicy) (ctx : ScopedFlowContext) (world : World)
    (hsub : ∀ inner ∈ branches, SubMarked Mark Shows runSub inner) :
    Marked Mark Shows world
      (ActsIn (runParallelNode env runSub nodeId branches mode joinStrategy policy ctx world).calls
        (runParallelNode env runSub nodeId branches mode joinStrategy policy ctx world).nested)
      (runParallelNode env runSub nodeId branches mode joinStrategy policy ctx world).world := by
  have hrun : Marked Mark Shows world
      (ActsIn ([] : List Call)
        ((runBranches env runSub ctx branches world).1.filterMap BranchReply.log))
      (runBranches env runSub ctx branches world).2 :=
    (runBranches_marked hmarks ctx branches world hsub).mono
      fun call hacts => hacts.resolve_left List.not_mem_nil
  unfold runParallelNode
  split
  · exact .refl not_actsIn_nil
  · dsimp only
    split
    · exact hrun
    · exact hrun

theorem runWaitEventNode_marked (config : WaitEventConfig)
    (ctx : ScopedFlowContext) (world : World) :
    Marked Mark Shows world
      (ActsIn (runWaitEventNode env graph node config ctx world).calls
        (runWaitEventNode env graph node config ctx world).nested)
      (runWaitEventNode env graph node config ctx world).world := by
  have hnested := (@runWaitEventNode_reply _ _ env graph node config ctx world).nested
  have hwait : Marked Mark Shows world
      (· ∈ (runWaitEventNode env graph node config ctx world).calls)
      (runWaitEventNode env graph node config ctx world).world := by
    unfold runWaitEventNode
    split
    · exact .refl fun _ => List.not_mem_nil
    · apply waitLoop_marked hmarks
      exact (Marked.refl fun _ => List.not_mem_nil).pass (hmarks.deliveries node ctx world)
  rw [hnested]
  exact hwait.mono fun _ => actsIn_own

theorem executeNode_marked
    (hsub : ∀ inner ∈ subgraphs node, SubMarked Mark Shows runSub inner) (ctx : ScopedFlowContext)
    (world : World) :
    Marked Mark Shows world
      (ActsIn (executeNode env runSub graph node ctx world).calls
        (executeNode env runSub graph node ctx world).nested)
      (executeNode env runSub graph node ctx world).world := by
  have hidle : Marked Mark Shows world (ActsIn ([] : List Call) []) world :=
    .refl not_actsIn_nil
  unfold executeNode
  split
  · exact (executor_marked hmarks node _ world).mono fun _ => actsIn_own
  · exact hidle
  · unfold runExtractorNode
    split
    · exact hidle
    · dsimp only
      split
      · exact hidle
      · exact hidle
  · have hpaused := hidle.pass (hmarks.pause world)
    unfold runDelayNode
    split
    all_goals next hpause =>
        rw [hpause] at hpaused
        exact hpaused
  · next subflowGraph config hkind =>
    apply runSubflowNode_marked
    rintro inner hinner
    obtain rfl : subflowGraph = some inner := hinner
    exact hsub inner (by simp [subgraphs, hkind])
  · next branches mode joinStrategy policy hkind =>
    apply runParallelNode_marked hmarks
    intro inner hinner
    exact hsub inner (by simpa [subgraphs, hkind] using hinner)
  · exact runWaitEventNode_marked hmarks _ ctx world
  · exact (executor_marked hmarks node ctx world).mono fun _ => actsIn_own

/-! ## Attempts -/

theorem handleException_marked (isLast : Bool)
    (error : PyError) (ctx : ScopedFlowContext) {world : World} (hmark : Mark world) :
    Mark (handleException env node isLast error ctx world).2 := by
  have hpaused : Mark (env.pause world).2 := hmarks.pause world hmark
  unfold handleException
  split
  · exact hmark
  · unfold backoff
    split
    all_goals next hpause =>
        rw [hpause] at hpaused
        exact hpaused

theorem afterAttempt_marked (isLast : Bool)
    (reply : NodeReply World Call) (hmark : Mark reply.world) :
    Mark (afterAttempt env node isLast reply).2 := by
  have hpaused : Mark (env.pause reply.world).2 := hmarks.pause reply.world hmark
  unfold afterAttempt
  split
  · exact hmark
  · exact handleException_marked hmarks isLast _ _ hmark
  · split
    · exact hmark
    · split
      · exact hmark
      · split
        · next hpause =>
          rw [hpause] at hpaused
          exact hpaused
        · next hpause =>
          rw [hpause] at hpaused
          exact hpaused
        · next hpause =>
          rw [hpause] at hpaused
          exact handleException_marked hmarks isLast _ _ hpaused

omit hmarks

def ActsAmong (attempts : List (Attempt Call (RunLog Call))) (call : Call) : Prop :=
  ∃ attempt ∈ attempts, ActsIn attempt.calls attempt.nested call

theorem attemptLoop_marked (hmarks : Marks env Mark Shows)
    {execute : ScopedFlowContext → World → NodeReply World Call}
    (hexecute : ∀ ctx world, Marked Mark Shows world
      (ActsIn (execute ctx world).calls (execute ctx world).nested) (execute ctx world).world) :
    ∀ (remaining : ℕ) (ctx : ScopedFlowContext) (world : World), Marked Mark Shows world
        (ActsAmong (attemptLoop env node execute remaining ctx world).attempts)
        (attemptLoop env node execute remaining ctx world).world := by
  intro remaining
  induction remaining with
  | zero =>
    intro ctx world
    exact .refl fun call ⟨attempt, hattempt, _⟩ => List.not_mem_nil hattempt
  | succ remaining ih =>
    intro ctx world
    have hafter := (hexecute ctx world).pass
      (@afterAttempt_marked _ _ env Mark Shows node hmarks (remaining == 0) (execute ctx world))
    simp only [attemptLoop]
    split
    · next exit after hstop =>
      rw [hstop] at hafter
      apply hafter.mono
      rintro call ⟨attempt, hattempt, hacts⟩
      rw [List.mem_singleton.mp hattempt] at hacts
      exact hacts
    · next after hagain =>
      rw [hagain] at hafter
      apply (hafter.trans (ih (execute ctx world).ctx after)).mono
      rintro call ⟨attempt, hattempt, hacts⟩
      rcases List.mem_cons.mp hattempt with rfl | hlater
      · exact Or.inl hacts
      · exact Or.inr ⟨attempt, hlater, hacts⟩

/-! ## Runs -/

def VisitCalled (visits : List (Visit Call (RunLog Call))) (call : Call) : Prop :=
  ∃ visit ∈ visits, ActsAmong visit.attempts call

theorem calledIn_visit {log : RunLog Call} {call : Call} (hcalled : CalledIn call log) :
    VisitCalled log.visits call := by
  cases hcalled with
  | own hvisit hattempt hcall => exact ⟨_, hvisit, _, hattempt, Or.inl hcall⟩
  | inside hvisit hinner hcalled =>
    obtain ⟨attempt, hattempt, hnested⟩ := List.mem_flatMap.mp hinner
    exact ⟨_, hvisit, attempt, hattempt, Or.inr ⟨_, hnested, hcalled⟩⟩

theorem visitNode_marked (hmarks : Marks env Mark Shows)
    (hsub : ∀ inner ∈ subgraphs node, SubMarked Mark Shows runSub inner)
    {state : RunState World Call}
    (hmarked : Marked Mark Shows start (VisitCalled state.visits) state.world) :
    Marked Mark Shows start (VisitCalled (endState (visitNode env runSub graph node state)).visits)
      (endState (visitNode env runSub graph node state)).world := by
  have hidle : ∀ visit : Visit Call (RunLog Call), visit.attempts = [] →
      ∀ call, VisitCalled (state.visits ++ [visit]) call → VisitCalled state.visits call := by
    rintro visit hnone call ⟨other, hother, hacts⟩
    rcases List.mem_append.mp hother with hold | hnew
    · exact ⟨other, hold, hacts⟩
    · obtain ⟨attempt, hattempt, -⟩ := hacts
      rw [List.mem_singleton.mp hnew, hnone] at hattempt
      cases hattempt
  have hattempts := @attemptLoop_marked _ _ env Mark Shows node hmarks
    (executeNode env runSub graph node) (fun ctx world => executeNode_marked hmarks hsub ctx world)
    node.retryPolicy.maxAttempts.toNat state.ctx state.world
  have hvisited : ∀ (key : String) (outcome : Option StepOutcome), Marked Mark Shows start
        (VisitCalled (state.visits ++
          [visitOf key node (attemptsOf env runSub graph node state.ctx state.world).attempts
            outcome]))
        (attemptsOf env runSub graph node state.ctx state.world).world := by
    intro key outcome
    apply (hmarked.trans hattempts).mono
    rintro call ⟨other, hother, hacts⟩
    rcases List.mem_append.mp hother with hold | hnew
    · exact Or.inl ⟨other, hold, hacts⟩
    · rw [List.mem_singleton.mp hnew] at hacts
      exact Or.inr hacts
  simp only [visitNode]
  split
  · exact hmarked.mono (hidle _ rfl)
  · exact hmarked.mono (hidle _ rfl)
  · split
    · exact hvisited _ _
    · exact hvisited _ _
    · next outcome _ =>
      rw [(settle_kept graph node outcome _).visits, (settle_kept graph node outcome _).world]
      exact hvisited _ _

theorem turn_marked (hmarks : Marks env Mark Shows)
    (hsub : ∀ node ∈ Dict.valueList graph.nodes, ∀ inner ∈ subgraphs node,
      SubMarked Mark Shows runSub inner) {state : RunState World Call}
    (hmarked : Marked Mark Shows start (VisitCalled state.visits) state.world) :
    Marked Mark Shows start (VisitCalled (endState (turn env runSub graph state)).visits)
      (endState (turn env runSub graph state)).world := by
  have hcases := turn_cases env runSub graph state
  cases hcases with
  | ended terminal error heq =>
    rw [heq]
    exact hmarked
  | refused node error heq =>
    rw [heq]
    exact hmarked
  | visited node visit ctx hnode hsteps hallowed hrun heffect hturn =>
    rw [hturn]
    exact visitNode_marked hmarks (hsub node (Dict.mem_valueList_of_getItem hnode)) hmarked

theorem run_marked (hmarks : Marks env Mark Shows) (graph : ExecutionGraph)
    (ctx : ScopedFlowContext) (world : World) :
    Marked Mark Shows world (CalledIn · (run env graph ctx world).log)
      (run env graph ctx world).world := by
  revert graph ctx world
  have hclaim : ∀ graph : ExecutionGraph, SubMarked Mark Shows (run env) graph := by
    apply graph_induction
    intro graph hsub ctx world
    rw [run_eq_conclude]
    have hloop : Marked Mark Shows world
        (VisitCalled (runLoop env (run env) graph ctx world).state.visits)
        (runLoop env (run env) graph ctx world).state.world := by
      refine runLoop_invariant
        (fun state => Marked Mark Shows world (VisitCalled state.visits) state.world)
        (fun departure => Marked Mark Shows world (VisitCalled departure.state.visits)
          departure.state.world) ?_ ?_ ?_
      · exact .refl fun call ⟨visit, hvisit, _⟩ => List.not_mem_nil hvisit
      · intro state next hmarked hagain
        simpa only [hagain, endState] using turn_marked hmarks hsub hmarked
      · intro state departure hmarked hleave
        simpa only [hleave, endState] using turn_marked hmarks hsub hmarked
    exact hloop.mono fun call hcalled => calledIn_visit hcalled
  exact hclaim

end Marking

end SignPulse.WorldLaws
