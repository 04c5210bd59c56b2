import SignPulse.Flow.RunLogs

/-!
# Receipts of nested runs

Where the operation receipts of nested runs go.  A parallel node hands the
receipts of its branches to its own context, under ids that name the branch; a
subflow node hands on nothing, and neither does a parallel node for a branch
that was left by an exception or when it is cut off itself.
-/

namespace SignPulse.ReceiptFlow

open Foundation
open FlowModels
open FlowContext
open RunEnvironment
open NodeRuns
open FlowEngine
open EngineLaws
open NodeLaws
open RunLogs

variable {World Call : Type}

/-- A receipt as a run around the one that made it shows it. -/
structure SameReceipt (shown receipt : OperationReceipt) : Prop where
  operationId : ∃ branch, shown.operationId = branch ++ receipt.operationId
  nodeId : shown.nodeId = receipt.nodeId
  attempt : shown.attempt = receipt.attempt
  kind : shown.kind = receipt.kind
  state : shown.state = receipt.state
  evidence : shown.evidence = receipt.evidence

theorem SameReceipt.refl (receipt : OperationReceipt) : SameReceipt receipt receipt :=
  ⟨⟨"", by simp⟩, rfl, rfl, rfl, rfl, rfl⟩

theorem SameReceipt.trans {first second third : OperationReceipt}
    (hfirst : SameReceipt first second) (hsecond : SameReceipt second third) :
    SameReceipt first third where
  operationId := by
    obtain ⟨outer, houter⟩ := hfirst.operationId
    obtain ⟨inner, hinner⟩ := hsecond.operationId
    exact ⟨outer ++ inner, by rw [houter, hinner, String.append_assoc]⟩
  nodeId := hfirst.nodeId.trans hsecond.nodeId
  attempt := hfirst.attempt.trans hsecond.attempt
  kind := hfirst.kind.trans hsecond.kind
  state := hfirst.state.trans hsecond.state
  evidence := hfirst.evidence.trans hsecond.evidence

def hasUnknown (ctx : ScopedFlowContext) : Bool :=
  ctx.operationReceipts.any (·.state == .unknown)

def didReturn {α : Type} : Exit α → Bool
  | .returned _ => true
  | _ => false

def isParallel (node : Node) : Bool :=
  match node.kind with
  | .parallel _ _ _ _ => true
  | _ => false

/-- No nested run of the visit leaves an UNKNOWN receipt, save a branch that
returned, of a parallel node that was not cut off. -/
def keepsUnknown (visit : Visit Call (RunLog Call)) : Bool :=
  visit.attempts.all fun attempt =>
    attempt.nested.all fun inner =>
      !hasUnknown inner.ctx ||
        (isParallel visit.node && didReturn attempt.exit && didReturn inner.exit)

def ReportsUnknown (log : RunLog Call) : Prop :=
  ∀ inner, inner = log ∨ NestedIn inner log →
    ∀ receipt ∈ inner.ctx.operationReceipts, receipt.state = .unknown →
      ∀ result, log.exit = .returned result →
        (∃ shown ∈ result.operationReceipts, SameReceipt shown receipt) ∧
          result.businessStatus = .unknown

/-- Receipts are added and none is changed or removed. -/
def AddsReceipts (before after : ScopedFlowContext) : Prop :=
  before.operationReceipts <+: after.operationReceipts

theorem addsReceipts_frame : Frame AddsReceipts where
  trans := fun hfirst hsecond => hfirst.trans hsecond
  engine := fun _ _ hadds => hadds

/-! ## From an attempt to the end of its run -/

variable {env : Env World Call} {graph : ExecutionGraph} {world : World} {ctx : ScopedFlowContext}
variable {receipt : OperationReceipt} {inner : RunLog Call}

theorem visitRun_adds (hadds : ExecutorGrows env AddsReceipts) {key : String} {node : Node}
    {before after : ScopedFlowContext} {visit : Visit Call (RunLog Call)}
    (hrun : VisitRun env (run env) graph key node before world visit after) :
    AddsReceipts before after ∧ ∀ attempt ∈ visit.attempts, AddsReceipts attempt.ctx after := by
  have hattempts : AddsReceipts before (attemptsOf env (run env) graph node before world).ctx ∧
      ∀ attempt ∈ (attemptsOf env (run env) graph node before world).attempts,
        AddsReceipts attempt.ctx (attemptsOf env (run env) graph node before world).ctx :=
    attemptsOf_grows addsReceipts_frame hadds (run env) before world
  cases hrun with
  | guardRaised hguard => exact ⟨addsReceipts_frame.refl _, by simp [visitOf]⟩
  | skipped hguard => exact ⟨addsReceipts_frame.refl _, by simp [visitOf]⟩
  | interrupted hguard hexit => exact hattempts
  | settled hguard hexit => exact hattempts

theorem run_keeps_receipts (hadds : ExecutorGrows env AddsReceipts) :
    ∀ visit ∈ (run env graph ctx world).log.visits, ∀ attempt ∈ visit.attempts,
      AddsReceipts attempt.ctx (run env graph ctx world).log.ctx := by
  refine run_records
    (fun visits after => ∀ visit ∈ visits, ∀ attempt ∈ visit.attempts,
      AddsReceipts attempt.ctx after) (by simp) ?_
  intro visits before key node start visit after hinv _ hrun old hold attempt hattempt
  obtain ⟨hvisit, hattempts⟩ := visitRun_adds hadds hrun
  rcases List.mem_append.mp hold with hbefore | hlast
  · exact addsReceipts_frame.trans (hinv old hbefore attempt hattempt) hvisit
  · rw [List.mem_singleton.mp hlast] at hattempt
    exact hattempts attempt hattempt

/-! ## From a branch to the parallel node -/

theorem mem_branchReceipts {nodeId : String} {reply : BranchReply Call} {result : FlowResult}
    (hreturned : reply.exit = .returned result) (hreceipt : receipt ∈ reply.ctx.operationReceipts) :
    ∀ (replies : List (BranchReply Call)) (index : ℕ), reply ∈ replies →
      ∃ shown ∈ branchReceipts nodeId index replies, SameReceipt shown receipt := by
  intro replies
  induction replies with
  | nil =>
    intro index hmem
    cases hmem
  | cons head rest ih =>
    intro index hmem
    rw [branchReceipts]
    rcases List.mem_cons.mp hmem with rfl | hrest
    · refine ⟨{ receipt with
        operationId := s!"{nodeId}.branch{index}.{receipt.operationId}" }, ?_, ?_⟩
      · rw [hreturned]
        exact List.mem_append_left _ (List.mem_map.mpr ⟨receipt, hreceipt, rfl⟩)
      · refine ⟨⟨s!"{nodeId}.branch{index}.", ?_⟩, rfl, rfl, rfl, rfl, rfl⟩
        simp only [String.append_assoc]
        rfl
    · obtain ⟨shown, hshown, hsame⟩ := ih (index + 1) hrest
      exact ⟨shown, List.mem_append_right _ hshown, hsame⟩

theorem parallel_shows_receipt {node : Node} (hparallel : isParallel node = true)
    (hreturned : didReturn (executeNode env (run env) graph node ctx world).exit = true)
    (hinner : inner ∈ (executeNode env (run env) graph node ctx world).nested)
    (hbranch : didReturn inner.exit = true) (hreceipt : receipt ∈ inner.ctx.operationReceipts) :
    ∃ shown ∈ (executeNode env (run env) graph node ctx world).ctx.operationReceipts,
      SameReceipt shown receipt := by
  cases hkind : node.kind with
  | parallel branches mode joinStrategy policy =>
    simp only [executeNode, hkind] at hreturned hinner ⊢
    unfold runParallelNode at hreturned hinner ⊢
    split at hinner
    · simp at hinner
    · next hbranches =>
      simp only [hbranches, Bool.false_eq_true, if_false] at hreturned hinner ⊢
      split at hinner
      · next level hlevel => simp [hlevel, didReturn] at hreturned
      · obtain ⟨reply, hreply, hsome⟩ := List.mem_filterMap.mp hinner
        obtain ⟨branch, -, start, hshape, hlog⟩ := runBranches_log hreply hsome
        have hexit : reply.exit = inner.exit := by
          rw [hshape, hlog, run_log_exit]
        have hctx : reply.ctx = inner.ctx := by
          rw [hshape, hlog, run_log_ctx]
        cases hcase : inner.exit with
        | returned result =>
          obtain ⟨shown, hshown, hsame⟩ :=
            mem_branchReceipts (hexit.trans hcase) (hctx ▸ hreceipt) _ 0 hreply
          exact ⟨shown, List.mem_append_right _ hshown, hsame⟩
        | raised error => simp [hcase, didReturn] at hbranch
        | cancelled level => simp [hcase, didReturn] at hbranch
  | _ => simp [isParallel, hkind] at hparallel

/-! ## Through all levels -/

theorem visit_shows_unknown (hadds : ExecutorGrows env AddsReceipts)
    {visit : Visit Call (RunLog Call)} (hvisit : visit ∈ (run env graph ctx world).log.visits)
    (hkeeps : keepsUnknown visit = true) (hinner : inner ∈ visit.nested)
    (hreceipt : receipt ∈ inner.ctx.operationReceipts) (hunknown : receipt.state = .unknown) :
    ∃ shown ∈ (run env graph ctx world).log.ctx.operationReceipts, SameReceipt shown receipt := by
  obtain ⟨attempt, hattempt, hnested⟩ := List.mem_flatMap.mp hinner
  have hsome : hasUnknown inner.ctx = true :=
    List.any_eq_true.mpr ⟨receipt, hreceipt, by simp [hunknown]⟩
  have hkept := List.all_eq_true.mp (List.all_eq_true.mp hkeeps attempt hattempt) inner hnested
  simp only [hsome, Bool.not_true, Bool.false_or, Bool.and_eq_true] at hkept
  have hgrows := run_keeps_receipts hadds visit hvisit attempt hattempt
  obtain ⟨start, begun, rfl⟩ := (run_visitIn visit hvisit).attempt hattempt
  obtain ⟨shown, hshown, hsame⟩ := parallel_shows_receipt hkept.1.1 hkept.1.2 hnested
    hkept.2 hreceipt
  exact ⟨shown, hgrows.subset hshown, hsame⟩

def KeepsUnknown (log : RunLog Call) : Prop :=
  ∀ inner, inner = log ∨ NestedIn inner log → ∀ visit ∈ inner.visits, keepsUnknown visit = true

theorem nested_shows_unknown (hadds : ExecutorGrows env AddsReceipts) {outer : RunLog Call}
    (hnested : NestedIn inner outer) :
    ∀ graph ctx world, outer = (run env graph ctx world).log → KeepsUnknown outer →
      ∀ receipt ∈ inner.ctx.operationReceipts, receipt.state = .unknown →
        ∃ shown ∈ outer.ctx.operationReceipts, SameReceipt shown receipt := by
  induction hnested with
  | direct hvisit hinner =>
    rintro graph ctx world rfl hkeeps receipt hreceipt hunknown
    exact visit_shows_unknown hadds hvisit (hkeeps _ (Or.inl rfl) _ hvisit) hinner hreceipt hunknown
  | deeper hvisit hmiddle hbelow ih =>
    rintro graph ctx world rfl hkeeps receipt hreceipt hunknown
    obtain ⟨nested, -, start, begun, hmiddleRun⟩ :=
      (run_visitIn _ hvisit).nested hmiddle
    have hkeepsMiddle : KeepsUnknown _ := fun log hlog visit hmem =>
      hkeeps log
        (hlog.elim (fun heq => Or.inr (heq ▸ .direct hvisit hmiddle))
          fun hlog => Or.inr (.deeper hvisit hmiddle hlog))
        visit hmem
    obtain ⟨carried, hcarried, hsame⟩ :=
      ih nested start begun hmiddleRun hkeepsMiddle receipt hreceipt hunknown
    obtain ⟨shown, hshown, hsame'⟩ := visit_shows_unknown hadds hvisit
      (hkeeps _ (Or.inl rfl) _ hvisit) hmiddle hcarried (hsame.state.trans hunknown)
    exact ⟨shown, hshown, hsame'.trans hsame⟩

def NoPartial (log : RunLog Call) : Prop :=
  ∀ result, log.exit = .returned result → result.success = true →
    ∀ outcome ∈ Dict.valueList log.ctx.stepOutcomes,
      outcome.details.businessStatus ≠ some .partialResult

theorem businessStatus_of_unknown {success : Bool} (hunknown : hasUnknown ctx = true)
    (hwhole : success = true → ∀ outcome ∈ Dict.valueList ctx.stepOutcomes,
      outcome.details.businessStatus ≠ some .partialResult) :
    businessStatus graph success ctx = .unknown := by
  unfold businessStatus
  split
  · next hboth =>
    obtain ⟨hsuccess, hany⟩ := Bool.and_eq_true_iff.mp hboth
    obtain ⟨outcome, houtcome, hsome⟩ := List.any_eq_true.mp hany
    exact absurd (by simpa using hsome) (hwhole hsuccess outcome houtcome)
  · split
    · rfl
    · next hnone => exact absurd hunknown hnone

theorem reports_unknown (hadds : ExecutorGrows env AddsReceipts) (graph : ExecutionGraph)
    (ctx : ScopedFlowContext) (world : World) (hkeeps : KeepsUnknown (run env graph ctx world).log)
    (hwhole : NoPartial (run env graph ctx world).log) :
    ReportsUnknown (run env graph ctx world).log := by
  intro inner hinner receipt hreceipt hunknown result hexit
  obtain ⟨hreceipts, hstatus⟩ := run_result hexit
  obtain ⟨shown, hshown, hsame⟩ : ∃ shown ∈ (run env graph ctx world).log.ctx.operationReceipts,
        SameReceipt shown receipt := by
    rcases hinner with rfl | hnested
    · exact ⟨receipt, hreceipt, SameReceipt.refl receipt⟩
    · exact nested_shows_unknown hadds hnested graph ctx world rfl hkeeps receipt hreceipt hunknown
  refine ⟨⟨shown, hreceipts ▸ hshown, hsame⟩, ?_⟩
  rw [hstatus]
  refine businessStatus_of_unknown ?_ (hwhole result hexit)
  exact List.any_eq_true.mpr ⟨shown, hshown, by simp [hsame.state, hunknown]⟩

end SignPulse.ReceiptFlow
