import SignPulse.Flow.ContextData
import SignPulse.Flow.FlowEngine

/-!
# Runs continued from a restored context

A context is written by `to_dict`, read back by `from_dict`, and a run goes on from what came back.
-/

namespace SignPulse.ContextRoundTrip

open FlowModels
open FlowContext
open RunEnvironment
open FlowEngine

/-- Two runs give the same result and leave the same variables, retry counters and receipts. -/
structure EndsAlike {World Call : Type} (left right : RunReply World Call) : Prop where
  exit : left.exit = right.exit
  vars : left.ctx.vars = right.ctx.vars
  retries : left.ctx.system.replyRetryCount = right.ctx.system.replyRetryCount
  receipts : left.ctx.operationReceipts = right.ctx.operationReceipts

/-- A run of any graph goes on from the restored context as from the context itself, and nothing
that was recorded is lost. -/
structure RoundTrips (ctx : ScopedFlowContext) : Prop where
  continues : ∀ (World Call : Type) (env : Env World Call) (graph : ExecutionGraph) (world : World),
    EndsAlike (run env graph (.fromDict ctx.toDict) world) (run env graph ctx world)
  receipts : (ScopedFlowContext.fromDict ctx.toDict).operationReceipts = ctx.operationReceipts
  outcomes : (ScopedFlowContext.fromDict ctx.toDict).stepOutcomes = ctx.stepOutcomes
  history : (ScopedFlowContext.fromDict ctx.toDict).stepHistory = ctx.stepHistory

/-- An exception that `from_dict` makes of a message. -/
def PlainError (error : PyError) : Prop :=
  error.message ≠ "" ∧ error = { name := "RuntimeError", message := error.message }

/-- Nothing in the context is left out of its dictionary. -/
structure Portable (ctx : ScopedFlowContext) : Prop where
  receipts : ctx.operationReceipts = []
  unmarked : ctx.pulseflowSideEffectStarted = false ∧ ctx.sideEffectStarted = false
  outcomes : ∀ item ∈ ctx.stepOutcomes, ∀ error ∈ item.2.error, PlainError error
  history : ∀ outcome ∈ ctx.stepHistory, ∀ error ∈ outcome.error, PlainError error

/-! ## Outcomes -/

theorem restoredOutcome_eq_iff (outcome : StepOutcome) :
    ScopedFlowContext.restoredOutcome outcome = outcome ↔
      ∀ error ∈ outcome.error, PlainError error := by
  have hfield : ScopedFlowContext.restoredOutcome outcome = outcome ↔
      StepOutcome.errorOf (outcome.error.map PyError.message) = outcome.error := by
    constructor
    · exact congrArg StepOutcome.error
    · intro herror
      rw [ScopedFlowContext.restoredOutcome, herror]
  rw [hfield]
  cases outcome.error with
  | none => exact ⟨fun _ error hnone => absurd hnone (Option.not_mem_none error), fun _ => rfl⟩
  | some error =>
    simp only [Option.map_some, Option.mem_some, forall_eq']
    unfold StepOutcome.errorOf PlainError
    by_cases hempty : error.message = ""
    · rw [if_neg (by simp [truthy, hempty])]
      exact ⟨fun hnone => absurd hnone.symm (Option.some_ne_none error),
        fun hplain => absurd hempty hplain.1⟩
    · rw [if_pos (by simp [truthy, hempty]), Option.getD_some, Option.some_inj]
      exact ⟨fun hsame => ⟨hempty, hsame.symm⟩, fun hplain => hplain.2.symm⟩

/-- A list is mapped to itself where each of its elements is. -/
theorem map_eq_self_iff {α : Type} {f : α → α} {items : List α} :
    items.map f = items ↔ ∀ item ∈ items, f item = item := by
  constructor
  · intro hmap
    exact List.map_inj_left.mp (hmap.trans (List.map_id items).symm)
  · intro hall
    exact (List.map_congr_left hall).trans (List.map_id items)

theorem outcomes_restored_iff (ctx : ScopedFlowContext) :
    ctx.restored.stepOutcomes = ctx.stepOutcomes ↔
      ∀ item ∈ ctx.stepOutcomes, ∀ error ∈ item.2.error, PlainError error := by
  apply map_eq_self_iff.trans
  apply forall₂_congr
  intro item _
  rw [← restoredOutcome_eq_iff]
  exact ⟨congrArg Prod.snd, fun hsame => congrArg (Prod.mk item.1) hsame⟩

theorem history_restored_iff (ctx : ScopedFlowContext) :
    ctx.restored.stepHistory = ctx.stepHistory ↔
      ∀ outcome ∈ ctx.stepHistory, ∀ error ∈ outcome.error, PlainError error := by
  apply map_eq_self_iff.trans
  apply forall₂_congr
  intro outcome _
  exact restoredOutcome_eq_iff outcome

/-! ## Side effects -/

/-- An executor that fails where an earlier one has left its mark. -/
def cautious : Env Unit Unit :=
  Env.still fun node ctx world =>
    { exit := .returned
        { nodeId := node.id
          status :=
            if ctx.pulseflowSideEffectStarted || ctx.sideEffectStarted then .failed
            else .success }
      ctx, world }

def oneStep : ExecutionGraph where
  entryNodeId := "checkin"
  nodes := [("checkin", { id := "checkin" })]

def succeeds : Exit FlowResult → Bool
  | .returned result => result.success
  | _ => false

theorem succeeds_cautious (ctx : ScopedFlowContext) : succeeds (run cautious oneStep ctx ()).exit =
      !(ctx.pulseflowSideEffectStarted || ctx.sideEffectStarted) := by
  obtain ⟨_, _, _, _, _, _, _, _, _, _, marked, started⟩ := ctx
  cases marked <;> cases started <;> rfl

/-! ## The round trip -/

theorem restored_of_portable {ctx : ScopedFlowContext} (hportable : Portable ctx) :
    ctx.restored = ctx := by
  have houtcomes := (outcomes_restored_iff ctx).mpr hportable.outcomes
  have hhistory := (history_restored_iff ctx).mpr hportable.history
  obtain ⟨hreceipts, ⟨hmarked, hstarted⟩, _, _⟩ := hportable
  cases ctx
  simp only [ScopedFlowContext.restored] at *
  simp only [houtcomes, hhistory, hreceipts, hmarked, hstarted]

/-- Continuing from the restored context gives the same result, and nothing is lost, just where the
context has no receipts and no marks of side effects, and each recorded error is the plain one
that its message makes. -/
theorem roundTrips_iff {ctx : ScopedFlowContext} (hkeys : ctx.DistinctKeys) :
    RoundTrips ctx ↔ Portable ctx := by
  have hback := ScopedFlowContext.fromDict_toDict hkeys
  constructor
  · intro htrips
    have hreceipts := htrips.receipts
    have houtcomes := htrips.outcomes
    have hhistory := htrips.history
    have hexit := (htrips.continues Unit Unit cautious oneStep ()).exit
    rw [hback] at hreceipts houtcomes hhistory hexit
    have hmarks := congrArg succeeds hexit
    rw [succeeds_cautious, succeeds_cautious] at hmarks
    have hunmarked : (ctx.pulseflowSideEffectStarted || ctx.sideEffectStarted) = false :=
      (Bool.not_inj hmarks).symm
    exact
      { receipts := hreceipts.symm
        unmarked := Bool.or_eq_false_iff.mp hunmarked
        outcomes := (outcomes_restored_iff ctx).mp houtcomes
        history := (history_restored_iff ctx).mp hhistory }
  · intro hportable
    have hsame := hback.trans (restored_of_portable hportable)
    exact
      { continues := fun World Call env graph world => by
          rw [hsame]
          exact ⟨rfl, rfl, rfl, rfl⟩
        receipts := congrArg ScopedFlowContext.operationReceipts hsame
        outcomes := congrArg ScopedFlowContext.stepOutcomes hsame
        history := congrArg ScopedFlowContext.stepHistory hsame }

/-- A step succeeded and another failed with a plain error. -/
def afterFailure : ScopedFlowContext :=
  (({ lastReceivedText := "Welcome" : ScopedFlowContext }.recordStepOutcome
    { nodeId := "step_1", status := .success, outputText := "Init completed" }).recordStepOutcome
    { nodeId := "step_2", status := .failed,
      error := some { name := "RuntimeError", message := "Network timeout" } }).setLastOutput
    "one" (some 123) (some 1)

theorem roundTrips_afterFailure : RoundTrips afterFailure := by
  apply (roundTrips_iff ⟨by decide, by decide⟩).mpr
  refine ⟨rfl, ⟨rfl, rfl⟩, ?_, ?_⟩
  · intro item hitem
    obtain ⟨rfl⟩ | ⟨rfl⟩ := List.mem_pair.mp hitem
    · nofun
    · rintro error ⟨rfl⟩
      exact ⟨by decide, rfl⟩
  · intro outcome houtcome
    obtain ⟨rfl⟩ | ⟨rfl⟩ := List.mem_pair.mp houtcome
    · nofun
    · rintro error ⟨rfl⟩
      exact ⟨by decide, rfl⟩

/-! ## A receipt that is lost -/

/-- One action in a branch of its own. -/
def branching : ExecutionGraph where
  entryNodeId := "together"
  nodes :=
    [("together",
      { id := "together"
        kind := .parallel
          [{ entryNodeId := "checkin"
             nodes := [("checkin", { id := "checkin", kind := .action none })] }]
          .allSettled "merge" .lastWriter })]

/-- An executor whose operation ends without a known result. -/
def uncertain : Env Unit Unit :=
  Env.still fun node ctx world =>
    { exit := .raised
        { name := "UnknownOperationResult"
          message := "External operation result is unknown"
          nonRetryable := true }
      ctx := (ctx.beginOperation s!"{node.id}:1" node.id 1 "telegram").setReceiptState
        s!"{node.id}:1" .unknown
      world }

def statusOf : Exit FlowResult → Option BusinessStatus
  | .returned result => some result.businessStatus
  | _ => none

/-- The context after the branch, whose `system` scope is plain.  The receipt makes the result of
whatever follows unknown, unless the context is restored. -/
theorem lost_receipt : (run uncertain branching {} ()).ctx.system.lastActionNode = none ∧
      ¬ RoundTrips (run uncertain branching {} ()).ctx := by
  refine ⟨by decide, fun htrips => ?_⟩
  have hexit := (htrips.continues Unit Unit cautious oneStep ()).exit
  have hstatus := congrArg statusOf hexit
  revert hstatus
  decide

end SignPulse.ContextRoundTrip
