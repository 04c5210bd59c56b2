import SignPulse.Flow.RunLogs

/-!
# When a run counts as confirmed

`run` calls a successful flow confirmed if some wait node stands in the step
records with a success.  The outcome by which a wait node restarts the flow is
recorded as a success too, and a restart keeps the records.  So the status is
about the reply only as long as no such record outlives the restart.
-/

namespace SignPulse.Confirmation

open Foundation
open FlowModels
open FlowContext
open RunEnvironment
open FlowEngine
open EngineLaws
open NodeLaws
open RunLogs

variable {World Call : Type}

def sinceRestart : List (Visit Call (RunLog Call)) → List (Visit Call (RunLog Call))
  | [] => []
  | visit :: rest =>
    if rest.any Visit.restarts then sinceRestart rest
    else if visit.restarts then rest
    else visit :: rest

variable {visit : Visit Call (RunLog Call)} {visits : List (Visit Call (RunLog Call))}
variable {outcome : StepOutcome} {before after : ScopedFlowContext} {env : Env World Call}
variable {graph : ExecutionGraph} {world : World}

theorem mem_sinceRestart {earlier later : List (Visit Call (RunLog Call))}
    (hvisit : visit.restarts = false) (hlater : later.any Visit.restarts = false) :
    visit ∈ sinceRestart (earlier ++ visit :: later) := by
  induction earlier with
  | nil => simp [sinceRestart, hlater, hvisit]
  | cons head rest ih =>
    rw [List.cons_append, sinceRestart]
    split
    · exact ih
    · split
      · simp
      · simp

theorem sinceRestart_subset (visits : List (Visit Call (RunLog Call))) :
    sinceRestart visits ⊆ visits := by
  induction visits with
  | nil => exact List.Subset.refl _
  | cons head rest ih =>
    rw [sinceRestart]
    split
    · exact List.subset_cons_of_subset _ ih
    · split
      · exact List.subset_cons_self _ _
      · exact List.Subset.refl _

/-- A wait node took an inbound event as its success in this visit. -/
def acceptsEvent (visit : Visit Call (RunLog Call)) : Prop :=
  isWaitEvent visit.node = true ∧ ∃ attempt ∈ visit.attempts, attempt.accepted = true

/-- After the last restart of the flow some wait node accepted an event. -/
def ConfirmedByReply (log : RunLog Call) : Prop :=
  ∀ result, log.exit = .returned result → result.businessStatus = .confirmed →
    ∃ visit ∈ sinceRestart log.visits, acceptsEvent visit

/-- The wait node succeeded in this visit, as far as the records go. -/
def recordsSuccess (visit : Visit Call (RunLog Call)) : Bool :=
  isWaitEvent visit.node && visit.outcome.any fun outcome => outcome.status == .success

def recordedAgain : List (Visit Call (RunLog Call)) → Bool
  | [] => true
  | visit :: later =>
    (!(recordsSuccess visit && (visit.restarts || later.any Visit.restarts)) ||
      later.any fun again =>
        again.outcome.isSome && again.node.id == visit.node.id) &&
    recordedAgain later

theorem recordedAgain_split {earlier later : List (Visit Call (RunLog Call))}
    (hagain : recordedAgain (earlier ++ visit :: later) = true)
    (hsuccess : recordsSuccess visit = true)
    (hrestart : (visit.restarts || later.any Visit.restarts) = true) :
    ∃ again ∈ later, again.outcome.isSome = true ∧ again.node.id = visit.node.id := by
  induction earlier with
  | nil =>
    simp only [List.nil_append, recordedAgain, hsuccess, hrestart, Bool.and_self,
      Bool.not_true, Bool.false_or, Bool.and_eq_true] at hagain
    obtain ⟨again, hmem, hboth⟩ := List.any_eq_true.mp hagain.1
    simp only [Bool.and_eq_true, beq_iff_eq] at hboth
    exact ⟨again, hmem, hboth⟩
  | cons head rest ih =>
    rw [List.cons_append, recordedAgain, Bool.and_eq_true] at hagain
    exact ih hagain.2

/-- A step that leaves the step records alone. -/
def SameRecords (before after : ScopedFlowContext) : Prop :=
  after.stepOutcomes = before.stepOutcomes

theorem sameRecords_frame : Frame SameRecords where
  trans := fun hfirst hsecond => hsecond.trans hfirst
  engine := fun hsame _ _ => hsame

/-- Who writes the step records: the engine alone, each node under its own
key. -/
structure RecordsKept (env : Env World Call) (graph : ExecutionGraph) : Prop where
  ids : ∀ key node, Dict.getItem graph.nodes key = some node → node.id = key
  names : ExecutorNames env
  keeps : ExecutorGrows env SameRecords

/-- The outcome on record for `nodeId` is that of a visit after which the node
was not recorded again. -/
def StandsIn (visits : List (Visit Call (RunLog Call))) (nodeId : String)
    (outcome : StepOutcome) : Prop :=
  ∃ earlier visit later, visits = earlier ++ visit :: later ∧
    visit.outcome = some outcome ∧ visit.node.id = nodeId ∧
    ∀ again ∈ later, again.outcome.isSome = true → again.node.id ≠ nodeId

theorem standsIn_concat_self (houtcome : visit.outcome = some outcome) :
    StandsIn (visits ++ [visit]) visit.node.id outcome :=
  ⟨visits, visit, [], rfl, houtcome, rfl, by simp⟩

theorem StandsIn.concat {nodeId : String} (hstands : StandsIn visits nodeId outcome)
    (hother : visit.outcome.isSome = true → visit.node.id ≠ nodeId) :
    StandsIn (visits ++ [visit]) nodeId outcome := by
  obtain ⟨earlier, old, later, rfl, houtcome, hid, hlater⟩ := hstands
  refine ⟨earlier, old, later ++ [visit], by simp, houtcome, hid, ?_⟩
  intro again hagain hsome
  rcases List.mem_append.mp hagain with hbefore | hlast
  · exact hlater again hbefore hsome
  · rw [List.mem_singleton.mp hlast] at hsome ⊢
    exact hother hsome

/-- The step records of a run are the last outcomes of its visits. -/
structure Recorded (visits : List (Visit Call (RunLog Call)))
    (ctx : ScopedFlowContext) : Prop where
  nodup : (Dict.keyList ctx.stepOutcomes).Nodup
  stands : ∀ nodeId outcome, (nodeId, outcome) ∈ ctx.stepOutcomes →
    outcome.nodeId = nodeId ∧ StandsIn visits nodeId outcome

theorem recorded_concat (hrecorded : Recorded visits before)
    (houtcome : visit.outcome = some outcome) (hid : outcome.nodeId = visit.node.id)
    (hafter : after.stepOutcomes = Dict.setItem before.stepOutcomes outcome.nodeId outcome) :
    Recorded (visits ++ [visit]) after where
  nodup := by
    rw [hafter]
    exact Dict.nodup_setItem _ _ hrecorded.nodup
  stands := by
    rw [hafter]
    intro nodeId found hfound
    rcases Dict.mem_setItem hrecorded.nodup hfound with ⟨rfl, rfl⟩ | ⟨hne, hold⟩
    · refine ⟨rfl, ?_⟩
      rw [hid]
      exact standsIn_concat_self houtcome
    · obtain ⟨hname, hstands⟩ := hrecorded.stands nodeId found hold
      refine ⟨hname, hstands.concat fun _ heq => hne ?_⟩
      rw [hid, heq]

theorem recorded_interrupted (hrecorded : Recorded visits before) (houtcome : visit.outcome = none)
    (hafter : after.stepOutcomes = before.stepOutcomes) :
    Recorded (visits ++ [visit]) after where
  nodup := hafter ▸ hrecorded.nodup
  stands := by
    rw [hafter]
    intro nodeId found hfound
    obtain ⟨hname, hstands⟩ := hrecorded.stands nodeId found hfound
    exact ⟨hname, hstands.concat fun hsome => by simp [houtcome] at hsome⟩

theorem recorded_visit (hkept : RecordsKept env graph) {key : String} {node : Node}
    (hrecorded : Recorded visits before)
    (hrun : VisitRun env (run env) graph key node before world visit after) :
    Recorded (visits ++ [visit]) after := by
  have hattempts : (attemptsOf env (run env) graph node before world).ctx.stepOutcomes =
      before.stepOutcomes :=
    (attemptsOf_grows sameRecords_frame hkept.keeps (run env) before world).1
  cases hrun with
  | guardRaised hguard => exact recorded_interrupted hrecorded rfl rfl
  | skipped hguard => exact recorded_concat hrecorded rfl rfl rfl
  | interrupted hguard hexit => exact recorded_interrupted hrecorded rfl hattempts
  | settled hguard hexit =>
    refine recorded_concat hrecorded rfl (attemptsOf_nodeId hkept.names hexit) ?_
    rw [ScopedFlowContext.stepOutcomes_recordStepOutcome, hattempts]

theorem run_recorded (hkept : RecordsKept env graph) {ctx : ScopedFlowContext}
    (hfresh : ctx.stepOutcomes = []) :
    Recorded (run env graph ctx world).log.visits (run env graph ctx world).log.ctx := by
  refine run_records Recorded ⟨by simp [hfresh, Dict.keyList], by simp [hfresh]⟩ ?_
  intro visits before key node start visit after hrecorded _ hrun
  exact recorded_visit hkept hrecorded hrun

theorem wait_record_of_confirmed {ctx : ScopedFlowContext} {result : FlowResult}
    (hexit : (run env graph ctx world).log.exit = .returned result)
    (hconfirmed : result.businessStatus = .confirmed) :
    ∃ nodeId outcome, (nodeId, outcome) ∈ (run env graph ctx world).log.ctx.stepOutcomes ∧
      (∃ node, Dict.getItem graph.nodes outcome.nodeId = some node ∧ isWaitEvent node = true) ∧
      outcome.status = .success := by
  have hwait : confirmedByWait graph (run env graph ctx world).log.ctx = true := by
    rw [(run_result hexit).2, businessStatus] at hconfirmed
    split at hconfirmed
    · cases hconfirmed
    · split at hconfirmed
      · cases hconfirmed
      · split at hconfirmed
        · next hboth => exact (Bool.and_eq_true_iff.mp hboth).2
        · split at hconfirmed <;> cases hconfirmed
  obtain ⟨outcome, houtcome, hholds⟩ := List.any_eq_true.mp hwait
  obtain ⟨⟨nodeId, found⟩, hmem, rfl⟩ := List.mem_map.mp houtcome
  simp only [Bool.and_eq_true, beq_iff_eq] at hholds
  obtain ⟨node, hnode, hkind⟩ := (Option.any_eq_true _ _).mp hholds.1
  exact ⟨nodeId, found, hmem, ⟨node, hnode, hkind⟩, hholds.2⟩

/-- A run from a fresh context that counts as confirmed does so by a reply that
was accepted after the last restart, as long as no success of a wait node
outlives a restart without being recorded again. -/
theorem confirmed_by_reply {env : Env World Call} {graph : ExecutionGraph}
    (hkept : RecordsKept env graph) {ctx : ScopedFlowContext} {world : World}
    (hfresh : ctx.stepOutcomes = [])
    (hagain : recordedAgain (run env graph ctx world).log.visits = true) :
    ConfirmedByReply (run env graph ctx world).log := by
  intro result hexit hconfirmed
  obtain ⟨nodeId, outcome, hmem, ⟨node, hnode, hwait⟩, hsuccess⟩ :=
    wait_record_of_confirmed hexit hconfirmed
  obtain ⟨hname, earlier, visit, later, hvisits, houtcome, hid, hlater⟩ :=
    (run_recorded hkept hfresh).stands nodeId outcome hmem
  have hvisit : visit ∈ (run env graph ctx world).log.visits := by
    rw [hvisits]
    exact List.mem_append_right _ List.mem_cons_self
  obtain ⟨hfound, start, begun, after, hrun⟩ := run_visitIn visit hvisit
  have hsame : visit.node = node := by
    have hkey := hkept.ids _ _ hfound
    rw [hname, ← hid, hkey, hfound] at hnode
    exact Option.some.inj hnode
  rw [← hsame] at hwait
  have hstays : (visit.restarts || later.any Visit.restarts) = false := by
    refine Bool.eq_false_iff.mpr fun hrestart => ?_
    have hrecords : recordsSuccess visit = true := by
      simp [recordsSuccess, hwait, houtcome, hsuccess]
    rw [hvisits] at hagain
    obtain ⟨again, hmemagain, hsome, hnodeid⟩ :=
      recordedAgain_split hagain hrecords hrestart
    exact hlater again hmemagain hsome (hnodeid.trans hid)
  obtain ⟨hvisitStays, hlaterStays⟩ := Bool.or_eq_false_iff.mp hstays
  refine ⟨visit, ?_, hwait, ?_⟩
  · rw [hvisits]
    exact mem_sinceRestart hvisitStays hlaterStays
  · generalize visit.key = key at hrun
    generalize hcase : visit.node = visited at hrun hwait
    cases hrun with
    | guardRaised hguard => cases houtcome
    | skipped hguard =>
      cases houtcome
      cases hsuccess
    | interrupted hguard hexit => cases houtcome
    | settled hguard hreturned =>
      cases houtcome
      rcases attemptsOf_wait_success hwait hreturned hsuccess with haccepted | hrestarts
      · exact haccepted
      · have hfalse : restarts _ = false := hvisitStays
        exact absurd hrestarts (by simp [hfalse])

/-! ## A reply that only restarts the flow -/

/-- Surroundings where each subscription brings the next list of replies. -/
def repliesEnv : Env (List (List TelegramMessageEvent)) Unit :=
  { Env.still fun node ctx world =>
      { exit := .returned { nodeId := node.id, status := .success }, ctx, world } with
    evaluateCondition := fun ctx _ => .ok (Dict.hasKey ctx.stepOutcomes "wait")
    deliveries := fun _ _ world =>
      ((world.head?.getD []).map Delivery.event, world.tail)
    matchesRetryKeyword := fun text keywords => keywords.find? (· == text) }

/-- A check-in that starts again at `gate` when the bot asks for a retry. -/
def checkinGraph (cases : List ConditionCase) : ExecutionGraph where
  entryNodeId := "gate"
  nodes :=
    [("gate", { id := "gate", kind := .condition cases (some "checkin") }),
     ("checkin", { id := "checkin", nextNodeId := some "wait" }),
     ("wait",
      { id := "wait"
        kind := .waitEvent
          { chatId := some (.number 7)
            retryKeywords := ["稍后重试"]
            retryEntryNodeId := some "gate" } })]

def botReply (text : String) : TelegramMessageEvent where
  chatId := 7
  messageId := 1
  text := text
  occurredAt := 0

/-- The gate lets a flow pass that has heard from the bot. -/
def heardCase : ConditionCase where
  condition := "steps.wait.status"
  targetId := some "COMPLETE"

def isConfirmed (log : RunLog Call) : Bool :=
  match log.exit with
  | .returned result => result.businessStatus == .confirmed
  | _ => false

/-- The only reply asks for a retry, and the run counts as confirmed. -/
theorem retry_reply_confirms : ¬ ConfirmedByReply
      (run repliesEnv (checkinGraph [heardCase]) {} [[botReply "稍后重试"]]).log := by
  intro hclaim
  have hconfirmed : isConfirmed (run repliesEnv (checkinGraph [heardCase]) {}
      [[botReply "稍后重试"]]).log = true := by
    decide
  have hnone : ((run repliesEnv (checkinGraph [heardCase]) {}
      [[botReply "稍后重试"]]).log.visits.any fun visit =>
        visit.attempts.any fun attempt => attempt.accepted) = false := by
    decide
  generalize (run repliesEnv (checkinGraph [heardCase]) {}
    [[botReply "稍后重试"]]).log = log at hclaim hconfirmed hnone
  cases hexit : log.exit with
  | raised error => simp [isConfirmed, hexit] at hconfirmed
  | cancelled level => simp [isConfirmed, hexit] at hconfirmed
  | returned result =>
    obtain ⟨visit, hvisit, -, attempt, hattempt, haccepted⟩ :=
      hclaim result hexit (by simpa [isConfirmed, hexit] using hconfirmed)
    have hsome : (log.visits.any fun visit =>
        visit.attempts.any fun attempt => attempt.accepted) = true :=
      List.any_eq_true.mpr ⟨visit, sinceRestart_subset _ hvisit,
        List.any_eq_true.mpr ⟨attempt, hattempt, haccepted⟩⟩
    exact Bool.false_ne_true (hnone.symm.trans hsome)

theorem recordsKept_checkin (cases : List ConditionCase) :
    RecordsKept repliesEnv (checkinGraph cases) where
  ids := by
    intro key node hnode
    simp only [checkinGraph, Dict.getItem_cons, Dict.getItem_nil] at hnode
    split at hnode
    · next hkey =>
      rw [← Option.some.inj hnode, ← hkey]
    · split at hnode
      · next hkey =>
        rw [← Option.some.inj hnode, ← hkey]
      · split at hnode
        · next hkey =>
          rw [← Option.some.inj hnode, ← hkey]
        · cases hnode
  names := by
    intro node ctx world outcome hexit
    rw [← Exit.returned.inj hexit]
  keeps := fun _ _ _ => rfl

/-- The flow is restarted once, and then confirmed by the second reply. -/
theorem confirmed_by_second_reply :
    isConfirmed (run repliesEnv (checkinGraph []) {}
      [[botReply "稍后重试"], [botReply "签到成功"]]).log = true ∧
    ConfirmedByReply (run repliesEnv (checkinGraph []) {}
      [[botReply "稍后重试"], [botReply "签到成功"]]).log :=
  ⟨by decide, confirmed_by_reply (recordsKept_checkin []) rfl (by decide)⟩

end SignPulse.Confirmation
