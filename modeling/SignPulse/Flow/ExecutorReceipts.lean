import SignPulse.Flow.ReceiptFlow
import SignPulse.Flow.TelegramExecutor

/-!
# Receipts of the Telegram executor

One call of the executor adds one receipt.  The state of that receipt is chosen
by a wrapper that sees only whether the inner call returned, so a failure that
the inner call turns into an outcome is written down as a confirmed operation.
-/

namespace SignPulse.ExecutorReceipts

open Foundation
open FlowModels
open FlowContext
open RunEnvironment
open NodeLaws
open RunLogs
open ReceiptFlow
open TelegramExecutor

variable {W : Type}

/-! ## Calls of the runner -/

/-- The runner returned something other than `False`. -/
def succeeded (call : RunnerCall) : Bool :=
  match call.exit with
  | .returned result => !result.isFalse
  | _ => false

/-- The runner raised or was cancelled. -/
def failed (call : RunnerCall) : Bool :=
  match call.exit with
  | .returned _ => false
  | _ => true

def cutOff (call : RunnerCall) : Bool :=
  match call.exit with
  | .cancelled _ => true
  | _ => false

/-- The receipt was past NOT_STARTED when the call ended. -/
def moved (call : RunnerCall) : Bool :=
  call.after != .notStarted

/-- What the calls of the runner say about the state of the receipt, while the
context keeps the receipts it has. -/
structure Tracks (receipts : List OperationReceipt) (state : CallState W) : Prop where
  receipts : state.ctx.operationReceipts = receipts
  states : state.receiptState = .notStarted ∨ state.receiptState = .attempted
  moved : state.calls.any moved = (state.receiptState == .attempted)
  last : ∀ call, state.calls.getLast? = some call → call.after = state.receiptState

variable {receipts : List OperationReceipt}

theorem Tracks.setWorld {state : CallState W} (htracks : Tracks receipts state)
    (world : RunnerWorld W) : Tracks receipts { state with world } :=
  ⟨htracks.receipts, htracks.states, htracks.moved, htracks.last⟩

theorem invoke_tracks (runner : Runner W) (node : Node) (form : CallForm)
    {state : CallState W} (htracks : Tracks receipts state) :
    Tracks receipts (invoke runner node form state).2 ∧
      ∃ call, (invoke runner node form state).2.calls.getLast? = some call ∧
        call.exit = (invoke runner node form state).1 := by
  obtain ⟨hreceipts, hstates, hmoved, -⟩ := htracks
  simp only [invoke]
  refine ⟨⟨hreceipts, ?_, ?_, ?_⟩, ?_⟩
  · split
    · exact Or.inr rfl
    · exact hstates
  · dsimp only
    rw [List.any_append, hmoved]
    rcases hstates with hstate | hstate
    · split <;> simp [hstate, moved]
    · split <;> simp [hstate, moved]
  · intro call hcall
    rw [List.getLast?_concat, Option.some.injEq] at hcall
    rw [← hcall]
  · exact ⟨_, List.getLast?_concat, rfl⟩

theorem runnerWaitFor_tracks (runner : Runner W) (node : Node)
    {state : CallState W} (htracks : Tracks receipts state) :
    Tracks receipts (runnerWaitFor runner node state).2 ∧
      ∃ call, (runnerWaitFor runner node state).2.calls.getLast? = some call ∧
        call.exit = (runnerWaitFor runner node state).1 := by
  have hfirst := invoke_tracks runner node .withNextAction htracks
  unfold runnerWaitFor
  split
  · exact invoke_tracks runner node .withTimeout htracks
  · split
    · next error after hcall =>
      rw [hcall] at hfirst
      split
      · exact invoke_tracks runner node .bare hfirst.1
      · exact hfirst
    · exact hfirst

/-! ## How a call of the executor ends -/

/-- How the inner call ends once the receipt was moved, for `hides` the ways in
which it turns a failure into an outcome. -/
structure Ends (receipts : List OperationReceipt) (hides : Bool)
    (reply : CallReply W) : Prop where
  tracks : Tracks receipts reply.state
  cancelled : ∀ level, reply.exit = .cancelled level → reply.state.receiptState = .attempted →
      ∃ call, reply.state.calls.getLast? = some call ∧ cutOff call = true
  raised : ∀ error, reply.exit = .raised error →
    reply.state.receiptState = .attempted → hides = false
  returned : ∀ outcome, reply.exit = .returned outcome → reply.state.receiptState = .attempted →
      ∃ call, reply.state.calls.getLast? = some call ∧ cutOff call = false ∧
        (hides = true ∨ succeeded call = true)

section Ending

variable {runner : Runner W} {node : Node}

def continues (runner : Runner W) (node : Node) : Bool :=
  (runner.materializeAction node).continueOnError

/-- The last call was not cut off. -/
def Answered (state : CallState W) : Prop :=
  ∃ call, state.calls.getLast? = some call ∧ cutOff call = false

variable {state : CallState W}

theorem giveUp_ends (original current : PyError) (htracks : Tracks receipts state)
    (hanswered : state.receiptState = .attempted → Answered state) :
    Ends receipts (continues runner node) (giveUp runner node original current state) := by
  unfold giveUp
  split
  · next hcontinue =>
    refine ⟨htracks, ?_, ?_, ?_⟩
    · intro level hexit
      cases hexit
    · intro error hexit
      cases hexit
    · intro outcome _ hattempted
      obtain ⟨call, hcall, hcut⟩ := hanswered hattempted
      exact ⟨call, hcall, hcut, Or.inl hcontinue⟩
  · next hcontinue =>
    refine ⟨htracks, ?_, ?_, ?_⟩
    · intro level hexit
      cases hexit
    · intro error _ _
      exact Bool.eq_false_iff.mpr hcontinue
    · intro outcome hexit
      cases hexit

/-- Before the receipt is moved there is nothing to say. -/
theorem ends_notStarted (hides : Bool) {reply : CallReply W}
    (htracks : Tracks receipts reply.state) (hstate : reply.state.receiptState = .notStarted) :
    Ends receipts hides reply := by
  refine ⟨htracks, ?_, ?_, ?_⟩
  all_goals
    intro _ _ hattempted
    rw [hstate] at hattempted
    cases hattempted

theorem answered_of_returned {exit : Exit RunnerResult}
    (hlast : ∃ call, state.calls.getLast? = some call ∧ call.exit = exit)
    (hexit : ∀ level, exit ≠ .cancelled level) : Answered state := by
  obtain ⟨call, hcall, rfl⟩ := hlast
  refine ⟨call, hcall, ?_⟩
  unfold cutOff
  cases hcase : call.exit with
  | cancelled level => exact absurd hcase (hexit level)
  | _ => rfl

theorem retryOnce_ends (original : PyError) (htracks : Tracks receipts state)
    (hstate : state.receiptState = .notStarted) :
    Ends receipts (continues runner node) (retryOnce runner node original state) := by
  have hidle := htracks.setWorld
  unfold retryOnce
  split
  · exact ends_notStarted _ (hidle _) hstate
  · exact ends_notStarted _ (hidle _) hstate
  · next world _ =>
    have hcalled := runnerWaitFor_tracks runner node (hidle world)
    split
    · next level after hcall =>
      rw [hcall] at hcalled
      obtain ⟨htracks', last, hlast, hexit⟩ := hcalled
      refine ⟨htracks', ?_, ?_, ?_⟩
      · intro level' _ _
        exact ⟨last, hlast, by simp [cutOff, hexit]⟩
      · intro error hraised
        cases hraised
      · intro outcome hreturned
        cases hreturned
    · next error after hcall =>
      rw [hcall] at hcalled
      exact giveUp_ends _ _ hcalled.1 fun _ =>
        answered_of_returned hcalled.2 (by simp)
    · next result after hcall =>
      rw [hcall] at hcalled
      have hafter := hcalled.1.setWorld
      have hanswered : Answered after := answered_of_returned hcalled.2 (by simp)
      dsimp only
      split
      · exact giveUp_ends _ _ (hafter _) fun _ => hanswered
      · split
        · exact giveUp_ends _ _ (hafter _) fun _ => hanswered
        · next hfalse =>
          obtain ⟨last, hlast, hexit⟩ := hcalled.2
          refine ⟨hafter _, ?_, ?_, ?_⟩
          · intro level hcancelled
            cases hcancelled
          · intro error hraised
            cases hraised
          · intro outcome _ _
            refine ⟨last, hlast, by simp [cutOff, hexit], Or.inr ?_⟩
            simp [succeeded, hexit, hfalse]

/-- The handler tries again only while the receipt stands at NOT_STARTED. -/
theorem notStarted_of_retry {error : PyError}
    (hretry : (worthRetry runner error && !hasSideEffect runner state) = true) :
    state.receiptState = .notStarted := by
  simp only [hasSideEffect, Bool.and_eq_true, Bool.not_eq_true',
    Bool.or_eq_false_iff, bne_eq_false_iff_eq] at hretry
  exact hretry.2.2

theorem handleError_ends (error : PyError) (htracks : Tracks receipts state)
    (hanswered : state.receiptState = .attempted → Answered state) :
    Ends receipts (continues runner node) (handleError runner node error state) := by
  unfold handleError
  split
  · next hretry => exact retryOnce_ends error htracks (notStarted_of_retry hretry)
  · exact giveUp_ends _ _ htracks hanswered

/-- The first answer of the runner is `False`, and its output can be read. -/
def firstAnswerFalse (runner : Runner W) (node : Node) (state : CallState W) : Bool :=
  match runnerWaitFor runner node (noteStart runner state) with
  | (.returned result, after) =>
    match (runner.readOutput node (noteSent runner result after).world).1 with
    | .ok _ => result.isFalse
    | .error _ => false
  | _ => false

theorem noteSent_tracks (result : RunnerResult) (htracks : Tracks receipts state) :
    Tracks receipts (noteSent runner result state) := by
  unfold noteSent
  split
  · exact htracks
  · exact ⟨htracks.receipts, htracks.states, htracks.moved, htracks.last⟩

@[simp]
theorem noteSent_calls (result : RunnerResult) (state : CallState W) :
    (noteSent runner result state).calls = state.calls := by
  unfold noteSent
  split <;> rfl

theorem execute_ends (htracks : Tracks receipts state) :
    Ends receipts (continues runner node || firstAnswerFalse runner node state)
      (execute runner node state) := by
  have hstart : Tracks receipts (noteStart runner state) :=
    ⟨htracks.receipts, htracks.states, htracks.moved, htracks.last⟩
  have hcalled := runnerWaitFor_tracks runner node hstart
  unfold execute firstAnswerFalse
  generalize runnerWaitFor runner node (noteStart runner state) = first at hcalled ⊢
  obtain ⟨exit, after⟩ := first
  cases exit with
  | cancelled level =>
    obtain ⟨htracks', last, hlast, hexit⟩ := hcalled
    refine ⟨htracks', ?_, ?_, ?_⟩
    · intro level' _ _
      exact ⟨last, hlast, by simp [cutOff, hexit]⟩
    · intro error hraised
      cases hraised
    · intro outcome hreturned
      cases hreturned
  | raised error =>
    simp only [Bool.or_false]
    exact handleError_ends error hcalled.1 fun _ =>
      answered_of_returned hcalled.2 (by simp)
  | returned result =>
    have hsent : ∀ world, Tracks receipts { noteSent runner result after with world } :=
      (noteSent_tracks result hcalled.1).setWorld
    have hlast : ∃ call, (noteSent runner result after).calls.getLast? = some call ∧
        call.exit = .returned result := by
      rw [noteSent_calls]
      exact hcalled.2
    dsimp only
    cases hread : runner.readOutput node (noteSent runner result after).world with
    | mk output world =>
      cases output with
      | error error =>
        simp only [Bool.or_false]
        exact handleError_ends error (hsent _) fun _ =>
          answered_of_returned hlast (by simp)
      | ok text =>
        obtain ⟨call, hcall, hexit⟩ := hlast
        refine ⟨hsent _, ?_, ?_, ?_⟩
        · intro level hcancelled
          cases hcancelled
        · intro error hraised
          cases hraised
        · intro outcome _ _
          refine ⟨call, hcall, by simp [cutOff, hexit], ?_⟩
          cases hfalse : result.isFalse with
          | true => simp
          | false => simp [succeeded, hexit, hfalse]

end Ending

/-! ## The receipt of a call -/

/-- The runner's first answer to the action is `False`, and its output can be
read. -/
def answersFalse (runner : Runner W) (node : Node) (ctx : ScopedFlowContext)
    (world : RunnerWorld W) : Bool :=
  let opened := openCall runner node ctx world
  match runner.skipMatch node opened.ctx opened.world with
  | some _ => false
  | none =>
    match runner.prepare node opened.ctx opened.world with
    | (.returned (), world) => firstAnswerFalse runner node { opened with world }
    | _ => false

/-- A failed action of this node becomes an outcome and not an exception. -/
def hidesFailure (runner : Runner W) (node : Node) (ctx : ScopedFlowContext)
    (world : RunnerWorld W) : Bool :=
  continues runner node || answersFalse runner node ctx world

section

variable (runner : Runner W) (node : Node) (ctx : ScopedFlowContext) (world : RunnerWorld W)

theorem openCall_tracks : Tracks (openCall runner node ctx world).ctx.operationReceipts
      (openCall runner node ctx world) :=
  ⟨rfl, Or.inl rfl, rfl, by simp [openCall]⟩

theorem callUnlocked_ends :
    Ends (openCall runner node ctx world).ctx.operationReceipts (hidesFailure runner node ctx world)
      (callUnlocked runner node (openCall runner node ctx world)) := by
  have hopen := openCall_tracks runner node ctx world
  generalize hstate : openCall runner node ctx world = opened at hopen ⊢
  have hidle : opened.receiptState = .notStarted := by rw [← hstate, openCall]
  unfold callUnlocked hidesFailure answersFalse
  simp only [hstate]
  cases hskip : runner.skipMatch node opened.ctx opened.world with
  | some pattern => exact ends_notStarted _ hopen hidle
  | none =>
    cases hprepare : runner.prepare node opened.ctx opened.world with
    | mk exit world =>
      cases exit with
      | cancelled level => exact ends_notStarted _ (hopen.setWorld world) hidle
      | raised error => exact ends_notStarted _ (hopen.setWorld world) hidle
      | returned value => exact execute_ends (hopen.setWorld world)

end

theorem closeReceipt_added {nodeId operationId : String} {ctx : ScopedFlowContext}
    {receipts : List OperationReceipt} {begun : OperationReceipt}
    (hreceipts : ctx.operationReceipts = receipts ++ [begun])
    (hid : begun.operationId = operationId) (hnode : begun.nodeId = nodeId)
    (state : OperationAttemptState) :
    ∃ receipt : OperationReceipt,
      (closeReceipt ctx operationId nodeId state).operationReceipts = receipts ++ [receipt] ∧
      receipt.operationId = operationId ∧ receipt.nodeId = nodeId ∧
      receipt.state = state := by
  have hbegun : (begun.operationId == operationId) = true := by
    simp [hid]
  unfold closeReceipt
  split
  · next hconfirmed =>
    refine ⟨{ begun with
      state := .confirmed
      evidence := [("node_id", nodeId)] }, ?_, hid, hnode, hconfirmed.symm⟩
    simp only [ScopedFlowContext.markOperationConfirmed, ScopedFlowContext.updateReceipt, hreceipts]
    exact updateLatest_append_singleton _ _ hbegun
  · refine ⟨{ begun with state }, ?_, hid, hnode, rfl⟩
    simp only [ScopedFlowContext.setReceiptState, ScopedFlowContext.updateReceipt, hreceipts]
    exact updateLatest_append_singleton _ _ hbegun

/-- The executor adds one receipt, in the state that `__call__` chose. -/
theorem call_receipt (runner : Runner W) (node : Node) (ctx : ScopedFlowContext)
    (world : RunnerWorld W) :
    ∃ receipt run, (call runner node ctx world).calls = [run] ∧
      (call runner node ctx world).ctx.operationReceipts = ctx.operationReceipts ++ [receipt] ∧
      receipt.operationId = run.operationId ∧ receipt.nodeId = node.id ∧
      run.nodeId = node.id ∧ receipt.state = run.receiptState := by
  have hends := callUnlocked_ends runner node ctx world
  generalize hreply : callUnlocked runner node (openCall runner node ctx world) = reply at hends
  obtain ⟨begun, hreceipts, hid, hnode⟩ : ∃ begun : OperationReceipt,
      reply.state.ctx.operationReceipts = ctx.operationReceipts ++ [begun] ∧
      begun.operationId = operationIdOf ctx node.id ∧ begun.nodeId = node.id :=
    ⟨_, hends.tracks.receipts, rfl, rfl⟩
  unfold call
  simp only [hreply]
  obtain ⟨receipt, hadded, hid, hnode, hstate⟩ :=
    closeReceipt_added hreceipts hid hnode
      (closeCall reply.exit (runner.contextFlag reply.state.world) reply.state.receiptState).2
  exact ⟨receipt, _, rfl, hadded, hid, hnode, rfl, hstate⟩

theorem call_addsReceipts (env : Env (RunnerWorld W) ActionRun) (runner : Runner W) :
    ExecutorGrows (telegramEnv env runner) AddsReceipts := by
  intro node ctx world
  obtain ⟨receipt, run, -, hadded, -⟩ := call_receipt runner node ctx world
  exact ⟨[receipt], hadded.symm⟩

/-! ## What the receipt says about the calls -/

/-- CONFIRMED only by a call that succeeded, and UNKNOWN if all calls failed
from the one on in which the receipt was moved. -/
structure ReceiptLaw (calls : List RunnerCall) (state : OperationAttemptState) :
    Prop where
  confirmed : state = .confirmed → ∃ call ∈ calls, succeeded call = true
  unknown : (∃ call ∈ calls, moved call = true) →
    (∀ call ∈ calls, moved call = true → failed call = true) → state = .unknown

/-- The receipt was moved, the last call was not cut off, no call that could
confirm the operation succeeded, and its failure does not become an
exception. -/
structure Swallowed (hides : Bool) (calls : List RunnerCall) : Prop where
  moved : ∃ call ∈ calls, moved call = true
  answered : ∃ call, calls.getLast? = some call ∧ cutOff call = false
  hides : hides = true
  failed : (∀ call ∈ calls, succeeded call = false) ∨
    ∀ call ∈ calls, ExecutorReceipts.moved call = true → failed call = true

theorem receiptLaw_iff {hides : Bool} {reply : CallReply W}
    (hends : Ends receipts hides reply) (legacyMark : Bool) :
    ReceiptLaw reply.state.calls (closeCall reply.exit legacyMark reply.state.receiptState).2 ↔
      ¬ Swallowed hides reply.state.calls := by
  obtain ⟨⟨-, hstates, hmoved, hlast⟩, hcancelled, hraised, hreturned⟩ := hends
  rcases hstates with hstate | hstate
  · have hnone : ¬ ∃ call ∈ reply.state.calls, moved call = true := by
      rw [← List.any_eq_true, hmoved, hstate]
      decide
    refine ⟨fun _ hswallowed => hnone hswallowed.moved, fun _ => ⟨?_, ?_⟩⟩
    · intro hconfirmed
      rw [hstate] at hconfirmed
      simp only [closeCall] at hconfirmed
      split at hconfirmed
      · cases hconfirmed
      · split at hconfirmed <;> cases hconfirmed
      · split at hconfirmed <;> cases hconfirmed
    · exact fun hsome => absurd hsome hnone
  · have hsome : ∃ call ∈ reply.state.calls, moved call = true := by
      rw [← List.any_eq_true, hmoved, hstate]
      decide
    have hlaw_unknown : ReceiptLaw reply.state.calls .unknown :=
      ⟨(fun hconfirmed => by cases hconfirmed), fun _ _ => rfl⟩
    rw [hstate]
    cases hexit : reply.exit with
    | cancelled level =>
      obtain ⟨call, hcall, hcut⟩ := hcancelled level hexit hstate
      have hclose : (closeCall (.cancelled level) legacyMark .attempted).2 = .unknown := by
        simp [closeCall]
      rw [hclose]
      refine ⟨fun _ hswallowed => ?_, fun _ => hlaw_unknown⟩
      obtain ⟨other, hother, hanswered⟩ := hswallowed.answered
      rw [hcall, Option.some.injEq] at hother
      rw [← hother, hcut] at hanswered
      cases hanswered
    | raised error =>
      have hshown := hraised error hexit hstate
      have hclose : (closeCall (.raised error) legacyMark .attempted).2 = .unknown := by
        simp [closeCall]
      rw [hclose]
      refine ⟨fun _ hswallowed => ?_, fun _ => hlaw_unknown⟩
      rw [hshown] at hswallowed
      cases hswallowed.hides
    | returned outcome =>
      obtain ⟨call, hcall, hcut, hhow⟩ := hreturned outcome hexit hstate
      have hclose : (closeCall (.returned outcome) legacyMark .attempted).2 = .confirmed := by
        simp [closeCall]
      have hmem : call ∈ reply.state.calls := List.mem_of_getLast? hcall
      have hcallMoved : moved call = true := by
        rw [moved, hlast call hcall, hstate]
        decide
      rw [hclose]
      constructor
      · intro hlaw hswallowed
        rcases hswallowed.failed with hnone | hall
        · obtain ⟨good, hgood, hgoodSucceeded⟩ := hlaw.confirmed rfl
          simp [hnone good hgood] at hgoodSucceeded
        · cases hlaw.unknown hsome hall
      · intro hnot
        by_cases hgood : ∃ good ∈ reply.state.calls, succeeded good = true
        · refine ⟨fun _ => hgood, fun _ hall => ?_⟩
          rcases hhow with hhides | hsucceeded
          · exact absurd ⟨hsome, ⟨call, hcall, hcut⟩, hhides, Or.inr hall⟩ hnot
          · have hfailed := hall call hmem hcallMoved
            cases hend : call.exit <;> simp_all [failed, succeeded]
        · have hnone : ∀ other ∈ reply.state.calls, succeeded other = false := by
            intro other hother
            exact Bool.eq_false_iff.mpr fun h => hgood ⟨other, hother, h⟩
          rcases hhow with hhides | hsucceeded
          · exact absurd ⟨hsome, ⟨call, hcall, hcut⟩, hhides, Or.inl hnone⟩ hnot
          · simp [hnone call hmem] at hsucceeded

/-- The receipt that the executor leaves keeps the law on every input but one
kind: the receipt was moved, no call confirmed the operation, and the failure
is turned into an outcome, by `continue_on_error` or because the first answer
was `False`. -/
theorem call_receiptLaw_iff (runner : Runner W) (node : Node)
    (ctx : ScopedFlowContext) (world : RunnerWorld W) :
    ∃ receipt run, (call runner node ctx world).calls = [run] ∧
      (call runner node ctx world).ctx.operationReceipts = ctx.operationReceipts ++ [receipt] ∧
      (ReceiptLaw run.runnerCalls receipt.state ↔
        ¬ Swallowed (hidesFailure runner node ctx world) run.runnerCalls) := by
  obtain ⟨receipt, run, hcalls, hadded, -, -, -, hstate⟩ :=
    call_receipt runner node ctx world
  refine ⟨receipt, run, hcalls, hadded, ?_⟩
  have hlaw := receiptLaw_iff (callUnlocked_ends runner node ctx world)
    (runner.contextFlag (callUnlocked runner node (openCall runner node ctx world)).state.world)
  rw [hstate]
  obtain rfl := List.singleton_inj.mp hcalls
  exact hlaw

/-- The runner answers `False`, and the receipt is confirmed. -/
theorem false_answer_confirms : ∃ receipt run,
      (call Runner.scripted { id := "checkin" } {}
        { runner := [(true, .returned { isFalse := true })] }).calls = [run] ∧
      (call Runner.scripted { id := "checkin" } {}
        { runner := [(true, .returned { isFalse := true })]
          }).ctx.operationReceipts = [receipt] ∧
      ¬ ReceiptLaw run.runnerCalls receipt.state := by
  refine ⟨_, _, rfl, rfl, fun hlaw => ?_⟩
  obtain ⟨answer, hanswer, hsucceeded⟩ := hlaw.confirmed (by decide)
  rw [List.mem_singleton.mp hanswer] at hsucceeded
  exact Bool.false_ne_true hsucceeded

/-! ## Receipts of whole runs -/

/-- With the Telegram executor, a run whose visits keep the UNKNOWN receipts of
nested runs, and which no outcome calls partial, reports each of them and ends
unknown. -/
theorem telegram_reports_unknown (env : Env (RunnerWorld W) ActionRun)
    (runner : Runner W) (graph : ExecutionGraph) (ctx : ScopedFlowContext)
    (world : RunnerWorld W)
    (hkeeps : KeepsUnknown (FlowEngine.run (telegramEnv env runner) graph ctx world).log)
    (hwhole : NoPartial (FlowEngine.run (telegramEnv env runner) graph ctx world).log) :
    ReportsUnknown (FlowEngine.run (telegramEnv env runner) graph ctx world).log :=
  reports_unknown (call_addsReceipts env runner) graph ctx world hkeeps hwhole

def scriptedEnv : Env (RunnerWorld (List (Bool × Exit RunnerResult))) ActionRun :=
  telegramEnv (Env.still fun _ ctx world =>
    { exit := .cancelled 0, ctx, world }) Runner.scripted

def connectionLost : PyError where
  name := "ConnectionError"

/-- One action, inside a subflow or inside a branch. -/
def checkinGraph : ExecutionGraph where
  entryNodeId := "checkin"
  nodes := [("checkin", { id := "checkin" })]

def subflowGraph : ExecutionGraph where
  entryNodeId := "sub"
  nodes := [("sub", { id := "sub", kind := .subflow (some checkinGraph) {} })]

def parallelGraph : ExecutionGraph where
  entryNodeId := "par"
  nodes := [("par", { id := "par", kind := .parallel [checkinGraph] .all "merge" .fail })]

def leavesUnknown (log : RunLog ActionRun) : Bool :=
  log.visits.any fun visit => visit.nested.any fun inner => hasUnknown inner.ctx

def succeeds (log : RunLog ActionRun) : Bool :=
  match log.exit with
  | .returned result => result.success
  | _ => false

theorem noPartial_of_failed {log : RunLog ActionRun} (hfailed : succeeds log = false) :
    NoPartial log := by
  intro result hexit hsuccess
  simp [succeeds, hexit, hsuccess] at hfailed

/-- The connection is lost after the operation was attempted, inside a subflow:
its receipt is nowhere in the result, which is failed and not unknown. -/
theorem subflow_loses_receipt : ¬ ReportsUnknown
      (FlowEngine.run scriptedEnv subflowGraph {}
        { runner := [(true, .raised connectionLost)] }).log := by
  intro hreports
  have hunknown : leavesUnknown (FlowEngine.run scriptedEnv subflowGraph {}
      { runner := [(true, .raised connectionLost)] }).log = true := by
    decide
  have hfailed : (match (FlowEngine.run scriptedEnv subflowGraph {}
      { runner := [(true, .raised connectionLost)] }).log.exit with
      | .returned result => result.operationReceipts.isEmpty
      | _ => false) = true := by
    decide
  generalize (FlowEngine.run scriptedEnv subflowGraph {}
    { runner := [(true, .raised connectionLost)] }).log = log at hreports hunknown hfailed
  obtain ⟨visit, hvisit, hinside⟩ := List.any_eq_true.mp hunknown
  obtain ⟨inner, hinner, hleft⟩ := List.any_eq_true.mp hinside
  obtain ⟨receipt, hreceipt, hstate⟩ := List.any_eq_true.mp hleft
  split at hfailed
  · next result hexit =>
    obtain ⟨⟨shown, hshown, -⟩, -⟩ :=
      hreports inner (Or.inr (.direct hvisit hinner)) receipt hreceipt
        (by simpa using hstate) result hexit
    rw [List.isEmpty_iff.mp hfailed] at hshown
    cases hshown
  · cases hfailed

/-- The same action in a parallel branch: the receipt is carried up. -/
theorem parallel_reports_receipt :
    leavesUnknown (FlowEngine.run scriptedEnv parallelGraph {}
      { runner := [(true, .raised connectionLost)] }).log = true ∧
    ReportsUnknown (FlowEngine.run scriptedEnv parallelGraph {}
      { runner := [(true, .raised connectionLost)] }).log := by
  refine ⟨by decide, telegram_reports_unknown _ _ _ _ _ ?_ ?_⟩
  · intro inner hinner
    have hchecked : checkLogs (fun log => log.visits.all keepsUnknown) 1
        (FlowEngine.run scriptedEnv parallelGraph {}
          { runner := [(true, .raised connectionLost)] }).log = true := by
      decide
    exact List.all_eq_true.mp (checkLogs_all hchecked inner hinner)
  · have hfailed : succeeds (FlowEngine.run scriptedEnv parallelGraph {}
        { runner := [(true, .raised connectionLost)] }).log = false := by
      decide
    exact noPartial_of_failed hfailed

end SignPulse.ExecutorReceipts
