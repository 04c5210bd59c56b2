import SignPulse.Backend.ChainedRuns
import SignPulse.Foundation.StepRun

/-!
# Calls of the plugin worker

`rpc_request` registers a future under a new number, writes the call and waits; the listener
reads lines and completes the future that a `call_result` names.  A cancelled task cancels
its future at once and takes it off the register only when it runs again.

A line is its length in bytes without the newline, and what `json.loads` makes of it, if it
can be decoded.
-/

namespace SignPulse.Plugin.WorkerCalls

open Foundation
open ChainedRuns (Config getEntry isTrue)

/-- A result, or the exception that an error code stands for. -/
inductive Reply where
  | result (data : PyValue)
  | permissionDenied (message : PyValue)
  | floodWait (seconds : ℤ)
  | notSupported (message : PyValue)
  | messageNotFound (message : PyValue)
  | timedOut (message : PyValue)
  | connectionReset (message : PyValue)
  | runtimeError (message : PyValue)

inductive Future where
  | pending
  | cancelled
  | finished (reply : Reply)

def Future.isCancelled : Future → Bool
  | .cancelled => true
  | _ => false

/-- Where the task of a request stands: before its future, at it, after a cancellation there,
or at its end. -/
inductive Phase where
  | flushing
  | waiting
  | closing
  | returned (reply : Reply)
  | interrupted

structure Call where
  phase : Phase
  future : Future
  mustCancel : Bool

inductive Listener where
  | listening
  | ended
  | failed
  deriving DecidableEq

structure Worker where
  reqId : ℕ
  calls : Dict ℕ Call
  pendingCalls : List ℕ
  listener : Listener

inductive Event where
  | request
  | cancel (id : ℕ)
  | resume (id : ℕ)
  | line (length : ℕ) (decoded : Option PyValue)
  | eof

def fresh : Worker := ⟨0, [], [], .listening⟩

def isCallResult (msg : Config) : Bool :=
  PyValue.eq (getEntry msg "type") (.str "call_result")

/-- A list or a dictionary cannot be looked up in a dictionary. -/
def hashable : PyValue → Bool
  | .list _ => false
  | .dict _ => false
  | _ => true

/-- The number of the request that a key is equal to. -/
def requestOf (cid : PyValue) : Option ℕ :=
  cid.number?.bind fun number =>
    if number.den = 1 ∧ 0 ≤ number.num then some number.num.toNat else none

section Steps

variable (limit : ℕ) (intOfText : String → Option ℤ)

/-- `int(err_msg)`, and 0 where it raises. -/
def secondsOf : PyValue → ℤ
  | .bool value => if value then 1 else 0
  | .int value => value
  | .float value => value.num.tdiv value.den
  | .str text => (intOfText text).getD 0
  | _ => 0

def errorOf (msg : Config) : Reply :=
  let message := (Dict.getItem msg "error").getD (.str "RPC call failed")
  let code := getEntry msg "error_code"
  if PyValue.eq code (.str "permission_denied") then .permissionDenied message
  else if PyValue.eq code (.str "flood_wait") then .floodWait (secondsOf intOfText message)
  else if PyValue.eq code (.str "unsupported") then .notSupported message
  else if PyValue.eq code (.str "message_not_found") then .messageNotFound message
  else if PyValue.eq code (.str "timeout") then .timedOut message
  else if PyValue.eq code (.str "ipc_disconnected") then .connectionReset message
  else .runtimeError message

def replyOf (msg : Config) : Reply :=
  if isTrue (getEntry msg "success") then .result (getEntry msg "data") else errorOf intOfText msg

def connectionClosed : Reply := .connectionReset (.str "IPC pipe closed by host")

def Worker.setCall (worker : Worker) (id : ℕ) (call : Call) : Worker :=
  { worker with calls := Dict.setItem worker.calls id call }

/-- `task.cancel()`: what the task waits for is cancelled, or else the task is to be interrupted
when it runs again. -/
def cancel (worker : Worker) (id : ℕ) (call : Call) : Option Worker :=
  match call.phase, call.future with
  | .waiting, .pending => some (worker.setCall id { call with future := .cancelled })
  | .returned _, _ => none
  | .interrupted, _ => none
  | _, _ => some (worker.setCall id { call with mustCancel := true })

/-- The task of the request runs again.  An interruption while the call is written leaves the
future on the register. -/
def resume (worker : Worker) (id : ℕ) (call : Call) : Option Worker :=
  match call.phase with
  | .flushing =>
    if call.mustCancel then some (worker.setCall id { call with phase := .interrupted })
    else match call.future with
      | .finished reply => some (worker.setCall id { call with phase := .returned reply })
      | _ => some (worker.setCall id { call with phase := .waiting })
  | .waiting =>
    if call.mustCancel || call.future.isCancelled then
      some { worker.setCall id { call with phase := .closing } with
        pendingCalls := worker.pendingCalls.filter (· ≠ id) }
    else match call.future with
      | .finished reply => some (worker.setCall id { call with phase := .returned reply })
      | _ => none
  | .closing => some (worker.setCall id { call with phase := .interrupted })
  | .returned _ => none
  | .interrupted => none

/-- `fut.set_result` and `fut.set_exception`, which raise for a future that is done. -/
def complete (worker : Worker) (id : ℕ) (reply : Reply) : Worker :=
  let popped := { worker with pendingCalls := worker.pendingCalls.filter (· ≠ id) }
  match Dict.getItem worker.calls id with
  | some call =>
    match call.future with
    | .pending => popped.setCall id { call with future := .finished reply }
    | _ => { popped with listener := .failed }
  | none => popped

def receive (worker : Worker) (msg : Config) : Worker :=
  if isCallResult msg then
    let cid := getEntry msg "id"
    if hashable cid then
      match requestOf cid with
      | some id =>
        if id ∈ worker.pendingCalls then complete worker id (replyOf intOfText msg) else worker
      | none => worker
    else { worker with listener := .failed }
  else worker

/-- One turn of `host_listener` with a line that is not empty.  `readline` raises for a line that
is longer than the limit of the reader. -/
def readLine (worker : Worker) (length : ℕ) (decoded : Option PyValue) : Worker :=
  if limit < length then { worker with listener := .failed }
  else match decoded with
    | none => worker
    | some (.dict msg) => receive intOfText worker msg
    | some _ => { worker with listener := .failed }

/-- At the end of input every registered future that is not done fails. -/
def closeCall (worker : Worker) (item : ℕ × Call) : ℕ × Call :=
  match item.2.future with
  | .pending =>
    if item.1 ∈ worker.pendingCalls then
      (item.1, { item.2 with future := .finished connectionClosed })
    else item
  | _ => item

def step (worker : Worker) : Event → Option Worker
  | .request =>
    let id := worker.reqId + 1
    some {
      reqId := id
      calls := Dict.setItem worker.calls id ⟨.flushing, .pending, false⟩
      pendingCalls := worker.pendingCalls ++ [id]
      listener := worker.listener }
  | .cancel id => (Dict.getItem worker.calls id).bind fun call => cancel worker id call
  | .resume id => (Dict.getItem worker.calls id).bind fun call => resume worker id call
  | .line length decoded =>
    if worker.listener = .listening then
      some (readLine limit intOfText worker length decoded)
    else none
  | .eof =>
    if worker.listener = .listening then
      some { worker with
        calls := worker.calls.map (closeCall worker)
        pendingCalls := []
        listener := .ended }
    else none

/-- The registered request has been cancelled, and its task has not run again. -/
def cancelledHere (worker : Worker) (id : ℕ) : Bool :=
  decide (id ∈ worker.pendingCalls) &&
    (Dict.getItem worker.calls id).any fun call => call.future.isCancelled

/-- A line that the listener reads is not too long, is no other JSON value than a dictionary, and
as a result of a call names no list or dictionary as its number, and no request between its
cancellation and the next turn of its task. -/
def undisturbed (worker : Worker) : Event → Bool
  | .line length decoded =>
    decide (length ≤ limit) && match decoded with
      | none => true
      | some (.dict msg) =>
        !isCallResult msg || (hashable (getEntry msg "id") &&
          (requestOf (getEntry msg "id")).all fun id => !cancelledHere worker id)
      | some _ => false
  | _ => true

def answers (id : ℕ) : Event → Option Reply
  | .line _ (some (.dict msg)) =>
    if isCallResult msg ∧ requestOf (getEntry msg "id") = some id then some (replyOf intOfText msg)
    else none
  | .eof => some connectionClosed
  | _ => none

def answerTo (id : ℕ) : ℕ → List Event → Option Reply
  | _, [] => none
  | made, .request :: rest => answerTo id (made + 1) rest
  | made, event :: rest =>
    if id ≤ made then (answers intOfText id event).or (answerTo id made rest)
    else answerTo id made rest

end Steps

/-! ## One event and one request -/

section Laws

variable {limit : ℕ} {intOfText : String → Option ℤ} {id : ℕ}

/-- The listener has not failed, and the requests that have no answer yet are registered, but for
those that are to be interrupted. -/
structure Sound (worker : Worker) : Prop where
  alive : worker.listener ≠ .failed
  made : ∀ id call, Dict.getItem worker.calls id = some call → 1 ≤ id ∧ id ≤ worker.reqId
  exist : ∀ id, 1 ≤ id → id ≤ worker.reqId → ∃ call, Dict.getItem worker.calls id = some call
  registered : worker.listener = .listening → ∀ id call,
    Dict.getItem worker.calls id = some call → call.future = .pending → call.mustCancel = false →
      id ∈ worker.pendingCalls
  unanswered : ∀ id ∈ worker.pendingCalls, ∃ call, Dict.getItem worker.calls id = some call ∧
    ∀ reply, call.future ≠ .finished reply

/-- A request that was not cancelled. -/
structure Clean (call : Call) : Prop where
  kept : call.mustCancel = false
  future : call.future ≠ .cancelled
  going : call.phase ≠ .closing
  whole : call.phase ≠ .interrupted
  told : ∀ reply, call.phase = .returned reply → call.future = .finished reply

def CleanAt (worker : Worker) (id : ℕ) : Prop :=
  ∀ call, Dict.getItem worker.calls id = some call → Clean call

def futureAt (worker : Worker) (id : ℕ) : Future :=
  ((Dict.getItem worker.calls id).map Call.future).getD .pending

/-- A future that is done stays as it is, and another one takes the reply, if there is one. -/
def Future.after (reply : Option Reply) : Future → Future
  | .pending => reply.elim .pending .finished
  | future => future

theorem getItem_setCall (worker : Worker) (other : ℕ) (call : Call) :
    Dict.getItem (worker.setCall id call).calls other =
      if other = id then some call else Dict.getItem worker.calls other := by
  split
  · next heq => rw [heq]; exact Dict.getItem_setItem_self ..
  · next hne => exact Dict.getItem_setItem_of_ne _ _ hne

theorem getItem_closeCall (worker : Worker) (calls : Dict ℕ Call) :
    Dict.getItem (calls.map (closeCall worker)) id =
      (Dict.getItem calls id).map fun call => (closeCall worker (id, call)).2 := by
  induction calls with
  | nil => rfl
  | cons item rest ih =>
    obtain ⟨first, call⟩ := item
    have hkey : (closeCall worker (first, call)).1 = first := by
      simp only [closeCall]
      split
      · split <;> rfl
      · rfl
    rw [List.map_cons, Dict.getItem_cons]
    have hpair : closeCall worker (first, call) = (first, (closeCall worker (first, call)).2) :=
      Prod.ext hkey rfl
    rw [hpair, Dict.getItem_cons, ih]
    split
    · next heq => subst heq; rfl
    · rfl

theorem fresh_sound : Sound fresh where
  alive := nofun
  made _ _ := nofun
  exist _ hpos hle := absurd (hpos.trans hle) (Nat.not_succ_le_zero 0)
  registered _ _ _ hcall := nomatch hcall
  unanswered _ hmem := absurd hmem List.not_mem_nil

variable {worker next : Worker} {call : Call} {event : Event}

theorem Sound.setCall (hsound : Sound worker) {after : Call}
    (hcall : Dict.getItem worker.calls id = some call)
    (hpending : after.future = .pending → after.mustCancel = false →
      call.future = .pending ∧ call.mustCancel = false)
    (hfinished : ∀ reply, after.future = .finished reply → call.future = .finished reply) :
    Sound (worker.setCall id after) where
  alive := hsound.alive
  made other found hfound := by
    rw [getItem_setCall] at hfound
    split at hfound
    · next heq => exact heq ▸ hsound.made id call hcall
    · exact hsound.made other found hfound
  exist other hpos hle := by
    obtain ⟨found, hfound⟩ := hsound.exist other hpos hle
    rw [getItem_setCall]
    split
    · exact ⟨after, rfl⟩
    · exact ⟨found, hfound⟩
  registered hlistening other found hfound hnone hkept := by
    rw [getItem_setCall] at hfound
    split at hfound
    · next heq =>
      cases hfound
      obtain ⟨hopen, hcalm⟩ := hpending hnone hkept
      exact heq ▸ hsound.registered hlistening id call hcall hopen hcalm
    · exact hsound.registered hlistening other found hfound hnone hkept
  unanswered other hmem := by
    obtain ⟨found, hfound, hopen⟩ := hsound.unanswered other hmem
    rw [getItem_setCall]
    split
    · next heq =>
      subst heq
      obtain rfl := Option.some.inj (hcall.symm.trans hfound)
      exact ⟨after, rfl, fun reply hdone => hopen reply (hfinished reply hdone)⟩
    · exact ⟨found, hfound, hopen⟩

theorem Sound.pop {worker : Worker} (hsound : Sound worker)
    (hdone : ∀ call, Dict.getItem worker.calls id = some call → call.future = .pending →
      call.mustCancel = true) :
    Sound { worker with pendingCalls := worker.pendingCalls.filter (· ≠ id) } where
  alive := hsound.alive
  made := hsound.made
  exist := hsound.exist
  registered hlistening other call hcall hnone hkept := by
    refine List.mem_filter.mpr ⟨hsound.registered hlistening other call hcall hnone hkept, ?_⟩
    refine decide_eq_true fun heq => ?_
    subst heq
    cases hkept.symm.trans (hdone call hcall hnone)
  unanswered other hmem := hsound.unanswered other (List.mem_filter.mp hmem).1

/-- What an event does to a request that was not cancelled. -/
structure Advances (intOfText : String → Option ℤ) (worker : Worker) (event : Event)
    (next : Worker) (id : ℕ) : Prop where
  clean : CleanAt next id
  future : futureAt next id =
    (futureAt worker id).after (if id ≤ worker.reqId then answers intOfText id event else none)

theorem after_none (future : Future) : future.after none = future := by
  cases future <;> rfl

theorem advances_same (hsame : Dict.getItem next.calls id = Dict.getItem worker.calls id)
    (hanswer : id ≤ worker.reqId → futureAt worker id = .pending →
      answers intOfText id event = none) (hclean : CleanAt worker id) :
    Advances intOfText worker event next id where
  clean call hcall := hclean call (hsame ▸ hcall)
  future := by
    have hfuture : futureAt next id = futureAt worker id := by rw [futureAt, futureAt, hsame]
    rw [hfuture]
    split
    · next hle =>
      cases hpending : futureAt worker id with
      | pending => rw [hanswer hle hpending]; rfl
      | cancelled => rfl
      | finished reply => rfl
    · exact (after_none _).symm

theorem futureAt_eq (hcall : Dict.getItem worker.calls id = some call) :
    futureAt worker id = call.future := by
  rw [futureAt, hcall]
  rfl

/-! ### A new request -/

theorem Sound.request (hsound : Sound worker)
    (hstep : step limit intOfText worker .request = some next) :
    Sound next ∧ ∀ id, CleanAt worker id → Advances intOfText worker .request next id := by
  cases hstep
  have hnew : Dict.getItem worker.calls (worker.reqId + 1) = none := by
    by_contra hsome
    obtain ⟨call, hcall⟩ := Option.ne_none_iff_exists'.mp hsome
    exact absurd (hsound.made _ call hcall).2 (Nat.not_succ_le_self _)
  have hget : ∀ other, Dict.getItem
      (Dict.setItem worker.calls (worker.reqId + 1) ⟨.flushing, .pending, false⟩) other =
        if other = worker.reqId + 1 then some ⟨.flushing, .pending, false⟩
        else Dict.getItem worker.calls other :=
    fun other => getItem_setCall worker other ⟨.flushing, .pending, false⟩
  refine ⟨⟨hsound.alive, fun other call hcall => ?_, fun other hpos hle => ?_,
    fun hlistening other call hcall hpending hkept => ?_, fun other hmem => ?_⟩,
    fun id hclean => ?_⟩
  · rw [hget] at hcall
    split at hcall
    · next heq =>
      rw [heq]
      exact ⟨Nat.le_add_left _ _, le_refl _⟩
    · exact ⟨(hsound.made other call hcall).1, Nat.le_succ_of_le (hsound.made other call hcall).2⟩
  · rw [hget]
    split
    · exact ⟨_, rfl⟩
    · next hne => exact hsound.exist other hpos (Nat.le_of_lt_succ (lt_of_le_of_ne hle hne))
  · rw [hget] at hcall
    refine List.mem_append.mpr ?_
    split at hcall
    · next heq => exact .inr (List.mem_singleton.mpr heq)
    · exact .inl (hsound.registered hlistening other call hcall hpending hkept)
  · rw [hget]
    split
    · exact ⟨_, rfl, fun _ hreply => by cases hreply⟩
    · next hne =>
      obtain hold | hnew := List.mem_append.mp hmem
      · exact hsound.unanswered other hold
      · exact absurd (List.mem_singleton.mp hnew) hne
  · by_cases heq : id = worker.reqId + 1
    · subst heq
      have hcall := (hget (worker.reqId + 1)).trans (if_pos rfl)
      refine ⟨fun call hfound => ?_, ?_⟩
      · obtain rfl := Option.some.inj (hcall.symm.trans hfound)
        exact ⟨rfl, (by intro h; cases h), (by intro h; cases h), (by intro h; cases h),
          (by intro reply h; cases h)⟩
      · rw [futureAt_eq hcall, futureAt, hnew, if_neg (Nat.not_succ_le_self _)]
        rfl
    · exact advances_same ((hget id).trans (if_neg heq)) (fun _ _ => rfl) hclean

/-! ### A cancellation and a turn of a task -/

theorem Sound.cancel {other : ℕ} (hsound : Sound worker)
    (hstep : step limit intOfText worker (.cancel other) = some next) :
    Sound next ∧ ∀ id, id ≠ other → CleanAt worker id →
      Advances intOfText worker (.cancel other) next id := by
  obtain ⟨call, hcall, hnext⟩ := Option.bind_eq_some_iff.mp hstep
  obtain ⟨after, rfl, hsame⟩ : ∃ after, next = worker.setCall other after ∧
      (after.future = call.future ∧ after.mustCancel = true ∨ after.future = .cancelled) := by
    unfold WorkerCalls.cancel at hnext
    split at hnext
    · exact ⟨_, (Option.some.inj hnext).symm, .inr rfl⟩
    · cases hnext
    · cases hnext
    · exact ⟨_, (Option.some.inj hnext).symm, .inl ⟨rfl, rfl⟩⟩
  refine ⟨hsound.setCall hcall (fun hpending hkept => ?_) (fun reply hdone => ?_),
    fun id hne hclean => ?_⟩
  · obtain ⟨-, hmust⟩ | hcancelled := hsame
    · cases hkept.symm.trans hmust
    · cases hcancelled.symm.trans hpending
  · obtain ⟨heq, -⟩ | hcancelled := hsame
    · exact heq ▸ hdone
    · cases hcancelled.symm.trans hdone
  · exact advances_same ((getItem_setCall worker id after).trans (if_neg hne)) (fun _ _ => rfl)
      hclean

/-- The turns of the task of a request that was not cancelled. -/
theorem Clean.resume (hclean : Clean call) (hnext : WorkerCalls.resume worker id call = some next) :
    ∃ after, next = worker.setCall id after ∧ after.future = call.future ∧ Clean after := by
  unfold WorkerCalls.resume at hnext
  split at hnext
  · rw [hclean.kept, if_neg nofun] at hnext
    split at hnext
    · next reply hdone =>
      refine ⟨_, (Option.some.inj hnext).symm, rfl, rfl, hclean.future, nofun, nofun, ?_⟩
      intro other hreturned
      rw [← Phase.returned.inj hreturned]
      exact hdone
    · exact ⟨_, (Option.some.inj hnext).symm, rfl, rfl, hclean.future, nofun, nofun, fun _ => nofun⟩
  · have hcancelled : call.future.isCancelled = false := by
      cases hfuture : call.future with
      | cancelled => exact absurd hfuture hclean.future
      | pending => rfl
      | finished reply => rfl
    rw [hclean.kept, hcancelled, if_neg nofun] at hnext
    split at hnext
    · next reply hdone =>
      refine ⟨_, (Option.some.inj hnext).symm, rfl, rfl, hclean.future, nofun, nofun, ?_⟩
      intro other hreturned
      rw [← Phase.returned.inj hreturned]
      exact hdone
    · cases hnext
  · next hclosing => exact absurd hclosing hclean.going
  · cases hnext
  · cases hnext

/-- A turn of a task changes its phase only, and takes the call off the register after a
cancellation. -/
theorem resume_cases (hnext : WorkerCalls.resume worker id call = some next) :
    ∃ phase, next = worker.setCall id { call with phase := phase } ∨
      (call.mustCancel = true ∨ call.future = .cancelled) ∧
        next = { worker.setCall id { call with phase := phase } with
          pendingCalls := worker.pendingCalls.filter (· ≠ id) } := by
  unfold WorkerCalls.resume at hnext
  split at hnext
  · split at hnext
    · exact ⟨_, .inl (Option.some.inj hnext).symm⟩
    · split at hnext
      · exact ⟨_, .inl (Option.some.inj hnext).symm⟩
      · exact ⟨_, .inl (Option.some.inj hnext).symm⟩
  · split at hnext
    · next hstopped =>
      refine ⟨_, .inr ⟨?_, (Option.some.inj hnext).symm⟩⟩
      refine (Bool.or_eq_true_iff.mp hstopped).imp_right fun hcancelled => ?_
      cases hfuture : call.future with
      | cancelled => rfl
      | pending =>
        rw [hfuture] at hcancelled
        cases hcancelled
      | finished reply =>
        rw [hfuture] at hcancelled
        cases hcancelled
    · split at hnext
      · exact ⟨_, .inl (Option.some.inj hnext).symm⟩
      · cases hnext
  · exact ⟨_, .inl (Option.some.inj hnext).symm⟩
  · cases hnext
  · cases hnext

theorem Sound.resume {other : ℕ} (hsound : Sound worker)
    (hstep : step limit intOfText worker (.resume other) = some next) :
    Sound next ∧ ∀ id, CleanAt worker id → Advances intOfText worker (.resume other) next id := by
  obtain ⟨call, hcall, hnext⟩ := Option.bind_eq_some_iff.mp hstep
  constructor
  · obtain ⟨phase, hcases⟩ := resume_cases hnext
    have hset : Sound (worker.setCall other { call with phase := phase }) :=
      hsound.setCall hcall (fun hpending hkept => ⟨hpending, hkept⟩) fun _ hdone => hdone
    obtain rfl | ⟨hstopped, rfl⟩ := hcases
    · exact hset
    · refine @Sound.pop other _ hset fun found hfound hpending => ?_
      rw [getItem_setCall, if_pos rfl] at hfound
      cases hfound
      obtain hmust | hcancelled := hstopped
      · exact hmust
      · cases hpending.symm.trans hcancelled
  · intro id hclean
    by_cases heq : id = other
    · subst heq
      obtain ⟨after, rfl, hfuture, hafter⟩ := (hclean call hcall).resume hnext
      have hget : Dict.getItem (worker.setCall id after).calls id = some after :=
        (getItem_setCall worker id after).trans (if_pos rfl)
      refine ⟨fun found hfound => ?_, ?_⟩
      · obtain rfl := Option.some.inj (hget.symm.trans hfound)
        exact hafter
      · rw [futureAt_eq hget, futureAt_eq hcall, hfuture]
        exact (congrArg (fun reply => Future.after reply call.future) (ite_self none)).trans
          (after_none _) |>.symm
    · obtain ⟨phase, hcases⟩ := resume_cases hnext
      have hget : Dict.getItem next.calls id = Dict.getItem worker.calls id := by
        have hset := (getItem_setCall worker id { call with phase := phase }).trans (if_neg heq)
        obtain rfl | ⟨-, rfl⟩ := hcases
        · exact hset
        · exact hset
      exact advances_same hget (fun _ _ => rfl) hclean

/-! ### A line and the end of input -/

theorem Sound.complete (hsound : Sound worker) (hmem : id ∈ worker.pendingCalls)
    (hhere : cancelledHere worker id = false) (reply : Reply) :
    ∃ call, Dict.getItem worker.calls id = some call ∧ call.future = .pending ∧
      complete worker id reply =
        { worker.setCall id { call with future := .finished reply } with
          pendingCalls := worker.pendingCalls.filter (· ≠ id) } ∧
      Sound (complete worker id reply) := by
  obtain ⟨call, hcall, hopen⟩ := hsound.unanswered id hmem
  have hpending : call.future = .pending := by
    cases hfuture : call.future with
    | pending => rfl
    | cancelled =>
      rw [cancelledHere, hcall, Option.any_some, hfuture, decide_eq_true hmem] at hhere
      cases hhere
    | finished other => exact absurd hfuture (hopen other)
  have hcomplete : WorkerCalls.complete worker id reply =
      { worker.setCall id { call with future := .finished reply } with
        pendingCalls := worker.pendingCalls.filter (· ≠ id) } := by
    rw [WorkerCalls.complete, hcall]
    dsimp only
    rw [hpending]
    rfl
  refine ⟨call, hcall, hpending, hcomplete, ?_⟩
  rw [hcomplete]
  have hget : ∀ other, Dict.getItem
      (worker.setCall id { call with future := .finished reply }).calls other =
        if other = id then some { call with future := .finished reply }
        else Dict.getItem worker.calls other := fun other => getItem_setCall worker other _
  refine ⟨hsound.alive, fun other found hfound => ?_, fun other hpos hle => ?_,
    fun hlistening other found hfound hnone hkept => ?_, fun other hmember => ?_⟩
  · rw [hget] at hfound
    split at hfound
    · next heq => exact heq ▸ hsound.made id call hcall
    · exact hsound.made other found hfound
  · rw [hget]
    split
    · exact ⟨_, rfl⟩
    · exact hsound.exist other hpos hle
  · rw [hget] at hfound
    split at hfound
    · cases hfound
      cases hnone
    · next hne =>
      exact List.mem_filter.mpr
        ⟨hsound.registered hlistening other found hfound hnone hkept, decide_eq_true hne⟩
  · obtain ⟨hold, hne⟩ := List.mem_filter.mp hmember
    rw [hget, if_neg (of_decide_eq_true hne)]
    exact hsound.unanswered other hold

theorem Sound.receive {msg : Config} (hsound : Sound worker)
    (hlistening : worker.listener = .listening) {length : ℕ}
    (hundisturbed : (!isCallResult msg || (hashable (getEntry msg "id") &&
      (requestOf (getEntry msg "id")).all fun id => !cancelledHere worker id)) = true) :
    Sound (receive intOfText worker msg) ∧ ∀ id, 1 ≤ id → CleanAt worker id →
      Advances intOfText worker (.line length (some (.dict msg)))
        (receive intOfText worker msg) id := by
  unfold WorkerCalls.receive
  split
  · next hresult =>
    rw [hresult, Bool.not_true, Bool.false_or] at hundisturbed
    obtain ⟨hhash, hall⟩ := Bool.and_eq_true_iff.mp hundisturbed
    rw [if_pos hhash]
    split
    · next other hrequest =>
      rw [hrequest, Option.all_some, Bool.not_eq_true'] at hall
      split
      · next hmem =>
        obtain ⟨call, hcall, hpending, hcomplete, hafter⟩ :=
          hsound.complete hmem hall (replyOf intOfText msg)
        refine ⟨hafter, fun id _ hclean => ?_⟩
        have hget := @getItem_setCall other worker id
          { call with future := .finished (replyOf intOfText msg) }
        rw [hcomplete]
        by_cases heq : id = other
        · subst heq
          rw [if_pos rfl] at hget
          have hbefore := hclean call hcall
          refine ⟨fun found hfound => ?_, ?_⟩
          · obtain rfl := Option.some.inj (hget.symm.trans hfound)
            refine ⟨hbefore.kept, nofun, hbefore.going, hbefore.whole, fun told htold => ?_⟩
            cases hpending.symm.trans (hbefore.told told htold)
          · rw [futureAt_eq hcall, hpending, if_pos (hsound.made id call hcall).2, answers,
              if_pos ⟨hresult, hrequest⟩]
            exact futureAt_eq hget
        · refine advances_same (hget.trans (if_neg heq)) (fun _ _ => if_neg ?_) hclean
          rintro ⟨-, hthat⟩
          exact heq (Option.some.inj (hthat.symm.trans hrequest))
      · next hmem =>
        refine ⟨hsound, fun id hpos hclean =>
          advances_same rfl (fun hle hpending => if_neg ?_) hclean⟩
        rintro ⟨-, hthat⟩
        obtain rfl := Option.some.inj (hthat.symm.trans hrequest)
        obtain ⟨call, hcall⟩ := hsound.exist id hpos hle
        rw [futureAt_eq hcall] at hpending
        exact hmem (hsound.registered hlistening id call hcall hpending (hclean call hcall).kept)
    · next hrequest =>
      refine ⟨hsound, fun id _ hclean => advances_same rfl (fun _ _ => if_neg ?_) hclean⟩
      rintro ⟨-, hthat⟩
      cases hthat.symm.trans hrequest
  · next hother =>
    refine ⟨hsound, fun id _ hclean => advances_same rfl (fun _ _ => if_neg ?_) hclean⟩
    exact fun hboth => hother hboth.1

theorem Sound.line {length : ℕ} {decoded : Option PyValue} (hsound : Sound worker)
    (hundisturbed : undisturbed limit worker (.line length decoded) = true)
    (hstep : step limit intOfText worker (.line length decoded) = some next) :
    Sound next ∧ ∀ id, 1 ≤ id → CleanAt worker id →
      Advances intOfText worker (.line length decoded) next id := by
  obtain ⟨hlistening, hnext⟩ := Option.ite_none_right_eq_some.mp hstep
  obtain ⟨hlength, hline⟩ := Bool.and_eq_true_iff.mp hundisturbed
  cases hnext
  unfold readLine
  rw [if_neg (Nat.not_lt.mpr (of_decide_eq_true hlength))]
  cases decoded with
  | none => exact ⟨hsound, fun id _ hclean => advances_same rfl (fun _ _ => rfl) hclean⟩
  | some value =>
    cases value with
    | dict msg => exact hsound.receive hlistening hline
    | none | bool | int | float | str | list => cases hline

theorem Sound.eof (hsound : Sound worker) (hstep : step limit intOfText worker .eof = some next) :
    Sound next ∧ ∀ id, 1 ≤ id → CleanAt worker id → Advances intOfText worker .eof next id := by
  obtain ⟨hlistening, hnext⟩ := Option.ite_none_right_eq_some.mp hstep
  cases hnext
  have hget : ∀ other, Dict.getItem (worker.calls.map (closeCall worker)) other =
      (Dict.getItem worker.calls other).map fun call => (closeCall worker (other, call)).2 :=
    fun other => getItem_closeCall worker worker.calls
  refine ⟨⟨nofun, fun other call hcall => ?_, fun other hpos hle => ?_, nofun,
    fun _ hmem => absurd hmem List.not_mem_nil⟩, fun id hpos hclean => ?_⟩
  · rw [hget] at hcall
    obtain ⟨before, hbefore, -⟩ := Option.map_eq_some_iff.mp hcall
    exact hsound.made other before hbefore
  · obtain ⟨call, hcall⟩ := hsound.exist other hpos hle
    rw [hget, hcall]
    exact ⟨_, rfl⟩
  · cases hcall : Dict.getItem worker.calls id with
    | none =>
      refine ⟨fun call hfound => ?_, ?_⟩
      · rw [hget, hcall] at hfound
        cases hfound
      · have hlate : ¬ id ≤ worker.reqId := by
          intro hle
          obtain ⟨call, hsome⟩ := hsound.exist id hpos hle
          cases hcall.symm.trans hsome
        rw [if_neg hlate, after_none, futureAt, futureAt, hget, hcall]
        rfl
    | some call =>
      have hbefore := hclean call hcall
      have hmap := hget id
      rw [hcall, Option.map_some] at hmap
      cases hfuture : call.future with
      | pending =>
        have hmem := hsound.registered hlistening id call hcall hfuture hbefore.kept
        have hclosed : (closeCall worker (id, call)).2 =
            { call with future := .finished connectionClosed } := by
          simp only [closeCall]
          rw [hfuture]
          rw [if_pos hmem]
        rw [hclosed] at hmap
        refine ⟨fun found hfound => ?_, ?_⟩
        · obtain rfl := Option.some.inj (hmap.symm.trans hfound)
          refine ⟨hbefore.kept, nofun, hbefore.going, hbefore.whole, fun told htold => ?_⟩
          cases hfuture.symm.trans (hbefore.told told htold)
        · rw [futureAt_eq hcall, hfuture, if_pos (hsound.made id call hcall).2]
          exact congrArg (fun found : Option Call => (found.map Call.future).getD .pending) hmap
      | cancelled => exact absurd hfuture hbefore.future
      | finished reply =>
        have hclosed : (closeCall worker (id, call)).2 = call := by
          simp only [closeCall]
          rw [hfuture]
        rw [hclosed] at hmap
        refine advances_same (hmap.trans hcall.symm) (fun _ hpending => ?_) hclean
        rw [futureAt_eq hcall, hfuture] at hpending
        cases hpending

theorem Sound.step {worker next : Worker} {event : Event} (hsound : Sound worker)
    (hundisturbed : undisturbed limit worker event = true)
    (hstep : WorkerCalls.step limit intOfText worker event = some next) :
    Sound next ∧ ∀ id, 1 ≤ id → event ≠ .cancel id → CleanAt worker id →
      Advances intOfText worker event next id := by
  cases event with
  | request =>
    obtain ⟨hnext, hadvances⟩ := hsound.request hstep
    exact ⟨hnext, fun id _ _ => hadvances id⟩
  | cancel other =>
    obtain ⟨hnext, hadvances⟩ := hsound.cancel hstep
    exact ⟨hnext, fun id _ hne => hadvances id fun heq => hne (congrArg Event.cancel heq.symm)⟩
  | resume other =>
    obtain ⟨hnext, hadvances⟩ := hsound.resume hstep
    exact ⟨hnext, fun id _ _ => hadvances id⟩
  | line length decoded =>
    obtain ⟨hnext, hadvances⟩ := hsound.line hundisturbed hstep
    exact ⟨hnext, fun id hpos _ => hadvances id hpos⟩
  | eof =>
    obtain ⟨hnext, hadvances⟩ := hsound.eof hstep
    exact ⟨hnext, fun id hpos _ => hadvances id hpos⟩

/-! ## Every run -/

theorem reqId_complete (worker : Worker) (reply : Reply) :
    (complete worker id reply).reqId = worker.reqId := by
  simp only [complete]
  split
  · split
    · rfl
    · rfl
  · rfl

theorem reqId_receive (worker : Worker) (msg : Config) :
    (receive intOfText worker msg).reqId = worker.reqId := by
  simp only [receive]
  split
  · split
    · split
      · split
        · exact reqId_complete worker _
        · rfl
      · rfl
    · rfl
  · rfl

theorem reqId_of_step (hstep : WorkerCalls.step limit intOfText worker event = some next)
    (hnew : event ≠ .request) :
    next.reqId = worker.reqId := by
  cases event with
  | request => exact absurd rfl hnew
  | cancel other =>
    obtain ⟨call, -, hnext⟩ := Option.bind_eq_some_iff.mp hstep
    unfold WorkerCalls.cancel at hnext
    split at hnext
    · exact (congrArg Worker.reqId (Option.some.inj hnext)).symm
    · cases hnext
    · cases hnext
    · exact (congrArg Worker.reqId (Option.some.inj hnext)).symm
  | resume other =>
    obtain ⟨call, -, hnext⟩ := Option.bind_eq_some_iff.mp hstep
    obtain ⟨phase, rfl | ⟨-, rfl⟩⟩ := resume_cases hnext
    · rfl
    · rfl
  | line length decoded =>
    obtain ⟨-, hnext⟩ := Option.ite_none_right_eq_some.mp hstep
    cases hnext
    unfold readLine
    split
    · rfl
    · split
      · rfl
      · exact reqId_receive worker _
      · rfl
  | eof =>
    obtain ⟨-, hnext⟩ := Option.ite_none_right_eq_some.mp hstep
    exact (congrArg Worker.reqId (Option.some.inj hnext)).symm

theorem answerTo_cons {rest : List Event}
    (hstep : WorkerCalls.step limit intOfText worker event = some next) :
    answerTo intOfText id worker.reqId (event :: rest) =
      (if id ≤ worker.reqId then answers intOfText id event else none).or
        (answerTo intOfText id next.reqId rest) := by
  by_cases hnew : event = .request
  · subst hnew
    have hid : next.reqId = worker.reqId + 1 :=
      (congrArg Worker.reqId (Option.some.inj hstep)).symm
    have hnone : (if id ≤ worker.reqId then answers intOfText id .request else none) = none :=
      ite_self none
    rw [hnone, Option.none_or, hid]
    rfl
  · have hunfold : answerTo intOfText id worker.reqId (event :: rest) = if id ≤ worker.reqId then
          (answers intOfText id event).or (answerTo intOfText id worker.reqId rest)
        else answerTo intOfText id worker.reqId rest := by
      cases event with
      | request => exact absurd rfl hnew
      | cancel | resume | line | eof => rfl
    rw [hunfold, reqId_of_step hstep hnew]
    split
    · rfl
    · rw [Option.none_or]

theorem after_after (future : Future) (reply other : Option Reply) :
    (future.after reply).after other = future.after (reply.or other) := by
  cases future with
  | pending => cases reply <;> rfl
  | cancelled => rfl
  | finished told => rfl

theorem Sound.run {worker last : Worker} {events : List Event} (hsound : Sound worker)
    (hrun : StepRun (WorkerCalls.step limit intOfText)
      (fun worker event => undisturbed limit worker event = true) worker events last) :
    Sound last ∧ ∀ id, 1 ≤ id → Event.cancel id ∉ events → CleanAt worker id → CleanAt last id ∧
        futureAt last id =
          (futureAt worker id).after (answerTo intOfText id worker.reqId events) := by
  induction hrun with
  | done worker => exact ⟨hsound, fun id _ _ hclean => ⟨hclean, (after_none _).symm⟩⟩
  | act hundisturbed hstep _ ih =>
    obtain ⟨hnext, hadvances⟩ := hsound.step hundisturbed hstep
    obtain ⟨hlast, hrest⟩ := ih hnext
    refine ⟨hlast, fun id hpos hcancel hclean => ?_⟩
    obtain ⟨hne, hnever⟩ := not_or.mp fun heither => hcancel (List.mem_cons.mpr heither)
    have hhere := hadvances id hpos (Ne.symm hne) hclean
    obtain ⟨hcleaned, hfuture⟩ := hrest id hpos hnever hhere.clean
    refine ⟨hcleaned, ?_⟩
    rw [hfuture, hhere.future, after_after, answerTo_cons hstep]

/-- The request has returned the reply, or does so when its task runs again. -/
def Completes (limit : ℕ) (intOfText : String → Option ℤ) (worker : Worker) (id : ℕ)
    (reply : Reply) : Prop :=
  ∃ call, Dict.getItem worker.calls id = some call ∧ (call.phase = .returned reply ∨
    WorkerCalls.step limit intOfText worker (.resume id) =
      some (worker.setCall id { call with phase := .returned reply }))

theorem Clean.completes {reply : Reply} (hclean : Clean call)
    (hcall : Dict.getItem worker.calls id = some call) (hfuture : call.future = .finished reply) :
    Completes limit intOfText worker id reply := by
  refine ⟨call, hcall, ?_⟩
  have hcalm : (call.mustCancel || call.future.isCancelled) = false := by
    rw [hclean.kept, hfuture]
    rfl
  have hresume : WorkerCalls.step limit intOfText worker (.resume id) =
      WorkerCalls.resume worker id call := by
    rw [WorkerCalls.step, hcall]
    rfl
  rw [hresume]
  cases hphase : call.phase with
  | flushing =>
    refine .inr ?_
    rw [WorkerCalls.resume, hphase]
    rw [hclean.kept, hfuture]
    rfl
  | waiting =>
    refine .inr ?_
    rw [WorkerCalls.resume, hphase]
    rw [hcalm, hfuture]
    rfl
  | closing => exact absurd hphase hclean.going
  | interrupted => exact absurd hphase hclean.whole
  | returned told =>
    have htold := (hclean.told told hphase).symm.trans hfuture
    rw [Future.finished.inj htold]
    exact .inl rfl

/-- In every run whose lines are not too long, and name no request between its cancellation and
the next turn of its task, the listener does not fail, and a request that is not cancelled
completes with the first reply read for it, and with nothing else. -/
theorem replies_of_run {worker : Worker} {events : List Event}
    (hrun : StepRun (step limit intOfText)
      (fun worker event => undisturbed limit worker event = true) fresh events worker) :
    worker.listener ≠ .failed ∧
      ∀ id call, Dict.getItem worker.calls id = some call → Event.cancel id ∉ events →
        (∀ reply, answerTo intOfText id 0 events = some reply →
          Completes limit intOfText worker id reply) ∧
        ∀ reply, call.phase = .returned reply → answerTo intOfText id 0 events = some reply := by
  obtain ⟨hsound, hrequests⟩ := fresh_sound.run hrun
  refine ⟨hsound.alive, fun id call hcall hcancel => ?_⟩
  obtain ⟨hclean, hfuture⟩ := hrequests id (hsound.made id call hcall).1 hcancel
    fun _ hnone => nomatch hnone
  have hpending : futureAt fresh id = .pending := rfl
  rw [futureAt_eq hcall, hpending] at hfuture
  refine ⟨fun reply hanswer => ?_, fun reply hreturned => ?_⟩
  · rw [show fresh.reqId = 0 from rfl, hanswer] at hfuture
    exact (hclean call hcall).completes hcall hfuture
  · have htold := (hclean call hcall).told reply hreturned
    rw [hfuture] at htold
    cases hanswer : answerTo intOfText id 0 events with
    | none =>
      rw [show fresh.reqId = 0 from rfl, hanswer] at htold
      cases htold
    | some other =>
      rw [show fresh.reqId = 0 from rfl, hanswer] at htold
      rw [Future.finished.inj htold]

/-! ## Cancelled requests -/

def resultFor (id : ℤ) (data : String) : Event :=
  .line 80 (some (.dict [("type", .str "call_result"), ("id", .int id), ("success", .bool true),
    ("data", .str data)]))

/-- The second of two requests is cancelled, and its task runs again before its result comes. -/
def resultsInTurn : List Event :=
  [.request, .request, .resume 1, .resume 2, .cancel 2, .resume 2, resultFor 2 "late",
    resultFor 7 "unknown", .resume 2, resultFor 1 "sent"]

theorem replies_of_resultsInTurn :
    (stateAfter (step 100 fun _ => none) fresh resultsInTurn).listener ≠ .failed ∧ ∀ id call,
        Dict.getItem (stateAfter (step 100 fun _ => none) fresh resultsInTurn).calls id =
          some call → Event.cancel id ∉ resultsInTurn →
        (∀ reply, answerTo (fun _ => none) id 0 resultsInTurn = some reply →
          Completes 100 (fun _ => none)
            (stateAfter (step 100 fun _ => none) fresh resultsInTurn) id reply) ∧
        ∀ reply, call.phase = .returned reply →
          answerTo (fun _ => none) id 0 resultsInTurn = some reply :=
  replies_of_run (stepRun_stateAfter (by decide))

/-- The result of a cancelled request comes before its task runs again. -/
def resultOfCancelled : List Event :=
  [.request, .resume 1, .cancel 1, resultFor 1 "late"]

theorem listener_fails :
    ¬ ∀ (limit : ℕ) (intOfText : String → Option ℤ) (events : List Event) (worker : Worker),
      StepRun (step limit intOfText) (fun _ _ => True) fresh events worker →
        worker.listener ≠ .failed ∧
          ∀ id call, Dict.getItem worker.calls id = some call → Event.cancel id ∉ events →
            (∀ reply, answerTo intOfText id 0 events = some reply →
              Completes limit intOfText worker id reply) ∧
            ∀ reply, call.phase = .returned reply → answerTo intOfText id 0 events = some reply := by
  intro hall
  have hrun : StepRun (step 100 fun _ => none) (fun _ _ => True) fresh resultOfCancelled
      (stateAfter (step 100 fun _ => none) fresh resultOfCancelled) :=
    stepRun_stateAfter (by decide)
  exact (hall _ _ _ _ hrun).1 (by decide)

end Laws

end SignPulse.Plugin.WorkerCalls
