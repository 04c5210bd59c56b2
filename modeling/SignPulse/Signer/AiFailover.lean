import Mathlib.Tactic.Linarith
import SignPulse.Flow.FlowModels

/-!
# Failover between AI providers

`AIProviderManager.dispatch_request` calls the providers of a list one after another, until one of
them answers.  What a provider answers within the time that it is given is a parameter.
-/

namespace SignPulse.AiFailover

open Foundation
open FlowModels (PyError)

structure ProviderConfig where
  id : String
  baseUrl : String
  apiKey : String
  model : String
  timeout : ℚ := 15

abbrev Payload := Dict String PyValue

/-- How the call of a provider ends inside its `wait_for`. -/
inductive Answer (R : Type*) where
  | result (value : R)
  | timedOut
  /-- `AIProviderConfigError`, or another `ValueError`. -/
  | configError (error : PyError)
  | failed (error : PyError)

/-- With the clock, and `_call_single_provider` with its time limit. -/
structure AIProviderManager (W R : Type*) where
  totalDeadline : ℚ := 35
  monotonic : W → ℚ
  callSingleProvider : ProviderConfig → Payload → ℚ → W → Answer R × W

/-- A call that was made, and the time that was left before it. -/
structure Call (R : Type*) where
  provider : ProviderConfig
  payload : Payload
  budget : ℚ
  remaining : ℚ
  answer : Answer R

structure Reply (W R : Type*) where
  exit : Except PyError R
  calls : List (Call R)
  world : W

def callPayload (payload : Payload) (provider : ProviderConfig) : Payload :=
  if provider.model = "" ∨ payload.hasKey "model" then payload
  else Dict.setItem payload "model" (.str provider.model)

def subBudget (provider : ProviderConfig) (remaining : ℚ) : ℚ :=
  min provider.timeout (max (1 / 10) (remaining - 1 / 5))

/-- How an answer ends the request; none where the next provider is tried. -/
def Answer.exit? {R : Type*} (abortOnConfigError : Bool) : Answer R → Option (Except PyError R)
  | .result value => some (.ok value)
  | .configError error => if abortOnConfigError then some (.error error) else none
  | _ => none

/-- What is added to `errors`. -/
def errorText {R : Type*} (call : Call R) : String :=
  call.provider.id ++ match call.answer with
    | .result _ => ""
    | .timedOut => ": timeout"
    | .configError _ => ": config error"
    | .failed error => ": " ++ error.message

def allProvidersFailed (message : String) : PyError where
  name := "AIAllProvidersFailedError"
  message := message

def allFailed (errors : List String) : PyError :=
  allProvidersFailed ("全部 AI 提供方均调用失败: " ++ "; ".intercalate errors)

variable {W R : Type*} (manager : AIProviderManager W R) (payload : Payload)
  (abortOnConfigError : Bool) (startTime : ℚ)

/-- `remaining_time`. -/
def remainingTime (world : W) : ℚ :=
  manager.totalDeadline - (manager.monotonic world - startTime)

def dispatchFrom : List ProviderConfig → List String → W → Reply W R
  | [], errors, world => { exit := .error (allFailed errors), calls := [], world }
  | provider :: rest, errors, world =>
    let remaining := remainingTime manager startTime world
    if remaining ≤ 1 / 5 then { exit := .error (allFailed errors), calls := [], world }
    else
      let payload' := callPayload payload provider
      let budget := subBudget provider remaining
      let (answer, next) := manager.callSingleProvider provider payload' budget world
      let call : Call R := { provider, payload := payload', budget, remaining, answer }
      match answer.exit? abortOnConfigError with
      | some exit => { exit, calls := [call], world := next }
      | none =>
        let reply := dispatchFrom rest (errors ++ [errorText call]) next
        { reply with calls := call :: reply.calls }

def dispatchRequest (providers : List ProviderConfig) (world : W) : Reply W R :=
  if providers = [] then
    { exit := .error (allProvidersFailed "未配置任何 AI 提供方"), calls := [], world }
  else dispatchFrom manager payload abortOnConfigError (manager.monotonic world) providers [] world

/-! ## The calls of a request -/

variable {manager : AIProviderManager W R} {startTime : ℚ} {payload : Payload}
  {abortOnConfigError : Bool} {providers : List ProviderConfig} {errors : List String} {world : W}

theorem subBudget_lt {provider : ProviderConfig} {remaining : ℚ} (henough : ¬ remaining ≤ 1 / 5) :
    subBudget provider remaining < remaining :=
  (min_le_right _ _).trans_lt (max_lt (by linarith) (by linarith))

/-- The providers are called in their order, each with its own payload and less time than is
left. -/
structure InOrder (payload : Payload) (tried : List ProviderConfig) (calls : List (Call R)) :
    Prop where
  providers : calls.map Call.provider = tried
  payloads : ∀ call ∈ calls, call.payload = callPayload payload call.provider
  budgets : ∀ call ∈ calls, call.budget < call.remaining

/-- The first answer that ends the request is its exit.  Without one the request tells how each
call failed, and has called all providers unless its time is over. -/
def Concludes (abortOnConfigError : Bool) (errors : List String) (spent : Prop)
    (reply : Reply W R) : Prop :=
  (∃ earlier last, reply.calls = earlier ++ [last] ∧
    (∀ call ∈ earlier, call.answer.exit? abortOnConfigError = none) ∧
      last.answer.exit? abortOnConfigError = some reply.exit) ∨
  ((∀ call ∈ reply.calls, call.answer.exit? abortOnConfigError = none) ∧
    reply.exit = .error (allFailed (errors ++ reply.calls.map errorText)) ∧ spent)

def Follows (manager : AIProviderManager W R) (payload : Payload) (abortOnConfigError : Bool)
    (startTime : ℚ) (providers : List ProviderConfig) (errors : List String)
    (reply : Reply W R) : Prop :=
  ∃ tried untried, providers = tried ++ untried ∧ InOrder payload tried reply.calls ∧
    Concludes abortOnConfigError errors
      (untried = [] ∨ remainingTime manager startTime reply.world ≤ 1 / 5) reply

theorem dispatchFrom_follows : Follows manager payload abortOnConfigError startTime providers
      errors (dispatchFrom manager payload abortOnConfigError startTime providers errors world) := by
  induction providers generalizing errors world with
  | nil => exact ⟨[], [], rfl, ⟨rfl, by simp [dispatchFrom], by simp [dispatchFrom]⟩,
      .inr (by simp [dispatchFrom])⟩
  | cons provider rest ih =>
    rw [dispatchFrom]
    split
    · next hspent => exact ⟨[], _, rfl, ⟨rfl, by simp, by simp⟩, .inr (by simpa using hspent)⟩
    · next henough =>
      have hbudget := @subBudget_lt provider _ henough
      dsimp only
      split
      · next exit hexit =>
        exact ⟨[provider], rest, rfl, ⟨rfl, by simp, by simpa using hbudget⟩,
          .inl ⟨[], _, rfl, by simp, hexit⟩⟩
      · next hnone =>
        obtain ⟨tried, untried, hsplit, horder, hconcludes⟩ := @ih (errors ++ [_]) _
        refine ⟨provider :: tried, untried, congrArg (provider :: ·) hsplit,
          ⟨congrArg (provider :: ·) horder.providers,
            List.forall_mem_cons.2 ⟨rfl, horder.payloads⟩,
            List.forall_mem_cons.2 ⟨hbudget, horder.budgets⟩⟩, ?_⟩
        rcases hconcludes with ⟨earlier, last, hcalls, hearlier, hlast⟩ | ⟨hall, hexit, hover⟩
        · exact .inl ⟨_ :: earlier, last, congrArg (_ :: ·) hcalls,
            List.forall_mem_cons.2 ⟨hnone, hearlier⟩, hlast⟩
        · refine .inr ⟨List.forall_mem_cons.2 ⟨hnone, hall⟩, hexit.trans ?_, hover⟩
          rw [List.map_cons, List.append_assoc, List.singleton_append]

theorem dispatchRequest_follows (manager : AIProviderManager W R) (payload : Payload)
    (abortOnConfigError : Bool) (provider : ProviderConfig) (rest : List ProviderConfig)
    (world : W) : Follows manager payload abortOnConfigError (manager.monotonic world)
      (provider :: rest) []
      (dispatchRequest manager payload abortOnConfigError (provider :: rest) world) :=
  dispatchFrom_follows

/-! ## The time of a request -/

/-- `asyncio.wait_for`: a call ends when its time is over. -/
def WaitsFor (manager : AIProviderManager W R) : Prop :=
  ∀ provider payload budget world,
    manager.monotonic (manager.callSingleProvider provider payload budget world).2 ≤
      manager.monotonic world + max budget 0

theorem dispatchFrom_time (hwaits : WaitsFor manager)
    (hstart : manager.monotonic world ≤ startTime + manager.totalDeadline) :
    manager.monotonic (dispatchFrom manager payload abortOnConfigError startTime providers errors
      world).world ≤ startTime + manager.totalDeadline := by
  induction providers generalizing errors world with
  | nil => exact hstart
  | cons provider rest ih =>
    rw [dispatchFrom]
    split
    · exact hstart
    · next henough =>
      have hnext := hwaits provider (callPayload payload provider)
        (subBudget provider (remainingTime manager startTime world)) world
      have hbudget := max_lt (@subBudget_lt provider _ henough)
        ((by norm_num : (0 : ℚ) < 1 / 5).trans (not_le.mp henough))
      have hend := hnext.trans (add_le_add_right hbudget.le _)
      have hlast : manager.monotonic world + remainingTime manager startTime world =
          startTime + manager.totalDeadline := by
        unfold remainingTime
        linarith
      rw [hlast] at hend
      dsimp only
      split
      · exact hend
      · exact ih hend

/-- No request takes longer than its deadline, whatever its providers do. -/
theorem dispatchRequest_time (hwaits : WaitsFor manager) (hdeadline : 0 ≤ manager.totalDeadline) :
    manager.monotonic (dispatchRequest manager payload abortOnConfigError providers world).world ≤
      manager.monotonic world + manager.totalDeadline := by
  have hstart : manager.monotonic world ≤ manager.monotonic world + manager.totalDeadline :=
    le_add_of_nonneg_right hdeadline
  unfold dispatchRequest
  split
  · exact hstart
  · exact dispatchFrom_time hwaits hstart

/-- Every provider takes all of its time. -/
def silent : AIProviderManager ℚ ℕ where
  monotonic world := world
  callSingleProvider _ _ budget world := (.timedOut, world + max budget 0)

theorem dispatchRequest_time_silent : silent.monotonic (dispatchRequest silent [] true
      [⟨"a", "", "key", "", 15⟩, ⟨"b", "", "key", "m", 60⟩] 100).world ≤ silent.monotonic 100 + 35 :=
  dispatchRequest_time (fun _ _ _ _ => le_rfl) (by decide)

end SignPulse.AiFailover
