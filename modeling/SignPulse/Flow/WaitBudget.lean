import Mathlib.Tactic.Linarith
import Mathlib.Tactic.Positivity
import Mathlib.Tactic.Ring
import SignPulse.Flow.GraphNormalizer
import SignPulse.Flow.ResendRuns

/-!
# The time of a wait node

How long one visit to a wait node can take, and the timeout that the engine puts around it:
`PulseFlowEngine.run` and the deadlines of `_run_wait_event_node`, in exact arithmetic.  An
assessment by the semantic service belongs to the reply window in which it is made.
-/

namespace SignPulse.WaitBudget

open Foundation
open FlowModels
open FlowContext
open WaitEvent

/-! ## The timeout of the engine -/

/-- `action.timeout_seconds or 25.0`. -/
def sendTimeout (action : Node) : ℚ :=
  if action.timeoutSeconds = 0 then 25 else action.timeoutSeconds

/-- The reply window that `run` reckons with. -/
def budgetWindow (node : Node) : ℚ :=
  if 0 < node.timeoutSeconds then node.timeoutSeconds else 25

/-- The action whose resend `run` reckons with. -/
def budgetAction (graph : ExecutionGraph) (config : WaitEventConfig) (system : SystemScope) :
    Option Node :=
  match config.actionNodeId.bind (Dict.getItem graph.nodes) with
  | some action => some action
  | none => system.lastActionNode

/-- What `run` keeps for a resend. -/
def budgetResend (graph : ExecutionGraph) (config : WaitEventConfig) (system : SystemScope) : ℚ :=
  match budgetAction graph config system with
  | some action => sendTimeout action
  | none => 25

section Visit

variable (graph : ExecutionGraph) (node : Node) (config : WaitEventConfig)
  (retryInterval : ℚ) (system : SystemScope)

/-- `wait_for_timeout`. -/
def waitForTimeout : ℚ :=
  budgetWindow node * (1 + config.maxRetries) +
    config.maxRetries * (retryInterval + budgetResend graph config system) + 3

/-! ## The clock of a visit -/

inductive Phase where
  | waiting (deadline : ℚ)
  | sleeping
  | resending
  | ended
  deriving DecidableEq

/-- The seconds since the node was entered, and where it is. -/
structure Clock where
  now : ℚ
  retryCount : ℤ
  phase : Phase
  deriving DecidableEq

/-- What happens next, with its time or its duration. -/
inductive Action where
  /-- A message that does not decide the node. -/
  | passOver (time : ℚ)
  /-- A message that decides the node, or a gap in the delivery. -/
  | decide (time : ℚ)
  /-- A message that asks to try again. -/
  | askRetry (time : ℚ)
  | timeOut
  | wake
  | resent (duration : ℚ)
  | failResend (duration : ℚ)
  /-- An end from outside, or by an error. -/
  | stop
  deriving DecidableEq

/-- The action that is sent again after a pause; the node ends without one. -/
def resentAction : Option Node :=
  if truthy config.retryEntryNodeId then none else resendAction graph config system

/-- `await asyncio.sleep(retry_interval)`. -/
def pauseTime : ℚ := max retryInterval 0

/-- The longest time of a resend, in its own `wait_for`. -/
def resendTime (action : Node) : ℚ := max (sendTimeout action) 0

def start : Clock where
  now := 0
  retryCount := (Dict.getItem system.replyRetryCount node.id).getD 0
  phase := .waiting (waitTimeout node)

/-- A message is taken before the deadline only. -/
def takes (clock : Clock) (deadline time : ℚ) : Bool :=
  clock.now < deadline && clock.now ≤ time && time ≤ deadline

def step (clock : Clock) (action : Action) : Option Clock :=
  match action, clock.phase with
  | .passOver time, .waiting deadline =>
    if takes clock deadline time then some { clock with now := time } else none
  | .decide time, .waiting deadline =>
    if clock.now ≤ time ∧ time ≤ max clock.now deadline then
      some { clock with now := time, phase := .ended }
    else none
  | .askRetry time, .waiting deadline =>
    if takes clock deadline time then
      if clock.retryCount < config.maxRetries then
        some { clock with now := time, phase := .sleeping }
      else some { clock with now := time, phase := .ended }
    else none
  | .timeOut, .waiting deadline =>
    some { clock with now := max clock.now deadline, phase := .ended }
  | .wake, .sleeping =>
    some
      { now := clock.now + pauseTime retryInterval
        retryCount := clock.retryCount + 1
        phase := if (resentAction graph config system).isSome then .resending else .ended }
  | .resent duration, .resending =>
    match resentAction graph config system with
    | some action =>
      if 0 ≤ duration ∧ duration ≤ resendTime action then
        some
          { clock with
            now := clock.now + duration
            phase := .waiting (clock.now + duration + waitTimeout node) }
      else none
    | none => none
  | .failResend duration, .resending =>
    match resentAction graph config system with
    | some action =>
      if 0 ≤ duration ∧ duration ≤ resendTime action then
        some { clock with now := clock.now + duration, phase := .ended }
      else none
    | none => none
  | .stop, .ended => none
  | .stop, _ => some { clock with phase := .ended }
  | _, _ => none

/-- The node has not taken longer than the engine waits for it, wherever it is. -/
def Covered : Prop :=
  ∀ actions last, StepRun (step graph node config retryInterval system) (fun _ _ => True)
    (start node system) actions last →
      last.now ≤ waitForTimeout graph node config retryInterval system

end Visit

/-! ## The clock beside the loop -/

section Loop

variable {World Call : Type} {env : RunEnvironment.Env World Call} {graph : ExecutionGraph}
  {settings : EventBus.BusSettings} {node : Node} {config : WaitEventConfig}
  {retryInterval : ℚ} {system : SystemScope}

/-- The loop and its clock are at the same place. -/
structure SameLoop (system : SystemScope) (loop : WaitState World Call) (clock : Clock) : Prop where
  retryCount : clock.retryCount = loop.retryCount
  lastAction : loop.ctx.system.lastActionNode = system.lastActionNode

def Agrees (graph : ExecutionGraph) (config : WaitEventConfig) (system : SystemScope)
    (visit : ResendRuns.Visit World Call) (clock : Clock) : Prop :=
  match visit.phase with
  | .entered _ _ => False
  | .waiting wait =>
    (∃ deadline, clock.phase = .waiting deadline ∧ clock.now < deadline) ∧
      SameLoop system wait.loop clock
  | .sleeping wait => clock.phase = .sleeping ∧ SameLoop system wait.loop clock
  | .resending wait action =>
    clock.phase = .resending ∧ SameLoop system wait.loop clock ∧
      resentAction graph config system = some action
  | .ended _ _ _ => clock.phase = .ended

/-- What `step` makes of a clock that goes on in another phase. -/
def Follows (graph : ExecutionGraph) (node : Node) (config : WaitEventConfig) (retryInterval : ℚ)
    (system : SystemScope) (clock : Clock) (next : ResendRuns.Visit World Call) : Prop :=
  ∃ timed later, step graph node config retryInterval system clock timed = some later ∧
    Agrees graph config system next later

variable {visit : ResendRuns.Visit World Call} {clock : Clock}
variable {wait : ResendRuns.Waiting World Call}

end Loop

section Executor

open RunEnvironment TelegramExecutor

variable {W : Type} (runner : Runner W) (node : Node) (state : CallState W)

end Executor
section Click

open ResendRuns (clickConfig clickStep clickSystem clickVisit clickWait laterReply)

end Click

/-! ## The longest visit -/

section Longest

variable (graph : ExecutionGraph) (node : Node) (config : WaitEventConfig)
  (retryInterval : ℚ) (system : SystemScope)

/-- The longest time that retries can add to a reply window. -/
def retryTime (left : ℕ) : ℚ :=
  match resentAction graph config system with
  | some action => left * (pauseTime retryInterval + resendTime action + waitTimeout node)
  | none => if left = 0 then 0 else pauseTime retryInterval

def retriesLeft (clock : Clock) : ℕ := (config.maxRetries - clock.retryCount).toNat

/-- The longest time until the end of the visit. -/
def endTime (clock : Clock) : ℚ :=
  match clock.phase with
  | .waiting deadline =>
    if clock.now < deadline then
      deadline + retryTime graph node config retryInterval system (retriesLeft config clock)
    else clock.now
  | .sleeping =>
    clock.now + retryTime graph node config retryInterval system (retriesLeft config clock)
  | .resending =>
    match resentAction graph config system with
    | some action =>
      clock.now + resendTime action + waitTimeout node +
        retryTime graph node config retryInterval system (retriesLeft config clock)
    | none => clock.now
  | .ended => clock.now

end Longest

section Bounds

variable {graph : ExecutionGraph} {node : Node} {config : WaitEventConfig}
  {retryInterval : ℚ} {system : SystemScope}

variable {clock next : Clock} {action : Action}

/-- There is a retry to sleep for. -/
def Sound (config : WaitEventConfig) (clock : Clock) : Prop :=
  clock.phase = .sleeping → clock.retryCount < config.maxRetries

variable (hwindow : 0 < waitTimeout node)

include hwindow

omit hwindow

end Bounds

/-! ## The nodes that the engine waits for long enough -/

section Covers

variable (graph : ExecutionGraph) (node : Node) (config : WaitEventConfig)
  (retryInterval : ℚ) (system : SystemScope)

end Covers

/-! ## A window of zero seconds -/

end SignPulse.WaitBudget
