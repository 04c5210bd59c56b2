import SignPulse.Flow.FlowContext

/-!
# What surrounds a run

The engine calls code that is not its own: the executor of action nodes, the
clock, the event bus, the regular expressions and the evaluation of guard
expressions.  `Env` collects these, over a state `World` that they share and
may change; a result about every `Env` is a result about every executor, every
order of events and every timing.

What a run did is recorded next to its result: one `Visit` for each node that
was entered, one `Attempt` for each try at it, and the logs of the runs of
nested graphs inside the attempts.  No decision of the engine reads a log.
-/

namespace SignPulse.RunEnvironment

open Foundation
open FlowModels
open FlowContext

/-- How an awaited call ends.  `cancelled level` is a `CancelledError` sent
when a `wait_for` around the call expired, the levels counting the enclosing
`wait_for`s outwards from zero; a level past the outermost one is a
cancellation from outside. -/
inductive Exit (α : Type) where
  | returned (value : α)
  | raised (error : PyError)
  | cancelled (level : ℕ)

/-- What an executor hands back: besides the outcome, the context and the
world it may have changed, and a record of the calls it made in turn. -/
structure ExecutorReply (World Call : Type) where
  exit : Exit StepOutcome
  ctx : ScopedFlowContext
  world : World
  calls : List Call := []

/-- What one wait on the subscription queue of a wait node brings. -/
inductive Delivery where
  | event (event : TelegramMessageEvent)
  | gap
  | timedOut
  | cancelled (level : ℕ)
  deriving DecidableEq

/-- The answer of the semantic service in assist mode; a service that is
missing, fails or cannot decide is `undecided`. -/
inductive Assessment where
  | success (gap : Bool)
  | failure
  | undecided
  | cancelled (level : ℕ)
  deriving DecidableEq

structure Env (World Call : Type) where
  /-- The `executor` argument of `run`. -/
  executor : Node → ScopedFlowContext → World → ExecutorReply World Call
  evaluateCondition : ScopedFlowContext → String → Except PyError Bool
  /-- The text search of an extractor node: whether it matched, and the
  variables it found. -/
  extract : ExtractorConfig → ScopedFlowContext → Except PyError (Bool × Dict String PyValue)
  /-- An await that only passes time: a backoff or a delay, or a branch that
  waits for its turn. -/
  pause : World → Exit Unit × World
  /-- What arrives for a wait node from its subscription on. -/
  deliveries : Node → ScopedFlowContext → World → List Delivery × World
  now : World → ℚ
  regexSearch : String → String → Bool
  matchesRetryKeyword : String → List String → Option String
  assess : Node → String → World → Assessment × World
  /-- `_redact_trace_text`. -/
  redactTraceText : String → String

/-- Surroundings in which time passes and nothing happens but the calls of the
executor. -/
def Env.still {World Call : Type}
    (executor : Node → ScopedFlowContext → World → ExecutorReply World Call) :
    Env World Call where
  executor := executor
  evaluateCondition _ _ := .ok true
  extract _ _ := .ok (false, [])
  pause world := (.returned (), world)
  deliveries _ _ world := ([], world)
  now _ := 0
  regexSearch _ _ := false
  matchesRetryKeyword _ _ := none
  assess _ _ world := (.undecided, world)
  redactTraceText := id

/-- The keys of a result that are present only where the run failed. -/
structure Failure where
  error : String
  failureCode : Option String
  failureCategory : Option String
  nonRetryable : Bool
  semanticDisposition : Option String
  deriving DecidableEq

structure FlowResult where
  success : Bool
  path : List String
  steps : ℕ
  businessStatus : BusinessStatus
  operationReceipts : List OperationReceipt
  failure : Option Failure
  targetMessage : Option String
  targetMessages : List TargetMessage
  lastOutput : String
  lastReceivedText : String

/-- One try at a node: the executor calls and the nested runs it made, whether
it took an inbound event as its success, how it ended and the context it
left. -/
structure Attempt (Call R : Type) where
  calls : List Call
  nested : List R
  accepted : Bool
  exit : Exit StepOutcome
  ctx : ScopedFlowContext

/-- A node entered by a run, with the key it was found under and the outcome
that was recorded for it, if the visit got that far. -/
structure Visit (Call R : Type) where
  key : String
  node : Node
  attempts : List (Attempt Call R)
  outcome : Option StepOutcome

structure RunLog (Call : Type) where
  graph : ExecutionGraph
  visits : List (Visit Call (RunLog Call))
  /-- The context of the run when it ended. -/
  ctx : ScopedFlowContext
  exit : Exit FlowResult

structure RunReply (World Call : Type) where
  exit : Exit FlowResult
  ctx : ScopedFlowContext
  world : World
  log : RunLog Call

/-- What one execution of a node gives back to the attempt it belongs to. -/
structure NodeReply (World Call : Type) where
  exit : Exit StepOutcome
  ctx : ScopedFlowContext
  world : World
  calls : List Call := []
  nested : List (RunLog Call) := []
  accepted : Bool := false

def NodeReply.attempt {World Call : Type} (reply : NodeReply World Call) :
    Attempt Call (RunLog Call) where
  calls := reply.calls
  nested := reply.nested
  accepted := reply.accepted
  exit := reply.exit
  ctx := reply.ctx

/-- An outcome that sends the run back to the start of the flow. -/
def restarts (outcome : StepOutcome) : Bool :=
  outcome.signal == .branch && truthy outcome.targetNodeId && outcome.details.retryFlowRestart

def Visit.restarts {Call R : Type} (visit : Visit Call R) : Bool :=
  visit.outcome.any RunEnvironment.restarts

/-- The logs of the runs made inside a visit. -/
def Visit.nested {Call R : Type} (visit : Visit Call R) : List R :=
  visit.attempts.flatMap Attempt.nested

/-- `NestedIn inner outer`: the run of `inner` was made inside the run of
`outer`, at any depth. -/
inductive NestedIn {Call : Type} : RunLog Call → RunLog Call → Prop where
  | direct {inner outer : RunLog Call} {visit : Visit Call (RunLog Call)}
      (hvisit : visit ∈ outer.visits) (hinner : inner ∈ visit.nested) :
      NestedIn inner outer
  | deeper {inner middle outer : RunLog Call}
      {visit : Visit Call (RunLog Call)} (hvisit : visit ∈ outer.visits)
      (hmiddle : middle ∈ visit.nested) (hinner : NestedIn inner middle) :
      NestedIn inner outer

end SignPulse.RunEnvironment
