import SignPulse.Backend.ChainedRuns
import SignPulse.Foundation.StepRun
import SignPulse.Semantic.DecisionCache

/-!
# The semantic client

`JevClient` of `semantic/client.py`: what a query counts, reports to the breaker and returns.  A
step is what a query does between two points at which the event loop can switch; there the
transport answers, the time is over, or the query is cancelled.
-/

namespace SignPulse.JevClient

open Foundation
open FlowModels (PyError)
open ChainedRuns (getEntry)

/-! ## What the transport does -/

/-- A response: its text and its JSON are read when they are asked for. -/
structure Response where
  statusCode : ℤ
  json : Except PyError PyValue
  text : Except PyError String := .ok ""
  /-- The header `Retry-After`, as a number. -/
  retryAfter : Option ℚ := none

/-- How `client.post` ends. -/
inductive Posted where
  | response (response : Response)
  /-- `httpx.TimeoutException`. -/
  | timeoutException (message : String)
  /-- `httpx.TransportError`. -/
  | transportError (name message : String)
  /-- The budget of the query is over, or the transport raises `TimeoutError`. -/
  | overBudget
  | cancelled
  /-- Any other `Exception`. -/
  | raised (error : PyError)
  /-- A `BaseException` that ends the process or the coroutine. -/
  | exited

/-- How the start of the first attempt and the sleep before another one end. -/
inductive Woken where
  | slept
  | overBudget
  | cancelled
  | exited
  deriving DecidableEq

/-! ## The client -/

structure JevMetrics where
  totalCalls : ℕ := 0
  successCalls : ℕ := 0
  failedCalls : ℕ := 0
  escalateCalls : ℕ := 0
  cacheHits : ℕ := 0
  cacheMisses : ℕ := 0
  deriving DecidableEq

namespace JevMetrics

def countFailed (metrics : JevMetrics) : JevMetrics :=
  { metrics with failedCalls := metrics.failedCalls + 1 }

def countSuccess (metrics : JevMetrics) : JevMetrics :=
  { metrics with successCalls := metrics.successCalls + 1 }

def outcomes (metrics : JevMetrics) : ℕ :=
  metrics.successCalls + metrics.failedCalls + metrics.escalateCalls

end JevMetrics

/-- What does not change while the client is in use, and the functions that it calls. -/
structure Setting where
  apiKey : String
  baseUrl : String
  model : String
  totalBudget : ℚ := 20
  /-- What `validate_ssrf_and_host` says of the URL. -/
  urlCheck : Bool × String := (true, "")
  isSensitiveRequest : DecisionRequest → Bool
  dumps : PyValue → String
  sortedDumps : PyValue → String
  digest : String → String
  /-- `str` of a value that is no string. -/
  strOf : PyValue → String
  typeName : PyValue → String
  /-- `redact_sensitive_text` with the key. -/
  redact : String → String

structure Client where
  metrics : JevMetrics := {}
  breaker : CircuitBreaker := {}
  cache : JevDecisionCache := {}

inductive Phase where
  /-- The attempt is about to begin. -/
  | ready (attempt : ℕ)
  | posting (attempt : ℕ)
  | returned (decision : Decision)
  | raised
  deriving DecidableEq

structure Query where
  request : DecisionRequest
  sanitized : DecisionRequest
  /-- The key in the cache, where the answer may be kept. -/
  cacheKey : Option String := none
  budgetDeadline : ℚ
  lease : Option ProbeLease := none
  phase : Phase

/-- How a query ends after its lease was granted. -/
inductive Ending where
  /-- A choice of the request: the answer may be kept. -/
  | chosen (decision : Decision)
  /-- A failure that is reported to the breaker. -/
  | failed (decision : Decision)
  | overBudget (attempts : ℕ)
  | cancelled
  | exception (error : PyError)
  /-- A failure was counted and reported, and its message could not be read. -/
  | unread (error : PyError)
  | exited

namespace Setting

variable (setting : Setting)

/-- `str(value)`. -/
def str (value : PyValue) : String :=
  match value with
  | .str text => text
  | value => setting.strOf value

/-- `str(first or second or "")`. -/
def strFirst (first second : PyValue) : String :=
  if ChainedRuns.isTrue first then setting.str first
  else if ChainedRuns.isTrue second then setting.str second
  else ""

/-- `_extract_error_message`. -/
def extractErrorMessage (response : Response) : Except PyError String :=
  match response.json with
  | .ok (.dict entries) =>
    let plain := setting.strFirst (getEntry entries "message") (getEntry entries "detail")
    match getEntry entries "error" with
    | .dict error =>
      .ok (setting.redact
        (if Dict.hasKey error "message" then setting.str (getEntry error "message") else plain))
    | _ => .ok (setting.redact plain)
  | _ =>
    match response.text with
    | .ok text => .ok (setting.redact (String.ofList (text.toList.take 300)))
    | .error error => .error error

end Setting

/-- `text or default`. -/
def orText (text default : String) : String :=
  if text = "" then default else text

/-- `_calculate_backoff`, with what is added at random. -/
def calculateBackoff (attempt : ℕ) (jitter : ℚ) : ℚ :=
  min (3 / 5) (max (1 / 5) (1 / 5 * 2 ^ attempt + jitter))

/-- `MAX_RETRIES`. -/
def maxRetries : ℕ := 2

/-! ## A response -/

/-- `float(value)` is too large. -/
def overflowsFloat : PyValue → Bool
  | .int value => 2 ^ 1024 - 2 ^ 970 ≤ value.natAbs
  | _ => false

def firstAnswer (data : Dict String PyValue) : PyValue :=
  match getEntry data "answers" with
  | .dict answers =>
    if ChainedRuns.isTrue (getEntry answers "decision") then getEntry answers "decision"
    else (answers.head?.map Prod.snd).getD .none
  | .list (answer :: _) => answer
  | _ => .none

/-- A probability or the confidence of the answer is too large. -/
def answerOverflows (answer : Dict String PyValue) : Bool :=
  overflowsFloat (getEntry answer "confidence") || match getEntry answer "probabilities" with
    | .dict probabilities => probabilities.any fun entry => overflowsFloat entry.2
    | _ => false

/-- What an attempt leads to. -/
inductive Next where
  | retry (backoff : ℚ)
  | ends (ending : Ending)

section Attempts

variable (setting : Setting) (query : Query) (attempt : ℕ)

def decisionOn (status : Status) (httpStatus : Option ℤ) (reasonCode errorMessage : String) :
    Decision :=
  { status, reasonCode, errorMessage, httpStatus
    attempts := attempt + 1
    truncated := query.sanitized.truncated }

/-- A failure whose message is read after it was counted. -/
def failedReading (status : Status) (reasonCode default : String) (response : Response) : Ending :=
  match setting.extractErrorMessage response with
  | .ok message =>
    .failed (decisionOn query attempt status (some response.statusCode) reasonCode
      (orText message default))
  | .error error => .unread error

/-- A failure that is retried, the message of which is read at first. -/
def retriedReading (status : Status) (reasonCode default : String) (response : Response)
    (backoff : ℚ) : Next :=
  match setting.extractErrorMessage response with
  | .ok message =>
    if attempt = maxRetries then
      .ends (.failed (decisionOn query attempt status (some response.statusCode) reasonCode
        (orText message default)))
    else .retry backoff
  | .error error => .ends (.exception error)

/-- A choice that was not offered is unknown. -/
def selectionOf (choice : String) : String :=
  if query.sanitized.choices ≠ [] ∧ query.sanitized.choices.hasKey choice = false then "unknown"
  else choice

def readAnswer (response : Response) (parseEnd : ℚ) : Ending :=
  let failed (reasonCode errorMessage : String) : Ending :=
    .failed (decisionOn query attempt .invalid (some 200) reasonCode errorMessage)
  match response.json with
  | .error error => failed "MALFORMED_JSON" ("JSON decode error: " ++ error.message)
  | .ok (.dict data) =>
    match firstAnswer data with
    | .dict [] => failed "NO_ANSWER" "No answer returned in response"
    | .dict answer =>
      let choice := pyStrip
        (setting.strFirst (getEntry answer "choice") (getEntry answer "selected"))
      if choice = "" then failed "EMPTY_CHOICE" "Model returned empty choice"
      else
        let selected := selectionOf query choice
        if answerOverflows answer then
          .exception { name := "OverflowError", message := "int too large to convert to float" }
        else if query.budgetDeadline ≤ parseEnd then .overBudget (attempt + 1)
        else
          let decision :=
            { decisionOn query attempt .ok (some 200) "" "" with selected }
          if selected = "unknown" then .failed decision else .chosen decision
    | _ => failed "NO_ANSWER" "No answer returned in response"
  | .ok value =>
    failed "MALFORMED_JSON" ("Response root must be a JSON object, got " ++ setting.typeName value)

/-- A response, when the attempt was not over its budget. -/
def respond (response : Response) (parseEnd jitter : ℚ) : Next :=
  let backoff := calculateBackoff attempt jitter
  let code := toString response.statusCode
  if response.statusCode = 401 ∨ response.statusCode = 403 then
    .ends (failedReading setting query attempt .unavailable "AUTH_FAILED" "Authentication failed"
      response)
  else if response.statusCode = 429 then
    let backoff :=
      match response.retryAfter with
      | some seconds => if 0 < seconds then max backoff seconds else backoff
      | none => backoff
    retriedReading setting query attempt .unavailable "RATE_LIMITED"
      "Rate limit exceeded (HTTP 429)" response backoff
  else if 500 ≤ response.statusCode ∧ response.statusCode < 600 then
    retriedReading setting query attempt .invalid ("HTTP_" ++ code) ("Server error: " ++ code)
      response backoff
  else if response.statusCode ≠ 200 then
    .ends (failedReading setting query attempt .invalid ("HTTP_" ++ code)
      ("Unexpected status: " ++ code) response)
  else .ends (readAnswer setting query attempt response parseEnd)

def attemptResult (posted : Posted) (postEnd parseEnd jitter : ℚ) : Next :=
  match posted with
  | .response response =>
    if query.budgetDeadline ≤ postEnd then .ends (.overBudget (attempt + 1))
    else respond setting query attempt response parseEnd jitter
  | .timeoutException _ =>
    if attempt = maxRetries then
      .ends (.failed (decisionOn query attempt .unavailable none "TIMEOUT" "Request timed out"))
    else .retry (calculateBackoff attempt jitter)
  | .transportError name message =>
    if attempt = maxRetries then
      .ends (.failed (decisionOn query attempt .unavailable none ("NETWORK_ERROR_" ++ name)
        (setting.redact message)))
    else .retry (calculateBackoff attempt jitter)
  | .overBudget => .ends (.overBudget (attempt + 1))
  | .cancelled => .ends .cancelled
  | .raised error => .ends (.exception error)
  | .exited => .ends .exited

end Attempts

/-! ## The end of a query -/

namespace Client

/-- The `finally` of a query. -/
def release (client : Client) (query : Query) (lease : ProbeLease) (phase : Phase) :
    Client × Query :=
  let (lease, breaker) := lease.release client.breaker
  ({ client with breaker }, { query with lease := some lease, phase })

/-- The decision is returned with the state of the breaker. -/
def answer (client : Client) (query : Query) (lease : ProbeLease) (now : ℚ) (decision : Decision) :
    Client × Query :=
  client.release query lease (.returned { decision with breaker := client.breaker.getState now })

/-- `cache.set`, where the answer may be kept. -/
def keep (client : Client) (query : Query) (decision : Decision) (now : ℚ) : JevDecisionCache :=
  match query.cacheKey with
  | some key => client.cache.set key decision now
  | none => client.cache

def settle (client : Client) (setting : Setting) (query : Query) (lease : ProbeLease) (now : ℚ) :
    Ending → Client × Query
  | .chosen decision =>
    let (lease, breaker) := lease.recordSuccess client.breaker now
    let decision := { decision with breaker := breaker.getState now }
    { client with
      metrics := client.metrics.countSuccess
      breaker
      cache := client.keep query decision now }.answer query lease now decision
  | .failed decision =>
    let (lease, breaker) := lease.recordFailure client.breaker now
    { client with metrics := client.metrics.countFailed, breaker }.answer query lease now decision
  | .overBudget attempts =>
    { client with metrics := client.metrics.countFailed }.answer query lease now
      { status := .budgetExceeded
        reasonCode := "DEADLINE_EXCEEDED"
        errorMessage := "Total budget wall-clock limit exceeded"
        attempts := max 1 attempts
        truncated := query.sanitized.truncated }
  | .cancelled =>
    { client with metrics := client.metrics.countFailed }.release query lease .raised
  | .exception error =>
    let (lease, breaker) := lease.recordFailure client.breaker now
    { client with metrics := client.metrics.countFailed, breaker }.answer query lease now
      { status := .invalid
        reasonCode := "EXCEPTION_" ++ error.name
        errorMessage := setting.redact (error.name ++ ": " ++ error.message)
        attempts := 0
        truncated := query.sanitized.truncated }
  | .unread error =>
    let (lease, breaker) := lease.recordFailure client.breaker now
    { client with
      metrics := client.metrics.countFailed.countFailed
      breaker }.answer query lease now
      { status := .invalid
        reasonCode := "EXCEPTION_" ++ error.name
        errorMessage := setting.redact (error.name ++ ": " ++ error.message)
        attempts := 0
        truncated := query.sanitized.truncated }
  | .exited => client.release query lease .raised

/-- The key under which the answer to a request may be kept. -/
def keyOf (setting : Setting) (sanitized : DecisionRequest) : Option String :=
  if setting.isSensitiveRequest sanitized || sanitized.truncated then none
  else
    some (computeCacheKey setting.sortedDumps setting.digest sanitized setting.model
      setting.baseUrl)

/-- A query that is answered before it has a lease. -/
def refuse (client : Client) (query : Query) (now : ℚ) (decision : Decision) : Client × Query :=
  ({ client with metrics := client.metrics.countFailed },
    { query with
      phase := .returned { decision with attempts := 0, breaker := client.breaker.getState now } })

def lookUp (client : Client) (query : Query) (lease : ProbeLease) (now : ℚ) : Client × Query :=
  match query.cacheKey with
  | none => (client, { query with lease := some lease, phase := .ready 0 })
  | some key =>
    match client.cache.get key now with
    | (cache, some cached) =>
      if query.budgetDeadline ≤ now then
        { client with metrics := client.metrics.countFailed, cache }.answer query lease now
          { status := .budgetExceeded
            reasonCode := "DEADLINE_EXCEEDED"
            errorMessage := "Total budget exceeded on cache hit"
            attempts := 0
            truncated := query.sanitized.truncated }
      else
        { client with
          metrics :=
            { client.metrics.countSuccess with cacheHits := client.metrics.cacheHits + 1 }
          cache }.answer query lease now { cached with cacheHit := true }
    | (cache, none) =>
      ({ client with
        metrics := { client.metrics with cacheMisses := client.metrics.cacheMisses + 1 }
        cache }, { query with lease := some lease, phase := .ready 0 })

/-- A lease that is not allowed: the query is left to others. -/
def escalate (client : Client) (query : Query) (lease : ProbeLease) (now : ℚ) : Client × Query :=
  ({ client with
    metrics := { client.metrics with escalateCalls := client.metrics.escalateCalls + 1 } },
    { query with
      lease := some lease
      phase := .returned
        { status := .escalate
          reasonCode := "CIRCUIT_BREAKER_OPEN"
          errorMessage := "Circuit breaker is OPEN (consecutive failures threshold reached); " ++
            "escalating to manual review"
          attempts := 0
          breaker := client.breaker.getState now
          truncated := query.sanitized.truncated } })

def takeLease (client : Client) (setting : Setting) (query : Query) (now : ℚ) : Client × Query :=
  let (breaker, lease) := client.breaker.acquire now
  if lease.allowed then
    { client with breaker }.lookUp { query with cacheKey := keyOf setting query.sanitized } lease now
  else { client with breaker }.escalate query lease now

/-- `query_choice` up to its first await, when it is counted.  It reads the clock before it asks for
a lease, and afterwards. -/
def check (client : Client) (setting : Setting) (query : Query) (checked now : ℚ) :
    Client × Query :=
  if setting.apiKey = "" then
    client.refuse query now
      { status := .disabled
        reasonCode := "NO_API_KEY"
        errorMessage := "API key not configured" }
  else if setting.urlCheck.1 = false then
    client.refuse query now
      { status := .unavailable
        reasonCode :=
          if pyContains setting.urlCheck.2 "SSRF" then "SSRF_BLOCKED" else "UNTRUSTED_HOST"
        errorMessage := setting.urlCheck.2 }
  else if query.budgetDeadline ≤ checked then
    client.refuse query now
      { status := .budgetExceeded
        reasonCode := "DEADLINE_EXCEEDED"
        errorMessage := "Total budget exceeded before request"
        truncated := query.sanitized.truncated }
  else client.takeLease setting query now

def queryOf (setting : Setting) (request : DecisionRequest) (deadline : Option ℚ) (start : ℚ) :
    Query where
  request := request
  sanitized := sanitizeRequest setting.dumps request
  budgetDeadline :=
    match deadline with
    | some deadline => min (start + setting.totalBudget) deadline
    | none => start + setting.totalBudget
  phase := .ready 0

/-- `query_choice` up to its first await. -/
def begin (client : Client) (setting : Setting) (request : DecisionRequest)
    (deadline : Option ℚ) (start checked now : ℚ) : Client × Query :=
  { client with
    metrics := { client.metrics with totalCalls := client.metrics.totalCalls + 1 } }.check setting
      (queryOf setting request deadline start) checked now

/-- The start of an attempt, or the end of the sleep before it. -/
def wake (client : Client) (setting : Setting) (query : Query) (lease : ProbeLease) (attempt : ℕ)
    (now : ℚ) : Woken → Client × Query
  | .slept =>
    if query.budgetDeadline ≤ now then
      client.settle setting query lease now (.overBudget (attempt + 1))
    else (client, { query with phase := .posting attempt })
  | .overBudget => client.settle setting query lease now (.overBudget attempt)
  | .cancelled => client.settle setting query lease now .cancelled
  | .exited => client.settle setting query lease now .exited

/-- The end of `client.post`, and what follows up to the next await. -/
def receive (client : Client) (setting : Setting) (query : Query) (lease : ProbeLease)
    (attempt : ℕ) (posted : Posted) (postEnd now jitter : ℚ) : Client × Query :=
  match attemptResult setting query attempt posted postEnd now jitter with
  | .ends ending => client.settle setting query lease now ending
  | .retry backoff =>
    if query.budgetDeadline ≤ now + backoff then
      client.settle setting query lease now (.overBudget (attempt + 1))
    else (client, { query with phase := .ready (attempt + 1) })

end Client

/-! ## Queries -/

structure System where
  client : Client := {}
  queries : List Query := []

inductive Action where
  /-- `query_choice` is called. -/
  | query (request : DecisionRequest) (deadline : Option ℚ) (start checked now : ℚ)
  | wake (index : ℕ) (woken : Woken) (now : ℚ)
  | posted (index : ℕ) (posted : Posted) (postEnd now jitter : ℚ)

namespace System

def put (system : System) (index : ℕ) (result : Client × Query) : System where
  client := result.1
  queries := system.queries.set index result.2

def step (setting : Setting) (system : System) : Action → Option System
  | .query request deadline start checked now =>
    let result := system.client.begin setting request deadline start checked now
    some { client := result.1, queries := system.queries ++ [result.2] }
  | .wake index woken now =>
    match system.queries[index]? with
    | some query =>
      match query.phase, query.lease with
      | .ready attempt, some lease =>
        some (system.put index (system.client.wake setting query lease attempt now woken))
      | _, _ => none
    | none => none
  | .posted index posted postEnd now jitter =>
    match system.queries[index]? with
    | some query =>
      match query.phase, query.lease with
      | .posting attempt, some lease =>
        some (system.put index
          (system.client.receive setting query lease attempt posted postEnd now jitter))
      | _, _ => none
    | none => none

end System

end SignPulse.JevClient
