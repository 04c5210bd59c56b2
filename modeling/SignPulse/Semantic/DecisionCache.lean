import SignPulse.Foundation.PyText
import SignPulse.Foundation.PyValue
import SignPulse.Semantic.CircuitBreaker

/-!
# Requests, decisions and their cache

What is asked of the semantic client and what it answers, how a request is shortened, and the cache
of the answers.
-/

namespace SignPulse.JevClient

open Foundation

structure DecisionRequest where
  kind : String
  scope : String
  /-- A dictionary. -/
  state : PyValue
  choices : Dict String String
  instructions : String
  configRevision : String
  truncated : Bool := false

inductive Status where
  | ok | unavailable | invalid | disabled | budgetExceeded | escalate
  deriving DecidableEq, Repr

structure Decision where
  status : Status
  selected : String := "unknown"
  reasonCode : String := ""
  httpStatus : Option ℤ := none
  errorMessage : String := ""
  attempts : ℕ := 1
  breaker : BreakerState := .closed
  cacheHit : Bool := false
  truncated : Bool := false
  deriving DecidableEq

/-! ## Shortening a request -/

/-- `MAX_STATE_CHARS`. -/
def maxStateChars : ℕ := 4096

/-- `MAX_FIELD_CHARS`. -/
def maxFieldChars : ℕ := 2048

mutual

/-- `_truncate_val`, and whether something was cut. -/
def truncateVal : PyValue → PyValue × Bool
  | .str text =>
    if maxFieldChars < text.length then
      (.str (String.ofList (text.toList.take maxFieldChars) ++ "... [TRUNCATED]"), true)
    else (.str text, false)
  | .dict entries => (.dict (truncateEntries entries).1, (truncateEntries entries).2)
  | .list items => (.list (truncateItems items).1, (truncateItems items).2)
  | value => (value, false)

def truncateEntries : List (String × PyValue) → List (String × PyValue) × Bool
  | [] => ([], false)
  | (key, value) :: rest =>
    ((key, (truncateVal value).1) :: (truncateEntries rest).1,
      (truncateVal value).2 || (truncateEntries rest).2)

def truncateItems : List PyValue → List PyValue × Bool
  | [] => ([], false)
  | item :: rest =>
    ((truncateVal item).1 :: (truncateItems rest).1, (truncateVal item).2 || (truncateItems rest).2)

end

section Texts

-- `json.dumps` of a value, and with sorted keys and no blanks.
variable (dumps sortedDumps : PyValue → String)

-- The first sixteen digits of a SHA-256.
variable (digest : String → String)

/-- `truncate_state_if_needed`. -/
def truncateStateIfNeeded (state : PyValue) : PyValue × Bool :=
  let truncated := truncateVal state
  (truncated.1, truncated.2 || maxStateChars < (dumps truncated.1).length)

/-- `sanitize_request`. -/
def sanitizeRequest (request : DecisionRequest) : DecisionRequest :=
  let (state, cut) := truncateStateIfNeeded dumps request.state
  let truncated := request.truncated || cut
  if truncated ≠ request.truncated ∨ PyValue.eq state request.state = false then
    { request with state, truncated }
  else request

/-- `compute_cache_key`. -/
def computeCacheKey (request : DecisionRequest) (model baseUrl : String) : String :=
  let choices := PyValue.dict (request.choices.map fun choice => (choice.1, .str choice.2))
  let question :=
    request.kind ++ "|" ++ sortedDumps choices ++ "|" ++ pyStrip request.instructions
  let dimensions :=
    request.scope ++ "|" ++ request.configRevision ++ "|" ++ pyStrip model ++ "|" ++ pyStrip baseUrl
  digest dimensions ++ ":" ++ digest (sortedDumps request.state) ++ ":" ++ digest question

theorem choices_sanitizeRequest (request : DecisionRequest) :
    (sanitizeRequest dumps request).choices = request.choices := by
  simp only [sanitizeRequest]
  split <;> rfl

end Texts

/-! ## The cache -/

/-- The entry that was used last is the last one. -/
structure JevDecisionCache where
  maxsize : ℕ := 500
  ttl : ℚ := 60
  namespaceName : String := ""
  entries : Dict String (ℚ × Decision) := []
  hits : ℕ := 0
  misses : ℕ := 0

namespace JevDecisionCache

/-- `_qualify_key`. -/
def qualifyKey (cache : JevDecisionCache) (key : String) : String :=
  if cache.namespaceName ≠ "" then cache.namespaceName ++ ":" ++ key else key

def get (cache : JevDecisionCache) (key : String) (now : ℚ) : JevDecisionCache × Option Decision :=
  let qualified := cache.qualifyKey key
  match cache.entries.getItem qualified with
  | none => ({ cache with misses := cache.misses + 1 }, none)
  | some (time, decision) =>
    if cache.ttl < now - time then
      ({ cache with
        entries := cache.entries.popItem qualified
        misses := cache.misses + 1 }, none)
    else
      ({ cache with
        entries := cache.entries.popItem qualified ++ [(qualified, time, decision)]
        hits := cache.hits + 1 }, some { decision with cacheHit := true })

def set (cache : JevDecisionCache) (key : String) (decision : Decision) (now : ℚ) :
    JevDecisionCache :=
  let qualified := cache.qualifyKey key
  let kept :=
    if cache.entries.hasKey qualified then cache.entries.popItem qualified
    else if cache.maxsize ≤ cache.entries.length then cache.entries.tail
    else cache.entries
  { cache with entries := kept ++ [(qualified, now, decision)] }

variable {cache : JevDecisionCache} {key : String} {now : ℚ} {decision : Decision}
variable {entry : String × ℚ × Decision}

theorem mem_entries_get (hmem : entry ∈ (cache.get key now).1.entries) : entry ∈ cache.entries := by
  simp only [get] at hmem
  split at hmem
  · exact hmem
  next time found hget =>
    split at hmem
    · exact List.mem_of_mem_filter hmem
    · rcases List.mem_append.mp hmem with hkept | hlast
      · exact List.mem_of_mem_filter hkept
      · rw [List.mem_singleton.mp hlast]
        exact Dict.mem_of_getItem hget

theorem mem_of_get (hget : (cache.get key now).2 = some decision) :
    ∃ (time : ℚ) (stored : Decision), (cache.qualifyKey key, time, stored) ∈ cache.entries ∧
      decision = { stored with cacheHit := true } := by
  simp only [get] at hget
  split at hget
  · cases hget
  next time stored hfound =>
    split at hget
    · cases hget
    · exact ⟨time, stored, Dict.mem_of_getItem hfound, (Option.some.inj hget).symm⟩

theorem mem_entries_set (hmem : entry ∈ (cache.set key decision now).entries) :
    entry ∈ cache.entries ∨ entry = (cache.qualifyKey key, now, decision) := by
  simp only [set] at hmem
  rcases List.mem_append.mp hmem with hkept | hlast
  · left
    split at hkept
    · exact List.mem_of_mem_filter hkept
    · split at hkept
      · exact List.mem_of_mem_tail hkept
      · exact hkept
  · exact .inr (List.mem_singleton.mp hlast)

theorem qualifyKey_get : (cache.get key now).1.qualifyKey = cache.qualifyKey := by
  simp only [get]
  split
  · rfl
  · split <;> rfl

end JevDecisionCache

end SignPulse.JevClient
