import SignPulse.Foundation.Counting
import SignPulse.Semantic.JevClient

/-!
# Outcomes of queries

Every query is counted once, with one outcome, and leaves a lease that it was granted finished; what
it selects is a choice of its own request or `unknown`.
-/

namespace SignPulse.JevClient

open Foundation
open FlowModels (PyError)

def Phase.isEnded : Phase → Bool
  | .returned _ | .raised => true
  | .ready _ | .posting _ => false

def Phase.selected? : Phase → Option String
  | .returned decision => some decision.selected
  | .raised | .ready _ | .posting _ => none

theorem Phase.mem_selected? {phase : Phase} {selected : String} : selected ∈ phase.selected? ↔
      ∃ decision, phase = .returned decision ∧ decision.selected = selected := by
  cases phase with
  | returned decision =>
    constructor
    · intro hselected
      exact ⟨decision, rfl, Option.some.inj hselected⟩
    · rintro ⟨other, hother, rfl⟩
      obtain rfl := Phase.returned.inj hother
      rfl
  | ready attempt => exact ⟨nofun, fun ⟨_, h, _⟩ => nomatch h⟩
  | posting attempt => exact ⟨nofun, fun ⟨_, h, _⟩ => nomatch h⟩
  | raised => exact ⟨nofun, fun ⟨_, h, _⟩ => nomatch h⟩

def DecisionRequest.Allows (request : DecisionRequest) (selected : String) : Prop :=
  selected = "unknown" ∨ selected ∈ request.choices.keyList

instance (request : DecisionRequest) (selected : String) : Decidable (request.Allows selected) :=
  inferInstanceAs (Decidable (_ ∨ _))

/-- What a query does to the client up to its next await or its end. -/
structure Advanced (query : Query) (before : Client) (result : Client × Query) : Prop where
  total : result.1.metrics.totalCalls = before.metrics.totalCalls
  outcomes : result.1.metrics.outcomes =
    before.metrics.outcomes + if result.2.phase.isEnded then 1 else 0
  request : result.2.request = query.request
  sanitized : result.2.sanitized = query.sanitized
  cacheKey : result.2.cacheKey = query.cacheKey
  finished : result.2.phase.isEnded = true →
    ∀ lease : ProbeLease, result.2.lease = some lease → lease.allowed = true → lease.finished = true
  selected : ∀ decision : Decision, result.2.phase = .returned decision →
    query.request.Allows decision.selected
  kept : ∀ entry ∈ result.1.cache.entries, entry ∈ before.cache.entries ∨
    ∃ key, query.cacheKey = some key ∧ entry.1 = before.cache.qualifyKey key ∧
      entry.2.2.selected ∈ query.request.choices.keyList
  qualified : result.1.cache.qualifyKey = before.cache.qualifyKey

/-- Of a cache only the entry of the query is new, and it is one of its choices. -/
abbrev KeptFrom (query : Query) (before after : JevDecisionCache) : Prop :=
  ∀ entry ∈ after.entries, entry ∈ before.entries ∨
    ∃ key, query.cacheKey = some key ∧ entry.1 = before.qualifyKey key ∧
      entry.2.2.selected ∈ query.request.choices.keyList

def Ending.Sound (request : DecisionRequest) : Ending → Prop
  | .chosen decision => decision.selected ∈ request.choices.keyList
  | .failed decision => request.Allows decision.selected
  | .overBudget _ | .cancelled | .exception _ => True
  | .unread _ | .exited => False

section Settling

variable {setting : Setting} {client before : Client} {query : Query} {lease : ProbeLease}
variable {now : ℚ} {decision : Decision} {phase : Phase} {ending : Ending} {attempt : ℕ}

theorem Advanced.release (hphase : phase.isEnded = true)
    (htotal : client.metrics.totalCalls = before.metrics.totalCalls)
    (houtcomes : client.metrics.outcomes = before.metrics.outcomes + 1)
    (hselected : ∀ decision : Decision, phase = .returned decision →
      query.request.Allows decision.selected)
    (hkept : KeptFrom query before.cache client.cache)
    (hqualified : client.cache.qualifyKey = before.cache.qualifyKey) :
    Advanced query before (client.release query lease phase) where
  total := htotal
  outcomes := by
    refine houtcomes.trans ?_
    change _ = _ + if phase.isEnded = true then 1 else 0
    rw [if_pos hphase]
  request := rfl
  sanitized := rfl
  cacheKey := rfl
  finished := by
    intro _ found hfound _
    cases hfound
    exact ProbeLease.finished_finish
  selected := hselected
  kept := hkept
  qualified := hqualified

theorem Advanced.answer (htotal : client.metrics.totalCalls = before.metrics.totalCalls)
    (houtcomes : client.metrics.outcomes = before.metrics.outcomes + 1)
    (hselected : query.request.Allows decision.selected)
    (hkept : KeptFrom query before.cache client.cache)
    (hqualified : client.cache.qualifyKey = before.cache.qualifyKey) :
    Advanced query before (client.answer query lease now decision) := by
  refine Advanced.release rfl htotal houtcomes ?_ hkept hqualified
  intro returned hreturned
  obtain rfl := Phase.returned.inj hreturned
  exact hselected

theorem outcomes_countFailed (metrics : JevMetrics) :
    metrics.countFailed.outcomes = metrics.outcomes + 1 := by
  simp only [JevMetrics.outcomes, JevMetrics.countFailed]
  omega

theorem outcomes_countSuccess (metrics : JevMetrics) :
    metrics.countSuccess.outcomes = metrics.outcomes + 1 := by
  simp only [JevMetrics.outcomes, JevMetrics.countSuccess]
  omega

theorem Advanced.settle (hsound : ending.Sound query.request) :
    Advanced query client (client.settle setting query lease now ending) := by
  have hsame : KeptFrom query client.cache client.cache := fun _ hmem => .inl hmem
  cases ending with
  | chosen decision =>
    refine Advanced.answer rfl (outcomes_countSuccess _) (.inr hsound) ?_ ?_
    · intro entry hmem
      simp only [Client.keep] at hmem
      split at hmem
      next key hkey =>
        rcases JevDecisionCache.mem_entries_set hmem with hold | rfl
        · exact .inl hold
        · exact .inr ⟨key, hkey, rfl, hsound⟩
      · exact .inl hmem
    · unfold Client.keep
      split <;> rfl
  | failed decision =>
    exact Advanced.answer rfl (outcomes_countFailed _) hsound hsame rfl
  | overBudget attempts =>
    exact Advanced.answer rfl (outcomes_countFailed _) (.inl rfl) hsame rfl
  | cancelled =>
    exact Advanced.release rfl rfl (outcomes_countFailed _) (fun _ h => nomatch h) hsame rfl
  | exception error =>
    exact Advanced.answer rfl (outcomes_countFailed _) (.inl rfl) hsame rfl
  | unread error => exact hsound.elim
  | exited => exact hsound.elim

/-- A query that goes on has counted nothing. -/
theorem Advanced.waits {result : Client × Query}
    (htotal : result.1.metrics.totalCalls = client.metrics.totalCalls)
    (houtcomes : result.1.metrics.outcomes = client.metrics.outcomes)
    (hquery : ∃ (lease : Option ProbeLease) (phase : Phase),
      phase.isEnded = false ∧ result.2 = { query with lease, phase })
    (hkept : ∀ entry ∈ result.1.cache.entries, entry ∈ client.cache.entries)
    (hqualified : result.1.cache.qualifyKey = client.cache.qualifyKey) :
    Advanced query client result := by
  obtain ⟨found, phase, hphase, hresult⟩ := hquery
  have hended : result.2.phase.isEnded = false := by rw [hresult, hphase]
  refine ⟨htotal, ?_, by rw [hresult], by rw [hresult], by rw [hresult], ?_, ?_,
    fun entry hmem => .inl (hkept entry hmem), hqualified⟩
  · rw [houtcomes, hended]
    rfl
  · intro htrue
    rw [hended] at htrue
    cases htrue
  · intro decision hreturned
    rw [hreturned] at hended
    cases hended

/-! ## What an attempt leads to -/

/-- The message of a failure can be read where it is counted before. -/
def Readable (setting : Setting) (response : Response) : Prop :=
  response.statusCode = 200 ∨ response.statusCode = 429 ∨
    (500 ≤ response.statusCode ∧ response.statusCode < 600) ∨
    ∃ message, setting.extractErrorMessage response = .ok message

/-- The coroutine is not ended, and the message of a failure can be read. -/
def Posted.Orderly (setting : Setting) (query : Query) (postEnd : ℚ) : Posted → Prop
  | .response received => postEnd < query.budgetDeadline → Readable setting received
  | .exited => False
  | .timeoutException _ | .transportError _ _ | .overBudget | .cancelled | .raised _ => True

instance (setting : Setting) (response : Response) :
    Decidable (∃ message, setting.extractErrorMessage response = .ok message) :=
  match setting.extractErrorMessage response with
  | .ok message => .isTrue ⟨message, rfl⟩
  | .error _ => .isFalse fun ⟨_, hok⟩ => nomatch hok

instance (setting : Setting) (response : Response) : Decidable (Readable setting response) :=
  inferInstanceAs (Decidable (_ ∨ _ ∨ _ ∨ _))

instance (setting : Setting) (query : Query) (postEnd : ℚ) :
    (posted : Posted) → Decidable (posted.Orderly setting query postEnd)
  | .response _ => inferInstanceAs (Decidable (_ → _))
  | .exited => instDecidableFalse
  | .timeoutException _ | .transportError _ _ | .overBudget | .cancelled | .raised _ =>
    instDecidableTrue

def Next.Sound (request : DecisionRequest) : Next → Prop
  | .ends ending => ending.Sound request
  | .retry _ => True

section Sound

variable {response : Response} {status : Status} {reasonCode default : String}
variable {backoff parseEnd postEnd jitter : ℚ} {posted : Posted}

theorem sound_failedReading
    (hread : ∃ message, setting.extractErrorMessage response = .ok message) :
    (failedReading setting query attempt status reasonCode default response).Sound
      query.request := by
  obtain ⟨message, hmessage⟩ := hread
  rw [failedReading, hmessage]
  exact .inl rfl

theorem sound_retriedReading :
    (retriedReading setting query attempt status reasonCode default response backoff).Sound
      query.request := by
  unfold retriedReading
  split
  · split
    · exact .inl rfl
    · trivial
  · trivial

theorem allows_selectionOf {choice : String}
    (hchoices : query.sanitized.choices = query.request.choices)
    (hne : query.request.choices ≠ []) : query.request.Allows (selectionOf query choice) := by
  rw [selectionOf, hchoices]
  split
  · exact .inl rfl
  next hfound =>
    right
    rw [← Dict.hasKey_iff_mem_keyList]
    by_contra hmissing
    exact hfound ⟨hne, Bool.not_eq_true _ ▸ hmissing⟩

variable (hchoices : query.sanitized.choices = query.request.choices)

include hchoices

theorem sound_readAnswer (hne : query.request.choices ≠ []) :
    (readAnswer setting query attempt response parseEnd).Sound query.request := by
  simp only [readAnswer]
  split
  · exact .inl rfl
  · split
    · exact .inl rfl
    · split
      · exact .inl rfl
      · split
        · trivial
        · split
          · trivial
          · split
            next hunknown => exact .inl hunknown
            next hknown => exact (allows_selectionOf hchoices hne).resolve_left hknown
    · exact .inl rfl
  · exact .inl rfl

theorem sound_respond (hne : query.request.choices ≠ []) (hread : Readable setting response) :
    (respond setting query attempt response parseEnd jitter).Sound query.request := by
  have hmessage : response.statusCode ≠ 200 → response.statusCode ≠ 429 →
      ¬(500 ≤ response.statusCode ∧ response.statusCode < 600) →
      ∃ message, setting.extractErrorMessage response = .ok message := by
    intro hok hlimited hserver
    rcases hread with h | h | h | h
    · exact absurd h hok
    · exact absurd h hlimited
    · exact absurd h hserver
    · exact h
  simp only [respond]
  split
  next hdenied =>
    refine sound_failedReading (hmessage ?_ ?_ ?_)
    · omega
    · omega
    · omega
  · split
    · exact sound_retriedReading
    next hlimited =>
      split
      · exact sound_retriedReading
      next hserver =>
        split
        next hother => exact sound_failedReading (hmessage hother hlimited hserver)
        · exact sound_readAnswer hchoices hne

theorem sound_attemptResult
    (hne : query.request.choices ≠ []) (horderly : posted.Orderly setting query postEnd) :
    (attemptResult setting query attempt posted postEnd parseEnd jitter).Sound query.request := by
  cases posted with
  | response response =>
    simp only [attemptResult]
    split
    · trivial
    next hbudget => exact sound_respond hchoices hne (horderly (not_le.mp hbudget))
  | timeoutException message =>
    simp only [attemptResult]
    split
    · exact .inl rfl
    · trivial
  | transportError name message =>
    simp only [attemptResult]
    split
    · exact .inl rfl
    · trivial
  | overBudget => trivial
  | cancelled => trivial
  | raised error => trivial
  | exited => exact horderly.elim

omit hchoices

end Sound

/-! ## Steps of a query -/

theorem Advanced.wake {woken : Woken} (hwoken : woken ≠ .exited) :
    Advanced query client (client.wake setting query lease attempt now woken) := by
  unfold Client.wake
  cases woken with
  | slept =>
    dsimp only
    split
    · exact Advanced.settle trivial
    · exact Advanced.waits rfl rfl ⟨_, _, rfl, rfl⟩ (fun _ hmem => hmem) rfl
  | overBudget => exact Advanced.settle trivial
  | cancelled => exact Advanced.settle trivial
  | exited => exact absurd rfl hwoken

theorem Advanced.receive {posted : Posted} {postEnd jitter : ℚ}
    (hchoices : query.sanitized.choices = query.request.choices)
    (hne : query.request.choices ≠ []) (horderly : posted.Orderly setting query postEnd) :
    Advanced query client
      (client.receive setting query lease attempt posted postEnd now jitter) := by
  have hsound : (attemptResult setting query attempt posted postEnd now jitter).Sound
      query.request := sound_attemptResult hchoices hne horderly
  unfold Client.receive
  split
  next hends =>
    rw [hends] at hsound
    exact Advanced.settle hsound
  · split
    · exact Advanced.settle trivial
    · exact Advanced.waits rfl rfl ⟨_, _, rfl, rfl⟩ (fun _ hmem => hmem) rfl

/-- What the cache holds under the key of the query is a choice of its request. -/
def Query.Trusts (query : Query) (cache : JevDecisionCache) : Prop :=
  ∀ key, query.cacheKey = some key → ∀ entry ∈ cache.entries,
    entry.1 = cache.qualifyKey key → entry.2.2.selected ∈ query.request.choices.keyList

theorem Advanced.lookUp (htrusts : query.Trusts client.cache) :
    Advanced query client (client.lookUp query lease now) := by
  unfold Client.lookUp
  split
  · exact Advanced.waits rfl rfl ⟨_, _, rfl, rfl⟩ (fun _ hmem => hmem) rfl
  next key hkey =>
    have hentries : ∀ entry ∈ (client.cache.get key now).1.entries, entry ∈ client.cache.entries :=
      fun _ => JevDecisionCache.mem_entries_get
    have hqualified : (client.cache.get key now).1.qualifyKey = client.cache.qualifyKey :=
      JevDecisionCache.qualifyKey_get
    split
    next cache cached hget =>
      rw [hget] at hentries hqualified
      have hkept : KeptFrom query client.cache cache := fun entry hmem =>
        .inl (hentries entry hmem)
      split
      · exact Advanced.answer rfl (outcomes_countFailed _) (.inl rfl) hkept hqualified
      · obtain ⟨time, stored, hstored, rfl⟩ := JevDecisionCache.mem_of_get (congrArg Prod.snd hget)
        exact Advanced.answer rfl (outcomes_countSuccess _)
          (.inr (htrusts key hkey _ hstored rfl)) hkept hqualified
    next cache hget =>
      rw [hget] at hentries hqualified
      exact Advanced.waits rfl rfl ⟨_, _, rfl, rfl⟩ hentries hqualified

theorem Advanced.refuse (hlease : query.lease = none) (hselected : decision.selected = "unknown") :
    Advanced query client (client.refuse query now decision) where
  total := rfl
  outcomes := outcomes_countFailed _
  request := rfl
  sanitized := rfl
  cacheKey := rfl
  finished := by
    intro _ lease hfound
    change query.lease = some lease at hfound
    rw [hlease] at hfound
    cases hfound
  selected := by
    intro returned hreturned
    obtain rfl := Phase.returned.inj hreturned
    exact .inl hselected
  kept _ hmem := .inl hmem
  qualified := rfl

theorem Advanced.congr {result : Client × Query} (hadvanced : Advanced query before result)
    (hmetrics : before.metrics = client.metrics) (hcache : before.cache = client.cache) :
    Advanced query client result where
  total := hmetrics ▸ hadvanced.total
  outcomes := hmetrics ▸ hadvanced.outcomes
  request := hadvanced.request
  sanitized := hadvanced.sanitized
  cacheKey := hadvanced.cacheKey
  finished := hadvanced.finished
  selected := hadvanced.selected
  kept := hcache ▸ hadvanced.kept
  qualified := hcache ▸ hadvanced.qualified

theorem Advanced.escalate (hdenied : lease.allowed = false) :
    Advanced query client (client.escalate query lease now) where
  total := rfl
  outcomes := rfl
  request := rfl
  sanitized := rfl
  cacheKey := rfl
  finished := by
    intro _ found hfound hallowed
    cases hfound
    rw [hdenied] at hallowed
    cases hallowed
  selected := by
    intro returned hreturned
    obtain rfl := Phase.returned.inj hreturned
    exact .inl rfl
  kept _ hmem := .inl hmem
  qualified := rfl

/-- A query that begins goes on or ends like any other. -/
theorem Advanced.check {checked : ℚ} (hlease : query.lease = none)
    (htrusts : { query with
      cacheKey := Client.keyOf setting query.sanitized }.Trusts client.cache) :
    ∃ cacheKey, Advanced { query with cacheKey } client
      (client.check setting query checked now) := by
  unfold Client.check
  split
  · exact ⟨_, Advanced.refuse hlease rfl⟩
  · split
    · exact ⟨_, Advanced.refuse hlease rfl⟩
    · split
      · exact ⟨_, Advanced.refuse hlease rfl⟩
      · unfold Client.takeLease
        dsimp only
        split
        · exact ⟨_, Advanced.congr (Advanced.lookUp htrusts) rfl rfl⟩
        next hdenied =>
          exact ⟨_, Advanced.congr (Advanced.escalate (Bool.not_eq_true _ ▸ hdenied)) rfl rfl⟩

end Settling

/-! ## Runs of queries -/

namespace System

/-- Every query is counted, and the cache holds choices of the queries that it was filled by. -/
structure Accounted (system : System) : Prop where
  total : system.client.metrics.totalCalls = system.queries.length
  outcomes : system.client.metrics.outcomes = system.queries.countP fun query => query.phase.isEnded
  chosen : ∀ query ∈ system.queries,
    query.sanitized.choices = query.request.choices ∧ query.request.choices ≠ []
  finished : ∀ query ∈ system.queries, query.phase.isEnded = true →
    ∀ lease : ProbeLease, query.lease = some lease → lease.allowed = true → lease.finished = true
  selected : ∀ query ∈ system.queries, ∀ decision : Decision, query.phase = .returned decision →
    query.request.Allows decision.selected
  cached : ∀ entry ∈ system.client.cache.entries, ∃ query ∈ system.queries, ∃ key,
    query.cacheKey = some key ∧ entry.1 = system.client.cache.qualifyKey key ∧
      entry.2.2.selected ∈ query.request.choices.keyList

def Orderly (setting : Setting) (system : System) : Action → Prop
  | .query request _ _ _ _ =>
    request.choices ≠ [] ∧ ∀ query ∈ system.queries, ∀ key ∈ query.cacheKey,
      Client.keyOf setting (sanitizeRequest setting.dumps request) = some key →
      query.request.choices = request.choices
  | .wake _ woken _ => woken ≠ .exited
  | .posted index posted postEnd _ _ =>
    ∀ query ∈ system.queries[index]?, posted.Orderly setting query postEnd

instance (setting : Setting) (system : System) :
    (action : Action) → Decidable (Orderly setting system action)
  | .query _ _ _ _ _ => inferInstanceAs (Decidable (_ ∧ ∀ _ ∈ system.queries, ∀ _ ∈ _, _))
  | .wake _ _ _ => inferInstanceAs (Decidable (_ ≠ _))
  | .posted index _ _ _ _ => inferInstanceAs (Decidable (∀ _ ∈ system.queries[index]?, _))

variable {setting : Setting} {system next : System} {action : Action}

theorem qualifyKey_injective {cache : JevDecisionCache} {key other : String}
    (heq : cache.qualifyKey key = cache.qualifyKey other) : key = other := by
  unfold JevDecisionCache.qualifyKey at heq
  split at heq
  · have hchars := congrArg String.toList heq
    rw [String.toList_append, String.toList_append (t := other)] at hchars
    exact String.toList_injective (List.append_cancel_left hchars)
  · exact heq

theorem Accounted.put {index : ℕ} {query : Query} {result : Client × Query}
    (haccounted : Accounted system) (hquery : system.queries[index]? = some query)
    (hphase : query.phase.isEnded = false) (hadvanced : Advanced query system.client result) :
    Accounted (system.put index result) := by
  have hmem := List.mem_of_getElem? hquery
  have hcases : ∀ found ∈ (system.put index result).queries,
      found ∈ system.queries ∨ found = result.2 := fun found hfound =>
    (List.mem_or_eq_of_mem_set hfound)
  have hcount := countP_set_add (P := fun query : Query => query.phase.isEnded) hquery result.2
  refine ⟨?_, ?_, ?_, ?_, ?_, ?_⟩
  · exact hadvanced.total.trans (haccounted.total.trans List.length_set.symm)
  · refine hadvanced.outcomes.trans ?_
    rw [haccounted.outcomes]
    change _ = (system.queries.set index result.2).countP _
    cases hended : result.2.phase.isEnded with
    | true =>
      rw [hphase, hended] at hcount
      exact hcount.symm
    | false =>
      rw [hphase, hended] at hcount
      exact hcount.symm
  · intro found hfound
    rcases hcases found hfound with hold | rfl
    · exact haccounted.chosen found hold
    · rw [hadvanced.sanitized, hadvanced.request]
      exact haccounted.chosen query hmem
  · intro found hfound
    rcases hcases found hfound with hold | rfl
    · exact haccounted.finished found hold
    · exact hadvanced.finished
  · intro found hfound
    rcases hcases found hfound with hold | rfl
    · exact haccounted.selected found hold
    · intro decision hreturned
      rw [hadvanced.request]
      exact hadvanced.selected decision hreturned
  · -- the query keeps its request and its key
    have hstays : ∀ old ∈ system.queries, ∃ found ∈ (system.put index result).queries,
        found.cacheKey = old.cacheKey ∧ found.request = old.request := by
      intro old hold
      obtain ⟨position, hposition⟩ := List.mem_iff_getElem?.mp hold
      by_cases hsame : index = position
      · subst hsame
        obtain rfl := Option.some.inj (hquery.symm.trans hposition)
        have hlt := (List.getElem?_eq_some_iff.mp hquery).1
        exact ⟨result.2, List.mem_set hlt _, hadvanced.cacheKey, hadvanced.request⟩
      · refine ⟨old, List.mem_of_getElem? (?_ : (system.queries.set index result.2)[position]? = _),
          rfl, rfl⟩
        rw [List.getElem?_set_ne hsame]
        exact hposition
    intro entry hentry
    change ∃ query ∈ (system.put index result).queries, ∃ key, query.cacheKey = some key ∧
      entry.1 = result.1.cache.qualifyKey key ∧ _
    rw [hadvanced.qualified]
    rcases hadvanced.kept entry hentry with hold | ⟨key, hkey, hname, hchoice⟩
    · obtain ⟨old, hmemOld, key, hkey, hname, hchoice⟩ := haccounted.cached entry hold
      obtain ⟨found, hfound, hfoundKey, hrequest⟩ := hstays old hmemOld
      exact ⟨found, hfound, key, hfoundKey.trans hkey, hname, hrequest ▸ hchoice⟩
    · obtain ⟨found, hfound, hfoundKey, hrequest⟩ := hstays query hmem
      exact ⟨found, hfound, key, hfoundKey.trans hkey, hname, hrequest ▸ hchoice⟩

theorem Accounted.query {request : DecisionRequest} {deadline : Option ℚ}
    {start checked now : ℚ} (haccounted : Accounted system)
    (horderly : Orderly setting system (.query request deadline start checked now)) :
    Accounted
      { client := (system.client.begin setting request deadline start checked now).1
        queries := system.queries ++
          [(system.client.begin setting request deadline start checked now).2] } := by
  obtain ⟨hne, hkeys⟩ := horderly
  have hchoices := choices_sanitizeRequest setting.dumps request
  have hcheck : ∃ cacheKey : Option String,
      Advanced { Client.queryOf setting request deadline start with cacheKey }
        { system.client with
          metrics :=
            { system.client.metrics with totalCalls := system.client.metrics.totalCalls + 1 } }
        (system.client.begin setting request deadline start checked now) := by
    refine Advanced.check rfl ?_
    intro key hkey entry hentry hname
    obtain ⟨query, hquery, other, hother, hentryName, hchoice⟩ := haccounted.cached entry hentry
    obtain rfl := qualifyKey_injective (hname.symm.trans hentryName)
    exact hkeys query hquery _ hother hkey ▸ hchoice
  obtain ⟨cacheKey, hadvanced⟩ := hcheck
  have hcases : ∀ found ∈ system.queries ++
      [(system.client.begin setting request deadline start checked now).2],
      found ∈ system.queries ∨
        found = (system.client.begin setting request deadline start checked now).2 := by
    intro found hfound
    exact (List.mem_append.mp hfound).imp_right List.mem_singleton.mp
  refine ⟨?_, ?_, ?_, ?_, ?_, ?_⟩
  · refine hadvanced.total.trans ?_
    rw [List.length_append]
    exact congrArg (· + 1) haccounted.total
  · refine hadvanced.outcomes.trans ?_
    rw [countP_concat, ← haccounted.outcomes]
    cases (system.client.begin setting request deadline start checked now).2.phase.isEnded with
    | true => rfl
    | false => rfl
  · intro found hfound
    rcases hcases found hfound with hold | rfl
    · exact haccounted.chosen found hold
    · rw [hadvanced.sanitized, hadvanced.request]
      exact ⟨hchoices, hne⟩
  · intro found hfound
    rcases hcases found hfound with hold | rfl
    · exact haccounted.finished found hold
    · exact hadvanced.finished
  · intro found hfound
    rcases hcases found hfound with hold | rfl
    · exact haccounted.selected found hold
    · intro decision hreturned
      rw [hadvanced.request]
      exact hadvanced.selected decision hreturned
  · intro entry hentry
    dsimp only at hentry ⊢
    rw [hadvanced.qualified]
    rcases hadvanced.kept entry hentry with hold | ⟨key, hkey, hname, hchoice⟩
    · obtain ⟨query, hquery, rest⟩ := haccounted.cached entry hold
      exact ⟨query, List.mem_append_left _ hquery, rest⟩
    · exact ⟨_, List.mem_append_right _ List.mem_cons_self, key, hadvanced.cacheKey.trans hkey,
        hname, hadvanced.request ▸ hchoice⟩

theorem Accounted.step (haccounted : Accounted system) (horderly : Orderly setting system action)
    (hstep : system.step setting action = some next) : Accounted next := by
  cases action with
  | query request deadline start checked now =>
    cases hstep
    exact haccounted.query horderly
  | wake index woken now =>
    simp only [System.step] at hstep
    split at hstep
    next query hquery =>
      split at hstep
      next hphase hlease =>
        cases hstep
        refine haccounted.put hquery ?_ (Advanced.wake horderly)
        rw [hphase]
        rfl
      · cases hstep
    · cases hstep
  | posted index posted postEnd now jitter =>
    simp only [System.step] at hstep
    split at hstep
    next query hquery =>
      obtain ⟨hchoices, hne⟩ := haccounted.chosen query (List.mem_of_getElem? hquery)
      split at hstep
      next hphase hlease =>
        cases hstep
        refine haccounted.put hquery ?_
          (Advanced.receive hchoices hne (horderly query (Option.mem_def.mpr hquery)))
        rw [hphase]
        rfl
      · cases hstep
    · cases hstep

/-- A client with an empty cache. -/
def fresh (breaker : CircuitBreaker) (maxsize : ℕ) (ttl : ℚ) (namespaceName : String) : System where
  client := { breaker, cache := { maxsize, ttl, namespaceName } }

theorem accounted_fresh (breaker : CircuitBreaker) (maxsize : ℕ) (ttl : ℚ)
    (namespaceName : String) : Accounted (fresh breaker maxsize ttl namespaceName) where
  total := rfl
  outcomes := rfl
  chosen _ hmem := absurd hmem List.not_mem_nil
  finished _ hmem := absurd hmem List.not_mem_nil
  selected _ hmem := absurd hmem List.not_mem_nil
  cached _ hmem := absurd hmem List.not_mem_nil

/-- In every state of an orderly run the total is the number of the queries, the outcomes are those
of the queries that have ended, a lease that one of these was granted is finished, and what it
selects is a choice of its request or unknown. -/
theorem outcomes_of_run {breaker : CircuitBreaker} {maxsize : ℕ} {ttl : ℚ}
    {namespaceName : String} {actions : List Action} {last : System}
    (hrun : StepRun (step setting) (Orderly setting) (fresh breaker maxsize ttl namespaceName)
      actions last) :
    last.client.metrics.totalCalls = last.queries.length ∧
      last.client.metrics.outcomes = last.queries.countP (fun query => query.phase.isEnded) ∧
      ∀ query ∈ last.queries, query.phase.isEnded = true →
        (∀ lease : ProbeLease, query.lease = some lease → lease.allowed = true →
          lease.finished = true) ∧
        ∀ decision : Decision, query.phase = .returned decision →
          query.request.Allows decision.selected := by
  have haccounted : Accounted last :=
    hrun.invariant _ (fun _ _ _ hinv hallowed hstep => hinv.step hallowed hstep)
      (accounted_fresh breaker maxsize ttl namespaceName)
  exact ⟨haccounted.total, haccounted.outcomes, fun query hquery hended =>
    ⟨haccounted.finished query hquery hended, haccounted.selected query hquery⟩⟩

/-! ## Two queries -/

/-- Texts as `json.dumps` writes them, for choices with one entry. -/
def sampleDumps : PyValue → String
  | .dict [(key, .str text)] => "\x7b\"" ++ key ++ "\":\"" ++ text ++ "\"\x7d"
  | _ => "\x7b\x7d"

def sampleSetting : Setting where
  apiKey := "key"
  baseUrl := "https://api.typesafe.ai/v1"
  model := "jev-1.13.0"
  isSensitiveRequest _ := false
  dumps := sampleDumps
  sortedDumps := sampleDumps
  digest text := text
  strOf _ := ""
  typeName _ := ""
  redact text := text

def sampleRequest : DecisionRequest where
  kind := "result"
  scope := "task"
  state := .dict []
  choices := [("yes", "it worked")]
  instructions := "check"
  configRevision := "1"

def choosing (choice : String) : Posted :=
  .response
    { statusCode := 200
      json := .ok (.dict [("answers", .list [.dict [("choice", .str choice)]])]) }

/-- The second query is answered from the cache. -/
def askedTwice : List Action :=
  [.query sampleRequest none 0 0 0, .wake 0 .slept 1, .posted 0 (choosing "yes") 2 2 0,
    .query sampleRequest none 3 3 3]

theorem outcomes_of_askedTwice :
    (stateAfter (step sampleSetting) (fresh {} 500 60 "") askedTwice).client.metrics.totalCalls =
        (stateAfter (step sampleSetting) (fresh {} 500 60 "") askedTwice).queries.length ∧
      ∀ query ∈ (stateAfter (step sampleSetting) (fresh {} 500 60 "") askedTwice).queries,
        query.phase.isEnded = true → ∀ decision : Decision, query.phase = .returned decision →
          query.request.Allows decision.selected := by
  have hrun : StepRun (step sampleSetting) (Orderly sampleSetting) (fresh {} 500 60 "") askedTwice _ :=
    stepRun_stateAfter (by decide +kernel)
  obtain ⟨htotal, -, hqueries⟩ := outcomes_of_run hrun
  exact ⟨htotal, fun query hquery hended => (hqueries query hquery hended).2⟩

def Offers (_ : System) : Action → Prop
  | .query request _ _ _ _ => request.choices ≠ []
  | .wake _ _ _ | .posted _ _ _ _ _ => True

instance (system : System) : (action : Action) → Decidable (Offers system action)
  | .query _ _ _ _ _ => inferInstanceAs (Decidable (_ ≠ _))
  | .wake _ _ _ | .posted _ _ _ _ _ => instDecidableTrue

/-- The text of the error cannot be decoded in the character set that it names. -/
def undecodable : List Action :=
  [.query sampleRequest none 0 0 0, .wake 0 .slept 1, .posted 0
      (.response
        { statusCode := 401
          json := .error { name := "JSONDecodeError" }
          text := .error { name := "AssertionError" } }) 2 2 0]

/-- Where the kind of one request ends like the instructions of another one begin, both have the same
question. -/
def sharedQuestion : List Action :=
  [.query
      { sampleRequest with
        choices := [("a", "1")]
        instructions := "\x7b\"b\":\"2\"\x7d|check" } none 0 0 0,
    .wake 0 .slept 1, .posted 0 (choosing "a") 2 2 0,
    .query
      { sampleRequest with
        kind := "result|\x7b\"a\":\"1\"\x7d"
        choices := [("b", "2")] } none 3 3 3]

theorem outcomes_of_undecodable :
    (¬ ∀ (setting : Setting) (breaker : CircuitBreaker) (maxsize : ℕ) (ttl : ℚ)
      (namespaceName : String) (actions : List Action) (last : System),
      StepRun (step setting) Offers (fresh breaker maxsize ttl namespaceName) actions last →
      last.client.metrics.outcomes = last.queries.countP fun query => query.phase.isEnded) ∧
    ¬ ∀ (setting : Setting) (breaker : CircuitBreaker) (maxsize : ℕ) (ttl : ℚ)
      (namespaceName : String) (actions : List Action) (last : System),
      StepRun (step setting) Offers (fresh breaker maxsize ttl namespaceName) actions last →
      ∀ query ∈ last.queries, ∀ decision : Decision, query.phase = .returned decision →
        query.request.Allows decision.selected := by
  constructor
  · intro hclaim
    have hrun : StepRun (step sampleSetting) Offers (fresh {} 500 60 "") undecodable _ :=
      stepRun_stateAfter (by decide +kernel)
    have houtcomes := hclaim _ _ _ _ _ _ _ hrun
    revert houtcomes
    decide +kernel
  · intro hclaim
    have hrun : StepRun (step sampleSetting) Offers (fresh {} 500 60 "") sharedQuestion _ :=
      stepRun_stateAfter (by decide +kernel)
    have hallows : ∀ query ∈ (stateAfter (step sampleSetting) (fresh {} 500 60 "")
        sharedQuestion).queries, ∀ selected ∈ query.phase.selected?,
          query.request.Allows selected := by
      intro query hquery selected hselected
      obtain ⟨decision, hphase, rfl⟩ := Phase.mem_selected?.mp hselected
      exact hclaim _ _ _ _ _ _ _ hrun query hquery decision hphase
    revert hallows
    decide +kernel

end System

end SignPulse.JevClient
