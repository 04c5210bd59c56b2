import SignPulse.Foundation.JoinedFields
import SignPulse.Foundation.JsonText
import SignPulse.Semantic.DecisionCache

/-!
# Keys of the decision cache

Which queries share a key of the cache: `compute_cache_key` of `semantic/cache.py`, for the model
and the URL that `JevClient` settles on when it is made.
-/

namespace SignPulse.CacheKeys

open Foundation
open Foundation.JsonText
open JevClient

/-! ## The model and the URL of a client -/

def defaultBaseUrl : String := "https://api.typesafe.ai/v1"

def defaultModel : String := "jev-1.13.0"

/-- `text.rstrip("/")`. -/
def stripSlashes (text : List Char) : List Char :=
  (text.reverse.dropWhile (· = '/')).reverse

/-- The path of the endpoint is taken off. -/
def dropEndpoint (text : List Char) : List Char :=
  if "/systemone".toList.isSuffixOf text then
    stripSlashes (text.take (text.length - "/systemone".length))
  else text

/-- `normalize_base_url`. -/
def normalizeBaseUrl (url : String) : String :=
  if url = "" then defaultBaseUrl
  else
    let cleaned := dropEndpoint (stripSlashes (trimChars isPySpace url.toList))
    if "/v1".toList.isSuffixOf cleaned then String.ofList cleaned
    else String.ofList (cleaned ++ "/v1".toList)

/-- A value given explicitly, or else that of the environment, or else the default one: a step of
`resolve_jev_env_defaults`. -/
def resolveText (default given fromEnv : String) : String :=
  let resolved := pyStrip given
  if resolved = "" ∨ resolved = default then
    if pyStrip fromEnv ≠ "" then pyStrip fromEnv
    else if resolved = "" then default
    else resolved
  else resolved

/-- The arguments of `JevClient` and the variables of its environment. -/
structure ClientArguments where
  model : String := defaultModel
  baseUrl : String := defaultBaseUrl
  modelVariable : String := ""
  baseUrlVariable : String := ""

namespace ClientArguments

/-- `self.model`. -/
def resolvedModel (arguments : ClientArguments) : String :=
  resolveText defaultModel arguments.model arguments.modelVariable

/-- `self.base_url`. -/
def resolvedBaseUrl (arguments : ClientArguments) : String :=
  normalizeBaseUrl (resolveText defaultBaseUrl arguments.baseUrl arguments.baseUrlVariable)

end ClientArguments

theorem pyStrip_resolveText {default : String} (hdefault : pyStrip default = default)
    (given fromEnv : String) :
    pyStrip (resolveText default given fromEnv) = resolveText default given fromEnv := by
  simp only [resolveText]
  split_ifs
  · exact pyStrip_pyStrip fromEnv
  · exact hdefault
  · exact pyStrip_pyStrip given
  · exact pyStrip_pyStrip given

theorem stripSlashes_begins (text : List Char) : stripSlashes text <+: text := by
  rw [stripSlashes, ← List.reverse_suffix, List.reverse_reverse]
  exact List.dropWhile_suffix _

theorem dropEndpoint_begins (text : List Char) : dropEndpoint text <+: text := by
  unfold dropEndpoint
  split
  · exact (stripSlashes_begins _).trans (List.take_prefix _ _)
  · exact List.prefix_rfl

theorem pyStrip_ofList {text : List Char} (hhead : ∀ c ∈ text.head?, isPySpace c = false)
    (hlast : ∀ c ∈ text.getLast?, isPySpace c = false) :
    pyStrip (String.ofList text) = String.ofList text := by
  rw [pyStrip, String.toList_ofList, trimChars_eq_self hhead hlast]

theorem head_of_prefix {p : Char → Bool} {start text : List Char} (hbegins : start <+: text)
    (htext : ∀ c ∈ text.head?, p c = false) : ∀ c ∈ start.head?, p c = false := by
  obtain ⟨rest, rfl⟩ := hbegins
  cases start with
  | nil =>
    intro c hc
    cases hc
  | cons first start => exact htext

theorem last_of_version {text : List Char} (hsuffix : "/v1".toList <:+ text) :
    ∀ c ∈ text.getLast?, isPySpace c = false := by
  obtain ⟨start, rfl⟩ := hsuffix
  intro c hc
  have hone : (start ++ "/v1".toList).getLast? = some '1' := by
    rw [List.getLast?_append]
    rfl
  obtain rfl := Option.some.inj (hone.symm.trans hc)
  rfl

theorem pyStrip_normalizeBaseUrl (url : String) :
    pyStrip (normalizeBaseUrl url) = normalizeBaseUrl url := by
  unfold normalizeBaseUrl
  split
  · decide
  · dsimp only
    have hcleaned := head_of_prefix
      ((dropEndpoint_begins (stripSlashes (trimChars isPySpace url.toList))).trans
        (stripSlashes_begins _)) (head?_trimChars isPySpace url.toList)
    split
    · next hsuffix =>
      exact pyStrip_ofList hcleaned (last_of_version (List.isSuffixOf_iff_suffix.mp hsuffix))
    · refine pyStrip_ofList ?_ (last_of_version (List.suffix_append _ _))
      cases hlist : dropEndpoint (stripSlashes (trimChars isPySpace url.toList)) with
      | nil =>
        intro c hc
        cases hc
        rfl
      | cons first cleaned =>
        rw [hlist] at hcleaned
        exact hcleaned

/-! ## Queries -/

/-- What a key is computed from. -/
structure Query where
  request : DecisionRequest
  arguments : ClientArguments := {}

/-- The first sixteen digits of a digest. -/
structure HexDigest where
  digest : String → String
  hex : ∀ text, ':' ∉ (digest text).toList

namespace Query

variable (floats : FloatRepr) (hash : HexDigest) (query other : Query)

def choices : PyValue :=
  .dict (query.request.choices.map fun choice => (choice.1, .str choice.2))

/-- `compute_cache_key(request, model=self.model, base_url=self.base_url)`. -/
def cacheKey : String :=
  computeCacheKey (sortedDumps floats) hash.digest query.request query.arguments.resolvedModel
    query.arguments.resolvedBaseUrl

/-- The three texts that are hashed: the scope, the revision, the model and the URL; the state;
the question. -/
def dimensionsText : String :=
  query.request.scope ++ "|" ++ query.request.configRevision ++ "|" ++
    query.arguments.resolvedModel ++ "|" ++ query.arguments.resolvedBaseUrl

def stateText : String :=
  sortedDumps floats query.request.state

def questionText : String :=
  query.request.kind ++ "|" ++ sortedDumps floats query.choices ++ "|" ++
    pyStrip query.request.instructions

/-- The hash is injective on the texts of two queries. -/
structure Distinguishes : Prop where
  dimensions : hash.digest query.dimensionsText = hash.digest other.dimensionsText →
    query.dimensionsText = other.dimensionsText
  state : hash.digest (query.stateText floats) = hash.digest (other.stateText floats) →
    query.stateText floats = other.stateText floats
  question : hash.digest (query.questionText floats) = hash.digest (other.questionText floats) →
    query.questionText floats = other.questionText floats

/-- Nothing that may decide an answer tells two queries apart. -/
structure Same : Prop where
  scope : query.request.scope = other.request.scope
  configRevision : query.request.configRevision = other.request.configRevision
  model : query.arguments.resolvedModel = other.arguments.resolvedModel
  baseUrl : query.arguments.resolvedBaseUrl = other.arguments.resolvedBaseUrl
  kind : query.request.kind = other.request.kind
  instructions : pyStrip query.request.instructions = pyStrip other.request.instructions
  choices : SameJson query.choices other.choices
  state : SameJson query.request.state other.request.state

/-- The separators in a field. -/
def bars (text : String) : ℕ :=
  text.toList.count '|'

/-- The fields before the last separator of a text have equally many of their own. -/
structure SameBars : Prop where
  scope : bars query.request.scope = bars other.request.scope
  configRevision : bars query.request.configRevision = bars other.request.configRevision
  model : bars query.arguments.resolvedModel = bars other.arguments.resolvedModel
  kind : bars query.request.kind = bars other.request.kind

variable {floats hash query other}

theorem cacheKey_eq : query.cacheKey floats hash =
    hash.digest query.dimensionsText ++ ":" ++ hash.digest (query.stateText floats) ++ ":" ++
      hash.digest (query.questionText floats) := by
  have hmodel : pyStrip query.arguments.resolvedModel = query.arguments.resolvedModel :=
    pyStrip_resolveText (by decide) _ _
  have hbaseUrl : pyStrip query.arguments.resolvedBaseUrl = query.arguments.resolvedBaseUrl :=
    pyStrip_normalizeBaseUrl _
  simp only [cacheKey, computeCacheKey]
  rw [hmodel, hbaseUrl]
  rfl

theorem texts_eq_of_cacheKey (hhash : Distinguishes floats hash query other)
    (hkey : query.cacheKey floats hash = other.cacheKey floats hash) :
    query.dimensionsText = other.dimensionsText ∧ query.stateText floats = other.stateText floats ∧
      query.questionText floats = other.questionText floats := by
  rw [cacheKey_eq, cacheKey_eq] at hkey
  have hlists := congrArg String.toList hkey
  simp only [String.toList_append] at hlists
  have hjoined : joined ':' (hash.digest query.dimensionsText).toList
        (hash.digest (query.stateText floats)).toList
        (hash.digest (query.questionText floats)).toList =
      joined ':' (hash.digest other.dimensionsText).toList
        (hash.digest (other.stateText floats)).toList
        (hash.digest (other.questionText floats)).toList := by
    simpa [joined] using hlists
  obtain ⟨hdimensions, hstate, hquestion⟩ :=
    joined_inj (hash.hex _) (hash.hex _) (hash.hex _) hjoined
  exact ⟨hhash.dimensions (String.toList_inj.mp hdimensions),
    hhash.state (String.toList_inj.mp hstate), hhash.question (String.toList_inj.mp hquestion)⟩

theorem toList_dimensionsText : query.dimensionsText.toList =
    query.request.scope.toList ++ '|' :: (query.request.configRevision.toList ++
      '|' :: (query.arguments.resolvedModel.toList ++
        '|' :: query.arguments.resolvedBaseUrl.toList)) := by
  simp [dimensionsText]

theorem toList_questionText : (query.questionText floats).toList =
    query.request.kind.toList ++ '|' :: (valueText floats (sortKeys query.choices) ++
      '|' :: (pyStrip query.request.instructions).toList) := by
  simp [questionText, sortedDumps]

/-- Two queries with one key are the same if and only if the separators are distributed over
their fields in the same way. -/
theorem same_iff_sameBars (hhash : Distinguishes floats hash query other)
    (hkey : query.cacheKey floats hash = other.cacheKey floats hash) :
    Same query other ↔ SameBars query other := by
  obtain ⟨hdimensions, hstate, hquestion⟩ := texts_eq_of_cacheKey hhash hkey
  constructor
  · intro hsame
    exact ⟨congrArg bars hsame.scope, congrArg bars hsame.configRevision,
      congrArg bars hsame.model, congrArg bars hsame.kind⟩
  · intro hbars
    have hfields := congrArg String.toList hdimensions
    rw [toList_dimensionsText, toList_dimensionsText] at hfields
    obtain ⟨hscope, hfields⟩ := eq_of_append_separator_of_count hbars.scope hfields
    obtain ⟨hrevision, hfields⟩ := eq_of_append_separator_of_count hbars.configRevision hfields
    obtain ⟨hmodel, hbaseUrl⟩ := eq_of_append_separator_of_count hbars.model hfields
    have hparts := congrArg String.toList hquestion
    rw [toList_questionText, toList_questionText] at hparts
    obtain ⟨hkind, hparts⟩ := eq_of_append_separator_of_count hbars.kind hparts
    -- the text of the choices ends by itself, so bars inside it are no separators
    obtain ⟨hchoices, hinstructions⟩ :=
      ends (sortKeys query.choices) (delimited_cons rfl) (delimited_cons rfl) hparts
    exact
      { scope := String.toList_inj.mp hscope
        configRevision := String.toList_inj.mp hrevision
        model := String.toList_inj.mp hmodel
        baseUrl := String.toList_inj.mp hbaseUrl
        kind := String.toList_inj.mp hkind
        instructions := String.toList_inj.mp (List.cons.inj hinstructions).2
        choices := hchoices
        state := sortedDumps_inj.mp hstate }

end Query

/-! ## A separator inside a field -/

def fractionTexts : FloatRepr where
  text value := intText value.num ++ '.' :: Nat.toDigits 10 value.den
  injective := by
    intro left right heq
    have hpoint : ∀ value : ℚ, '.' ∉ intText value.num := fun value hmem =>
      absurd (digit_or_minus_of_mem_intText hmem) (by decide)
    obtain ⟨hnum, hden⟩ := eq_of_append_separator (hpoint left) (hpoint right) heq
    exact Rat.ext (intText_injective hnum) (toDigits_injective hden)
  numeric value c hmem := by
    obtain hnum | hrest := List.mem_append.mp hmem
    · exact isNumberChar_of_mem_intText hnum
    · obtain rfl | hden := List.mem_cons.mp hrest
      · rfl
      · simp [isNumberChar, Nat.isDigit_of_mem_toDigits (by decide) (by decide) hden]
  marked value := .inl (List.mem_append_right _ List.mem_cons_self)

/-- SHA-256 of the texts below. -/
def knownDigest : HexDigest where
  digest text :=
    if text = "alice|daily|r1|jev-1.13.0|https://api.typesafe.ai/v1" then "9b9b169db7052a13"
    else if text = "\x7b\"text\":\"done\"\x7d" then "23fb5c3482a5315f"
    else if text = "result|\x7b\"failure\":\"no\",\"success\":\"yes\"\x7d|judge" then
      "38e9528390135c73"
    else ""
  hex text := by
    split_ifs <;> decide

/-- A question about a reply. -/
def replyQuery (scope configRevision : String) : Query where
  request :=
    { kind := "result"
      scope
      state := .dict [("text", .str "done")]
      choices := [("success", "yes"), ("failure", "no")]
      instructions := "judge"
      configRevision }

/-- The same question with its choices in another order. -/
def turnedQuery : Query where
  request :=
    { kind := "result"
      scope := "alice|daily"
      state := .dict [("text", .str "done")]
      choices := [("failure", "no"), ("success", "yes")]
      instructions := " judge\n"
      configRevision := "r1" }

theorem not_same_of_cacheKey : ¬ ∀ (floats : FloatRepr) (hash : HexDigest) (query other : Query),
      Query.Distinguishes floats hash query other →
        query.cacheKey floats hash = other.cacheKey floats hash → Query.Same query other := by
  intro hall
  have hdistinguishes : Query.Distinguishes fractionTexts knownDigest
      (replyQuery "alice|daily" "r1") (replyQuery "alice" "daily|r1") :=
    ⟨fun _ => by decide, fun _ => rfl, fun _ => rfl⟩
  have hkey : (replyQuery "alice|daily" "r1").cacheKey fractionTexts knownDigest =
      (replyQuery "alice" "daily|r1").cacheKey fractionTexts knownDigest := by
    decide
  exact absurd (hall _ _ _ _ hdistinguishes hkey).scope (by decide)

theorem distinguishes_turnedQuery :
    Query.Distinguishes fractionTexts knownDigest (replyQuery "alice|daily" "r1") turnedQuery :=
  ⟨fun _ => by decide, fun _ => rfl, fun _ => by decide⟩

theorem cacheKey_turnedQuery : (replyQuery "alice|daily" "r1").cacheKey fractionTexts knownDigest =
      turnedQuery.cacheKey fractionTexts knownDigest := by
  decide

theorem same_iff_sameBars_turnedQuery :
    knownDigest.digest (turnedQuery.questionText fractionTexts) = "38e9528390135c73" ∧
      (Query.Same (replyQuery "alice|daily" "r1") turnedQuery ↔
        Query.SameBars (replyQuery "alice|daily" "r1") turnedQuery) :=
  ⟨by decide, Query.same_iff_sameBars distinguishes_turnedQuery cacheKey_turnedQuery⟩

end SignPulse.CacheKeys
