import Mathlib.Data.List.TakeWhile
import SignPulse.Flow.FlowModels
import SignPulse.Foundation.IpAddress

/-!
# The identity of a client

`is_trusted_proxy` and `get_client_identifier` of `rate_limit.py`: which proxies are trusted, and
which hop of a request names the client whose bucket is counted.
-/

namespace SignPulse.RateLimiter

open Foundation SignPulse.FlowModels

abbrev Text := List Char

def strip (text : Text) : Text :=
  trimChars isPySpace text

def trusts (ip : IpAddress) (trusted : Text) : Bool :=
  if trusted = [] then false
  else if trusted = ['*'] ∨ trusted = ['a', 'l', 'l'] then true
  else if '/' ∈ trusted then
    match IpNetwork.parse trusted with
    | some network => network.contains ip
    | none => false
  else
    match IpAddress.parse trusted with
    | some target => ip = target.unmapped
    | none => false

/-- `is_trusted_proxy`. -/
def isTrustedProxy (clientHost : Text) (trustedList : List Text) : Bool :=
  if clientHost = [] then false
  else
    match IpAddress.parse (strip clientHost) with
    | some clientIp => trustedList.any fun trusted => trusts clientIp.unmapped (strip trusted)
    | none => false

/-- The peer of a request and its header lines. -/
structure Request where
  host : Option Text
  headers : List (Text × Text)

def forwardedFor : Text := "x-forwarded-for".toList

def realIp : Text := "x-real-ip".toList

def hopsOf (value : Text) : List Text :=
  ((value.splitOn ',').map strip).filter (· ≠ [])

def Request.clientHost (request : Request) : Text :=
  strip (request.host.getD [])

section Identifier

-- `headers.get`, and `settings.trusted_proxies`
variable (get : List (Text × Text) → Text → Option Text) (trusted : List Text)

/-- What the code does when no hop of `X-Forwarded-For` decides. -/
def identifierOfPeer (request : Request) : Text :=
  let realIp := strip ((get request.headers realIp).getD [])
  if (request.clientHost = [] ∨ isTrustedProxy request.clientHost trusted) ∧ realIp ≠ [] then
    realIp.take 64
  else if request.clientHost ≠ [] then request.clientHost.take 64
  else "unknown".toList

/-- `get_client_identifier`. -/
def getClientIdentifier (request : Request) : Except PyError Text :=
  let forwarded := (get request.headers forwardedFor).getD []
  let hops := hopsOf forwarded
  if (request.clientHost = [] ∨ isTrustedProxy request.clientHost trusted) ∧
      strip forwarded ≠ [] then
    if request.clientHost = [] then
      match hops with
      | hop :: _ => .ok (hop.take 64)
      -- a header of commas only
      | [] => .error { name := "IndexError", message := "list index out of range" }
    else
      match hops.reverse.find? (fun hop => !isTrustedProxy hop trusted) with
      | some hop => .ok (hop.take 64)
      | none =>
        match hops with
        | hop :: _ => .ok (hop.take 64)
        | [] => .ok (identifierOfPeer get trusted request)
  else .ok (identifierOfPeer get trusted request)

end Identifier

/-! ## Hops -/

/-- The values of the `X-Forwarded-For` lines. -/
def Request.forwardedLines (request : Request) : List Text :=
  (request.headers.filter fun line => line.1 = forwardedFor).map (·.2)

def Request.hops (request : Request) : List Text :=
  request.forwardedLines.flatMap hopsOf

/-- The hops that only the lines after the first one name. -/
def Request.laterHops (request : Request) : List Text :=
  request.forwardedLines.tail.flatMap hopsOf

def FromTrustedPeer (trusted : List Text) (request : Request) : Prop :=
  isTrustedProxy request.clientHost trusted = true

instance (trusted : List Text) (request : Request) : Decidable (FromTrustedPeer trusted request) :=
  inferInstanceAs (Decidable (_ = true))

/-- `hop` is the rightmost hop that is no trusted proxy, and `after` stands right of it. -/
structure RightmostUntrusted (trusted hops : List Text) (hop : Text) (after : List Text) :
    Prop where
  splits : ∃ before, hops = before ++ hop :: after
  untrusted : isTrustedProxy hop trusted = false
  trustedAfter : ∀ other ∈ after, isTrustedProxy other trusted = true

/-- No line after the first one names an untrusted hop. -/
def FirstLineDecides (trusted : List Text) (request : Request) : Prop :=
  ∀ hop ∈ request.laterHops, isTrustedProxy hop trusted = true

section Hops

variable {get : List (Text × Text) → Text → Option Text} {trusted hops later after : List Text}
variable {hop value : Text} {request other : Request}

theorem isTrustedProxy_nil : isTrustedProxy [] trusted = false := by
  rw [isTrustedProxy, if_pos rfl]

theorem FromTrustedPeer.clientHost_ne_nil (hpeer : FromTrustedPeer trusted request) :
    request.clientHost ≠ [] := by
  intro hnil
  rw [FromTrustedPeer, hnil, isTrustedProxy_nil] at hpeer
  contradiction

/-- Only whitespace is stripped away. -/
theorem all_of_trimChars_eq_nil {p : Char → Bool} {text : List Char}
    (htrim : trimChars p text = []) : ∀ char ∈ text, p char = true := by
  rw [trimChars, List.reverse_eq_nil_iff, List.dropWhile_eq_nil_iff] at htrim
  apply List.dropWhile_eq_nil_iff.1
  cases hdrop : text.dropWhile p with
  | nil => rfl
  | cons first rest =>
    have hfirst := head?_dropWhile p text first (by rw [hdrop]; rfl)
    rw [htrim first (by simp [hdrop])] at hfirst
    contradiction

theorem hopsOf_of_blank (hblank : strip value = []) : hopsOf value = [] := by
  have hspaces := all_of_trimChars_eq_nil hblank
  have hcomma : ',' ∉ value := fun hmem => absurd (hspaces ',' hmem) (by decide)
  rw [hopsOf, List.splitOn_eq_singleton hcomma, List.map_singleton, hblank]
  rfl

theorem RightmostUntrusted.find (hright : RightmostUntrusted trusted hops hop after) :
    hops.reverse.find? (fun hop => !isTrustedProxy hop trusted) = some hop := by
  obtain ⟨before, rfl⟩ := hright.splits
  have hafter : after.reverse.find? (fun hop => !isTrustedProxy hop trusted) = none := by
    apply List.find?_eq_none.2
    intro other hother
    simp [hright.trustedAfter other (List.mem_reverse.1 hother)]
  rw [List.reverse_append, List.reverse_cons, List.append_assoc, List.find?_append, hafter]
  simp [hright.untrusted]

theorem RightmostUntrusted.ne_nil (hright : RightmostUntrusted trusted hops hop after) :
    hops ≠ [] := by
  obtain ⟨before, rfl⟩ := hright.splits
  simp

theorem RightmostUntrusted.of_append (hright : RightmostUntrusted trusted (hops ++ later) hop after)
    (hlater : ∀ other ∈ later, isTrustedProxy other trusted = true) :
    ∃ between, RightmostUntrusted trusted hops hop between := by
  obtain ⟨before, hsplit⟩ := hright.splits
  rcases List.append_eq_append_iff.1 hsplit with ⟨middle, rfl, hmiddle⟩ | ⟨middle, rfl, hrest⟩
  · -- the untrusted hop would stand among the later ones
    have hmem : hop ∈ later := by
      rw [hmiddle]
      exact List.mem_append_right _ List.mem_cons_self
    have htrusted := hlater hop hmem
    rw [hright.untrusted] at htrusted
    contradiction
  · cases middle with
    | nil =>
      have hmem : hop ∈ later := by
        rw [← List.nil_append later, ← hrest]
        exact List.mem_cons_self
      have htrusted := hlater hop hmem
      rw [hright.untrusted] at htrusted
      contradiction
    | cons first between =>
      rw [List.cons_append, List.cons.injEq] at hrest
      obtain ⟨rfl, rfl⟩ := hrest
      refine ⟨between, ⟨before, rfl⟩, hright.untrusted, fun other hother => ?_⟩
      exact hright.trustedAfter other (List.mem_append_left later hother)

theorem RightmostUntrusted.prepend {front : List Text}
    (hright : RightmostUntrusted trusted (hops ++ later) hop after)
    (hlater : ∃ other ∈ later, isTrustedProxy other trusted = false) :
    RightmostUntrusted trusted (front ++ later) hop after := by
  obtain ⟨before, hsplit⟩ := hright.splits
  refine ⟨?_, hright.untrusted, hright.trustedAfter⟩
  rcases List.append_eq_append_iff.1 hsplit with ⟨middle, rfl, rfl⟩ | ⟨middle, rfl, hrest⟩
  · exact ⟨front ++ middle, by rw [List.append_assoc]⟩
  · cases middle with
    | nil => exact ⟨front, by rw [hrest, List.nil_append]⟩
    | cons first between =>
      -- what stands after the untrusted hop is trusted
      obtain ⟨other, hother, huntrusted⟩ := hlater
      rw [List.cons_append, List.cons.injEq] at hrest
      have htrusted := hright.trustedAfter other (by
        rw [hrest.2]
        exact List.mem_append_right between hother)
      rw [huntrusted] at htrusted
      contradiction

/-! ## The identifier -/

/-- `headers.get` answers with the first line of a name. -/
def GetsFirstLine (get : List (Text × Text) → Text → Option Text) : Prop :=
  ∀ headers name, get headers name = (headers.find? fun line => line.1 = name).map (·.2)

theorem GetsFirstLine.forwarded (hget : GetsFirstLine get) (request : Request) :
    get request.headers forwardedFor = request.forwardedLines.head? := by
  rw [hget, Request.forwardedLines, List.head?_map, List.head?_filter]

theorem getClientIdentifier_of_rightmost (hpeer : FromTrustedPeer trusted request)
    (hright : RightmostUntrusted trusted
      (hopsOf ((get request.headers forwardedFor).getD [])) hop after) :
    getClientIdentifier get trusted request = .ok (hop.take 64) := by
  have hstrip : strip ((get request.headers forwardedFor).getD []) ≠ [] :=
    fun hblank => hright.ne_nil (hopsOf_of_blank hblank)
  unfold getClientIdentifier
  rw [if_pos ⟨Or.inr hpeer, hstrip⟩, if_neg hpeer.clientHost_ne_nil, hright.find]

theorem getClientIdentifier_of_firstLine (hget : GetsFirstLine get)
    (hpeer : FromTrustedPeer trusted request)
    (hright : RightmostUntrusted trusted request.hops hop after)
    (hfirst : FirstLineDecides trusted request) :
    getClientIdentifier get trusted request = .ok (hop.take 64) := by
  unfold Request.hops at hright
  unfold FirstLineDecides Request.laterHops at hfirst
  cases hlines : request.forwardedLines with
  | nil =>
    rw [hlines] at hright
    exact absurd rfl hright.ne_nil
  | cons first rest =>
    rw [hlines, List.flatMap_cons] at hright
    rw [hlines, List.tail_cons] at hfirst
    obtain ⟨between, hbetween⟩ := hright.of_append hfirst
    apply getClientIdentifier_of_rightmost hpeer
    rwa [hget.forwarded, hlines, List.head?_cons, Option.getD_some]

def Request.withFirstLine (request : Request) (first : Text) : Request where
  host := request.host
  headers := (forwardedFor, first) ::
    request.forwardedLines.tail.map fun line => (forwardedFor, line)

theorem forwardedLines_withFirstLine (request : Request) (first : Text) :
    (request.withFirstLine first).forwardedLines = first :: request.forwardedLines.tail := by
  have hkept (lines : List Text) : ((lines.map fun line => (forwardedFor, line)).filter
      fun line => line.1 = forwardedFor).map (·.2) = lines := by
    induction lines with
    | nil => rfl
    | cons line rest ih => simpa using ih
  calc (request.withFirstLine first).forwardedLines
      = first :: ((request.forwardedLines.tail.map fun line => (forwardedFor, line)).filter
          fun line => line.1 = forwardedFor).map (·.2) := by
        simp [Request.forwardedLines, Request.withFirstLine]
    _ = first :: request.forwardedLines.tail := by rw [hkept]

theorem getClientIdentifier_withFirstLine (hget : GetsFirstLine get)
    (hpeer : FromTrustedPeer trusted request) {name : Text} (hhops : hopsOf name = [name])
    (hparse : IpAddress.parse (strip name) = none) :
    getClientIdentifier get trusted (request.withFirstLine name) = .ok (name.take 64) := by
  have huntrusted : isTrustedProxy name trusted = false := by
    rw [isTrustedProxy, hparse]
    exact ite_self false
  have hright : RightmostUntrusted trusted [name] name [] := ⟨⟨[], rfl⟩, huntrusted, nofun⟩
  have hother : FromTrustedPeer trusted (request.withFirstLine name) := hpeer
  refine @getClientIdentifier_of_rightmost get trusted [] name _ hother ?_
  rwa [hget.forwarded, forwardedLines_withFirstLine, List.head?_cons, Option.getD_some, hhops]

theorem exists_other_identifier (hget : GetsFirstLine get) (hpeer : FromTrustedPeer trusted request)
    (hright : RightmostUntrusted trusted request.hops hop after)
    (hlater : ¬ FirstLineDecides trusted request) :
    ∃ other, FromTrustedPeer trusted other ∧
      other.forwardedLines.tail = request.forwardedLines.tail ∧
      RightmostUntrusted trusted other.hops hop after ∧
      getClientIdentifier get trusted other ≠ getClientIdentifier get trusted request := by
  have huntrusted : ∃ other ∈ request.laterHops, isTrustedProxy other trusted = false := by
    by_contra hnone
    apply hlater
    intro other hother
    by_contra hfalse
    exact hnone ⟨other, hother, Bool.eq_false_iff.2 hfalse⟩
  have hsame (first : Text) :
      RightmostUntrusted trusted (request.withFirstLine first).hops hop after := by
    rw [Request.hops, forwardedLines_withFirstLine, List.flatMap_cons]
    cases hlines : request.forwardedLines with
    | nil =>
      rw [Request.hops, hlines] at hright
      exact absurd rfl hright.ne_nil
    | cons line rest =>
      rw [Request.hops, hlines, List.flatMap_cons] at hright
      rw [Request.laterHops, hlines] at huntrusted
      exact hright.prepend huntrusted
  have htail (first : Text) : (request.withFirstLine first).forwardedLines.tail =
      request.forwardedLines.tail := by
    rw [forwardedLines_withFirstLine, List.tail_cons]
  have hx : getClientIdentifier get trusted (request.withFirstLine ['x']) = .ok ['x'] :=
    getClientIdentifier_withFirstLine hget hpeer (by decide) (by decide)
  have hy : getClientIdentifier get trusted (request.withFirstLine ['y']) = .ok ['y'] :=
    getClientIdentifier_withFirstLine hget hpeer (by decide) (by decide)
  by_cases hid : getClientIdentifier get trusted request = .ok ['x']
  · refine ⟨request.withFirstLine ['y'], hpeer, htail _, hsame _, ?_⟩
    rw [hid, hy]
    exact fun heq => absurd heq (by decide)
  · refine ⟨request.withFirstLine ['x'], hpeer, htail _, hsame _, ?_⟩
    rw [hx]
    exact Ne.symm hid

end Hops

/-- The identifier depends on the hops from the rightmost untrusted one on, for all requests whose
later lines are those of a request, if and only if these name trusted proxies alone; and two
requests of this kind with the same such hops have the same identifier. -/
theorem identifier_of_rightmost {get : List (Text × Text) → Text → Option Text}
    {trusted after : List Text} {hop : Text} {request : Request} (hget : GetsFirstLine get)
    (hpeer : FromTrustedPeer trusted request)
    (hright : RightmostUntrusted trusted request.hops hop after) :
    ((∀ other, FromTrustedPeer trusted other →
        other.forwardedLines.tail = request.forwardedLines.tail →
        RightmostUntrusted trusted other.hops hop after →
        getClientIdentifier get trusted other = getClientIdentifier get trusted request) ↔
      FirstLineDecides trusted request) ∧
      ∀ other, FirstLineDecides trusted request → FromTrustedPeer trusted other →
        RightmostUntrusted trusted other.hops hop after → FirstLineDecides trusted other →
        getClientIdentifier get trusted other = getClientIdentifier get trusted request := by
  refine ⟨⟨?_, ?_⟩, ?_⟩
  · intro hsame
    by_contra hlater
    obtain ⟨other, hother, htail, hends, hne⟩ := exists_other_identifier hget hpeer hright hlater
    exact hne (hsame other hother htail hends)
  · intro hfirst other hother htail hends
    have hdecides : FirstLineDecides trusted other := by
      rwa [FirstLineDecides, Request.laterHops, htail]
    rw [getClientIdentifier_of_firstLine hget hpeer hright hfirst,
      getClientIdentifier_of_firstLine hget hother hends hdecides]
  · intro other hfirst hother hends hdecides
    rw [getClientIdentifier_of_firstLine hget hpeer hright hfirst,
      getClientIdentifier_of_firstLine hget hother hends hdecides]

def firstLine (headers : List (Text × Text)) (name : Text) : Option Text :=
  (headers.find? fun line => line.1 = name).map (·.2)

theorem getsFirstLine_firstLine : GetsFirstLine firstLine :=
  fun _ _ => rfl

def loopback : List Text := ["127.0.0.1".toList, "::1".toList]

/-- A request through a proxy that adds a line of its own. -/
def proxiedRequest (lines : List String) : Request where
  host := some "127.0.0.1".toList
  headers := lines.map fun line => (forwardedFor, line.toList)

theorem identifier_of_rightmost_proxied :
    (∀ other, FromTrustedPeer loopback other →
        other.forwardedLines.tail = (proxiedRequest ["9.9.9.9, 5.6.7.8, ::1"]).forwardedLines.tail →
        RightmostUntrusted loopback other.hops "5.6.7.8".toList ["::1".toList] →
        getClientIdentifier firstLine loopback other =
          getClientIdentifier firstLine loopback (proxiedRequest ["9.9.9.9, 5.6.7.8, ::1"])) ↔
      FirstLineDecides loopback (proxiedRequest ["9.9.9.9, 5.6.7.8, ::1"]) :=
  (identifier_of_rightmost getsFirstLine_firstLine (by decide)
    ⟨⟨["9.9.9.9".toList], by decide⟩, by decide, by decide⟩).1

/-- A client sends a line of its own, and the proxy appends another: the client chooses its
bucket. -/
theorem identifier_of_spoofed_line :
    ¬ ∀ (trusted : List Text) (request other : Request) (hop : Text) (after : List Text),
      FromTrustedPeer trusted request → FromTrustedPeer trusted other →
      RightmostUntrusted trusted request.hops hop after →
      RightmostUntrusted trusted other.hops hop after →
      getClientIdentifier firstLine trusted request =
        getClientIdentifier firstLine trusted other := by
  intro hclaim
  have hsame := hclaim loopback (proxiedRequest ["1.1.1.1", "5.6.7.8"])
    (proxiedRequest ["9.9.9.9", "5.6.7.8"]) "5.6.7.8".toList [] (by decide)
    (by decide) ⟨⟨["1.1.1.1".toList], by decide⟩, by decide, nofun⟩
    ⟨⟨["9.9.9.9".toList], by decide⟩, by decide, nofun⟩
  revert hsame
  decide

end SignPulse.RateLimiter
