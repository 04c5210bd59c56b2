import Mathlib.Algebra.Order.Ring.Unbundled.Rat
import SignPulse.Foundation.Dict
import SignPulse.Foundation.JoinedFields
import SignPulse.Foundation.PyText
import SignPulse.Foundation.StepRun

/-!
# Tickets for streams

A ticket is good for one stream and for a short time.  The store keeps it under a key that joins
the purpose, the resource and the ticket itself, in a cache that is bounded and whose entries
expire.  The tickets that `secrets.token_urlsafe` draws are given with the calls.
-/

namespace SignPulse.StreamTickets

open Foundation

/-! ## The cache -/

/-- The entry that was used last is the last one; with the value is the time when it expires. -/
structure TTLCache (T : Type*) where
  maxsize : ℕ
  ttl : ℚ
  data : Dict String (T × ℚ)
  maxsize_pos : 1 ≤ maxsize
  ttl_pos : 0 < ttl

namespace TTLCache

variable {T : Type*}

def set (cache : TTLCache T) (key : String) (value : T) (now : ℚ) : TTLCache T :=
  let kept :=
    if cache.data.hasKey key then cache.data.popItem key
    else if cache.maxsize ≤ cache.data.length then cache.data.tail
    else cache.data
  { cache with data := kept ++ [(key, value, now + cache.ttl)] }

def pop (cache : TTLCache T) (key : String) (now : ℚ) : TTLCache T × Option T :=
  match cache.data.getItem key with
  | none => (cache, none)
  | some (value, expireAt) =>
    ({ cache with data := cache.data.popItem key }, if expireAt ≤ now then none else some value)

def clear (cache : TTLCache T) : TTLCache T :=
  { cache with data := [] }

variable {cache : TTLCache T} {key : String} {value : T} {now : ℚ} {entry : String × T × ℚ}

theorem mem_data_set (hmem : entry ∈ (cache.set key value now).data) :
    entry ∈ cache.data ∨ entry = (key, value, now + cache.ttl) := by
  simp only [set] at hmem
  rcases List.mem_append.mp hmem with hkept | hlast
  · left
    split at hkept
    · exact List.mem_of_mem_filter hkept
    · split at hkept
      · exact List.mem_of_mem_tail hkept
      · exact hkept
  · exact .inr (List.mem_singleton.mp hlast)

theorem ttl_pop : (cache.pop key now).1.ttl = cache.ttl := by
  unfold pop
  split
  · rfl
  · rfl

/-- What is popped is gone, and with it the only entry of that name. -/
theorem mem_data_pop (hmem : entry ∈ (cache.pop key now).1.data) :
    entry ∈ cache.data ∧ entry.1 ≠ key := by
  unfold pop at hmem
  split at hmem
  · next hnone =>
    refine ⟨hmem, fun heq => ?_⟩
    obtain ⟨found, hfound⟩ := Dict.exists_getItem_of_mem_keyList
      (heq ▸ List.mem_map_of_mem hmem : key ∈ Dict.keyList cache.data)
    cases hnone.symm.trans hfound
  · obtain ⟨hold, hne⟩ := List.mem_filter.mp hmem
    exact ⟨hold, of_decide_eq_true hne⟩

theorem mem_of_pop (hpop : (cache.pop key now).2 = some value) :
    ∃ expireAt, (key, value, expireAt) ∈ cache.data ∧ now < expireAt := by
  unfold pop at hpop
  split at hpop
  · cases hpop
  · next found expireAt hfound =>
    obtain ⟨hlive, hvalue⟩ := Option.ite_none_left_eq_some.mp hpop
    cases hvalue
    exact ⟨expireAt, Dict.mem_of_getItem hfound, not_le.mp hlive⟩

end TTLCache

/-! ## The store -/

structure StreamTicket where
  userId : ℤ
  username : String
  deriving DecidableEq

/-- `_key`. -/
def keyOf (ticket purpose resource : String) : String :=
  purpose ++ "|" ++ resource ++ "|" ++ ticket

abbrev StreamTicketStore := TTLCache StreamTicket

def issue (store : StreamTicketStore) (ticket : String) (holder : StreamTicket)
    (purpose resource : String) (now : ℚ) : StreamTicketStore :=
  store.set (keyOf ticket purpose resource) holder now

def consume (store : StreamTicketStore) (ticket purpose resource : String) (now : ℚ) :
    StreamTicketStore × Option StreamTicket :=
  if pyStrip ticket = "" then (store, none)
  else store.pop (keyOf (pyStrip ticket) purpose resource) now

/-- A ticket with what it was issued for, or accepted for, and the time. -/
structure Record where
  ticket : String
  purpose : String
  resource : String
  holder : StreamTicket
  time : ℚ

/-- The store, and what it has issued and accepted so far. -/
structure State where
  store : StreamTicketStore
  issued : List Record
  accepted : List Record

inductive Event where
  | issue (ticket : String) (holder : StreamTicket) (purpose resource : String) (now : ℚ)
  | consume (ticket purpose resource : String) (now : ℚ)
  | clear

def step (state : State) : Event → Option State
  | .issue ticket holder purpose resource now =>
    some { state with
      store := issue state.store ticket holder purpose resource now
      issued := ⟨ticket, purpose, resource, holder, now⟩ :: state.issued }
  | .consume ticket purpose resource now =>
    let (store, result) := consume state.store ticket purpose resource now
    match result with
    | none => some { state with store }
    | some holder =>
      some { state with
        store
        accepted := ⟨pyStrip ticket, purpose, resource, holder, now⟩ :: state.accepted }
  | .clear => some { state with store := state.store.clear }

def started (maxsize : ℕ) (ttl : ℚ) (hmaxsize : 1 ≤ maxsize) (httl : 0 < ttl) : State :=
  ⟨⟨maxsize, ttl, [], hmaxsize, httl⟩, [], []⟩

/-- The characters of `token_urlsafe`. -/
def urlSafe (c : Char) : Bool := c.isAlphanum || c == '-' || c == '_'

def Drawn (state : State) : Event → Prop
  | .issue ticket _ _ _ _ =>
    ticket.toList.all urlSafe = true ∧ ∀ record ∈ state.issued, record.ticket ≠ ticket
  | _ => True

instance (state : State) (event : Event) : Decidable (Drawn state event) :=
  match event with
  | .issue .. => inferInstanceAs (Decidable (_ ∧ _))
  | .consume .. => isTrue trivial
  | .clear => isTrue trivial

/-- What a ticket is issued for has no bar in its name. -/
def barless : Event → Bool
  | .issue _ _ purpose resource _ => !purpose.toList.contains '|' && !resource.toList.contains '|'
  | _ => true

/-! ## Every accepted ticket -/

/-- The ticket was issued for the same use and to the same holder, and has not expired. -/
def Covers (ttl : ℚ) (given taken : Record) : Prop :=
  given.ticket = taken.ticket ∧ given.purpose = taken.purpose ∧ given.resource = taken.resource ∧
    given.holder = taken.holder ∧ taken.time < given.time + ttl

instance (ttl : ℚ) (given taken : Record) : Decidable (Covers ttl given taken) :=
  inferInstanceAs (Decidable (_ ∧ _))

def Barless (record : Record) : Prop :=
  '|' ∉ record.purpose.toList ∧ '|' ∉ record.resource.toList ∧ '|' ∉ record.ticket.toList

/-- Each entry is a ticket that was issued and not accepted. -/
structure Sound (ttl : ℚ) (state : State) : Prop where
  lasting : state.store.ttl = ttl
  entries : ∀ key holder expireAt, (key, holder, expireAt) ∈ state.store.data →
    ∃ given ∈ state.issued, key = keyOf given.ticket given.purpose given.resource ∧
      given.holder = holder ∧ expireAt = given.time + ttl ∧
        ∀ taken ∈ state.accepted, taken.ticket ≠ given.ticket
  barless : ∀ given ∈ state.issued, Barless given
  distinct : ∀ given ∈ state.issued, ∀ other ∈ state.issued, given.ticket = other.ticket →
    given = other
  covered : ∀ taken ∈ state.accepted, ∃ given ∈ state.issued, Covers ttl given taken
  once : (state.accepted.map Record.ticket).Nodup

theorem toList_keyOf (ticket purpose resource : String) : (keyOf ticket purpose resource).toList =
      joined '|' purpose.toList resource.toList ticket.toList := by
  unfold keyOf joined
  simp

theorem Barless.of_keyOf {given : Record} (hbarless : Barless given)
    {ticket purpose resource : String}
    (hkey : keyOf ticket purpose resource = keyOf given.ticket given.purpose given.resource) :
    given.purpose = purpose ∧ given.resource = resource ∧ given.ticket = ticket := by
  obtain ⟨hpurpose, hresource, hticket⟩ := hbarless
  have hjoined := congrArg String.toList hkey
  rw [toList_keyOf, toList_keyOf] at hjoined
  obtain ⟨hfirst, hsecond, hthird⟩ := joined_inj hpurpose hresource hticket hjoined
  exact ⟨(String.toList_inj.mp hfirst).symm, (String.toList_inj.mp hsecond).symm,
    (String.toList_inj.mp hthird).symm⟩

variable {maxsize : ℕ} {ttl : ℚ} {state next : State}

theorem started_sound (hmaxsize : 1 ≤ maxsize) (httl : 0 < ttl) :
    Sound ttl (started maxsize ttl hmaxsize httl) where
  lasting := rfl
  entries _ _ _ hmem := absurd hmem List.not_mem_nil
  barless _ hmem := absurd hmem List.not_mem_nil
  distinct _ hmem := absurd hmem List.not_mem_nil
  covered _ hmem := absurd hmem List.not_mem_nil
  once := List.nodup_nil

theorem bar_not_urlSafe {text : String} (hsafe : text.toList.all urlSafe = true) :
    '|' ∉ text.toList := by
  intro hmem
  have hbar := List.all_eq_true.mp hsafe '|' hmem
  exact absurd hbar (by decide)

theorem Sound.issue {ticket purpose resource : String} {holder : StreamTicket} {now : ℚ}
    (hsound : Sound ttl state) (hdrawn : Drawn state (.issue ticket holder purpose resource now))
    (hbarless : StreamTickets.barless (.issue ticket holder purpose resource now) = true) :
    Sound ttl { state with
      store := StreamTickets.issue state.store ticket holder purpose resource now
      issued := ⟨ticket, purpose, resource, holder, now⟩ :: state.issued } where
  lasting := hsound.lasting
  entries key found expireAt hmem := by
    rcases TTLCache.mem_data_set hmem with hold | hnew
    · obtain ⟨given, hgiven, hentry⟩ := hsound.entries key found expireAt hold
      exact ⟨given, List.mem_cons_of_mem _ hgiven, hentry⟩
    · obtain ⟨hkey, hnew⟩ := Prod.mk.inj hnew
      obtain ⟨rfl, hexpire⟩ := Prod.mk.inj hnew
      rw [hsound.lasting] at hexpire
      refine ⟨_, List.mem_cons_self, hkey, rfl, hexpire, fun taken htaken => ?_⟩
      -- what was accepted was issued, and this ticket is new
      obtain ⟨given, hgiven, hcovers⟩ := hsound.covered taken htaken
      exact fun heq => hdrawn.2 given hgiven (hcovers.1.trans heq)
  barless given hgiven := by
    rcases List.mem_cons.mp hgiven with rfl | hold
    · obtain ⟨hpurpose, hresource⟩ := Bool.and_eq_true_iff.mp hbarless
      refine ⟨?_, ?_, bar_not_urlSafe hdrawn.1⟩
      · simpa using hpurpose
      · simpa using hresource
    · exact hsound.barless given hold
  distinct given hgiven other hother heq := by
    rcases List.mem_cons.mp hgiven with rfl | hgiven
    · rcases List.mem_cons.mp hother with rfl | hother
      · rfl
      · exact absurd heq.symm (hdrawn.2 other hother)
    · rcases List.mem_cons.mp hother with rfl | hother
      · exact absurd heq (hdrawn.2 given hgiven)
      · exact hsound.distinct given hgiven other hother heq
  covered taken htaken := by
    obtain ⟨given, hgiven, hcovers⟩ := hsound.covered taken htaken
    exact ⟨given, List.mem_cons_of_mem _ hgiven, hcovers⟩
  once := hsound.once

theorem Sound.fewer (hsound : Sound ttl state) {store : StreamTicketStore}
    (httl : store.ttl = state.store.ttl)
    (hfewer : ∀ entry ∈ store.data, entry ∈ state.store.data) :
    Sound ttl { state with store } where
  lasting := httl.trans hsound.lasting
  entries key holder expireAt hmem := hsound.entries key holder expireAt (hfewer _ hmem)
  barless := hsound.barless
  distinct := hsound.distinct
  covered := hsound.covered
  once := hsound.once

theorem Sound.accept {ticket purpose resource : String} {holder : StreamTicket} {now : ℚ}
    (hsound : Sound ttl state)
    (hpop : (state.store.pop (keyOf ticket purpose resource) now).2 = some holder) :
    Sound ttl { state with
      store := (state.store.pop (keyOf ticket purpose resource) now).1
      accepted := ⟨ticket, purpose, resource, holder, now⟩ :: state.accepted } := by
  obtain ⟨expireAt, hmem, hlive⟩ := TTLCache.mem_of_pop hpop
  obtain ⟨given, hgiven, hkey, hholder, hexpire, hnever⟩ := hsound.entries _ _ _ hmem
  obtain ⟨hpurpose, hresource, hticket⟩ := (hsound.barless given hgiven).of_keyOf hkey
  refine ⟨TTLCache.ttl_pop.trans hsound.lasting, fun key found later hentry => ?_,
    hsound.barless, hsound.distinct, fun taken htaken => ?_, ?_⟩
  · obtain ⟨hold, hne⟩ := TTLCache.mem_data_pop hentry
    obtain ⟨other, hother, hthat, hwhose, hwhen, hunused⟩ := hsound.entries key found later hold
    refine ⟨other, hother, hthat, hwhose, hwhen, fun taken htaken => ?_⟩
    rcases List.mem_cons.mp htaken with rfl | htaken
    · -- the entry of the same ticket was the one that is gone
      intro heq
      obtain rfl := hsound.distinct given hgiven other hother (hticket.trans heq)
      exact hne (hthat.trans hkey.symm)
    · exact hunused taken htaken
  · rcases List.mem_cons.mp htaken with rfl | htaken
    · exact ⟨given, hgiven, hticket, hpurpose, hresource, hholder, hexpire ▸ hlive⟩
    · exact hsound.covered taken htaken
  · refine List.nodup_cons.mpr ⟨fun hmem => ?_, hsound.once⟩
    obtain ⟨taken, htaken, heq⟩ := List.mem_map.mp hmem
    exact hnever taken htaken (heq.trans hticket.symm)

theorem Sound.step {event : Event} (hsound : Sound ttl state) (hdrawn : Drawn state event)
    (hbarless : StreamTickets.barless event = true)
    (hstep : StreamTickets.step state event = some next) : Sound ttl next := by
  cases event with
  | issue ticket holder purpose resource now =>
    cases hstep
    exact hsound.issue hdrawn hbarless
  | clear =>
    cases hstep
    exact hsound.fewer rfl fun _ hmem => absurd hmem List.not_mem_nil
  | consume ticket purpose resource now =>
    simp only [StreamTickets.step, consume] at hstep
    by_cases hblank : pyStrip ticket = ""
    · rw [if_pos hblank] at hstep
      cases hstep
      exact hsound
    · rw [if_neg hblank] at hstep
      split at hstep
      · cases hstep
        exact hsound.fewer TTLCache.ttl_pop fun _ hmem => (TTLCache.mem_data_pop hmem).1
      · next holder hpop =>
        cases hstep
        exact hsound.accept hpop

/-- In every run whose tickets are issued for purposes and resources without a bar, each accepted
ticket was issued for this purpose and this resource and has not expired, and no ticket is
accepted twice. -/
theorem accepted_of_run (hmaxsize : 1 ≤ maxsize) (httl : 0 < ttl) {events : List Event}
    (hrun : StepRun step (fun state event => Drawn state event ∧ barless event = true)
      (started maxsize ttl hmaxsize httl) events state) :
    (∀ taken ∈ state.accepted, ∃ given ∈ state.issued, Covers ttl given taken) ∧
      (state.accepted.map Record.ticket).Nodup := by
  have hsound : Sound ttl state := hrun.invariant (Sound ttl)
    (fun _ _ _ hsound hallowed hstep => hsound.step hallowed.1 hallowed.2 hstep)
    (started_sound hmaxsize httl)
  exact ⟨hsound.covered, hsound.once⟩

/-! ## Two streams -/

def holderOne : StreamTicket := ⟨1, "admin"⟩

/-- Of two tickets one is taken in time, and then again, and the other one too late. -/
def takenInTurn : List Event :=
  [.issue "aA-1" holderOne "task_run_ws" "task-a" 0,
    .issue "b_B2" holderOne "task_run_ws" "task-b" 1,
    .consume " aA-1" "task_run_ws" "task-b" 2, .consume " aA-1" "task_run_ws" "task-a" 2,
    .consume "aA-1" "task_run_ws" "task-a" 3, .consume "b_B2" "task_run_ws" "task-b" 61]

def startedTwo : State := started 2 60 (by decide) (by decide)

theorem accepted_of_takenInTurn : (stateAfter step startedTwo takenInTurn).accepted.length = 1 ∧
      (∀ taken ∈ (stateAfter step startedTwo takenInTurn).accepted,
        ∃ given ∈ (stateAfter step startedTwo takenInTurn).issued, Covers 60 given taken) ∧
      ((stateAfter step startedTwo takenInTurn).accepted.map Record.ticket).Nodup :=
  ⟨by decide +kernel, accepted_of_run _ _ (stepRun_stateAfter (by decide +kernel))⟩

/-- The ticket for one resource is taken for another purpose. -/
def takenElsewhere : List Event :=
  [.issue "aA-1" holderOne "task_run_ws" "a|b" 0, .consume "aA-1" "task_run_ws|a" "b" 2]

theorem accepted_elsewhere :
    ¬ ∀ (maxsize : ℕ) (ttl : ℚ) (hmaxsize : 1 ≤ maxsize) (httl : 0 < ttl) (events : List Event)
      (state : State), StepRun step Drawn (started maxsize ttl hmaxsize httl) events state →
        (∀ taken ∈ state.accepted, ∃ given ∈ state.issued, Covers ttl given taken) ∧
          (state.accepted.map Record.ticket).Nodup := by
  intro hall
  have hrun : StepRun step Drawn startedTwo takenElsewhere
      (stateAfter step startedTwo takenElsewhere) := stepRun_stateAfter (by decide +kernel)
  have hcovered := (hall 2 60 _ _ _ _ hrun).1
  exact absurd hcovered (by decide +kernel)

end SignPulse.StreamTickets
