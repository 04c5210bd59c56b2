import SignPulse.Foundation.StepRun
import SignPulse.Plugin.StorageClient

/-!
# What a client's reads owe its writes

A ledger keeps for each key what was said of it last: a value with the time from which it
counts as expired, or that it was deleted.  A read answers from the ledger as long as the
legacy namespaces hold nothing that it must not show.
-/

namespace SignPulse.Plugin.ClientLedger

open Foundation

inductive Request where
  | get (key : String)
  | mget (keys : List String)
  | getAll (start : String)
  | set (key : String) (value : PyValue) (ttl : Option ℚ)
  | mset (mapping : List (String × PyValue)) (ttl : Option ℚ)
  | increment (key : String) (amount default : ℤ) (ttl : Option ℚ)
  | delete (key : String)
  | clear

/-- The values that a read found, or the number that an increment returns. -/
inductive Response where
  | values (found : Dict String (Option PyValue))
  | number (result : ℤ)
  | done

/-- What was said last of each key. -/
abbrev Ledger := String → Option Row

def put (ledger : Ledger) (key : String) (row : Option Row) : Ledger :=
  fun other => if other = key then row else ledger other

section Client

variable (clock : ℕ → ℚ) (client : StorageClient)

def perform (session : Session) : Request → Response × Session
  | .get key =>
    let answer := client.migrateKey clock session key
    (.values [(key, answer.1)], answer.2)
  | .mget keys =>
    let answer := client.mget clock keys ([], session)
    (.values answer.1, answer.2)
  | .getAll start =>
    let answer := client.migrateAll clock session start
    (.values (answer.1.map fun item => (item.1, some item.2)), answer.2)
  | .set key value ttl => (.done, client.set clock session key value ttl)
  | .mset mapping ttl => (.done, client.mset clock session mapping ttl)
  | .increment key amount default ttl =>
    let answer := client.incrementMigrating clock session key amount default ttl
    (.number answer.1, answer.2)
  | .delete key => (.done, client.deleteAll session key)
  | .clear => (.done, client.clearAll session)

/-- The expiry that an increment at some time should leave. -/
def expiryAfter (now : ℚ) (row : Option Row) (ttl : Option ℚ) : Option ℚ :=
  match ttl with
  | some _ => expiryOf now ttl
  | none => (row.filter fun row => !row.expired now).bind Row.expiresAt

/-- What a request says of the keys; an increment says what it returned. -/
def record (ledger : Ledger) (session after : Session) (request : Request)
    (response : Response) : Ledger :=
  match request, response with
  | .set key value ttl, _ => put ledger key (some ⟨value, expiryOf (session.now clock) ttl⟩)
  | .mset mapping ttl, _ => mapping.foldl (fun ledger item =>
    put ledger item.1 (some ⟨item.2, expiryOf (session.now clock) ttl⟩)) ledger
  | .increment key _ _ ttl, .number result =>
    put ledger key (some ⟨.int result, expiryAfter (clock (after.readings - 1)) (ledger key) ttl⟩)
  | .delete key, _ => put ledger key none
  | .clear, _ => fun _ => none
  | _, _ => ledger

/-- The client's session and the ledger beside it. -/
structure Watched where
  session : Session
  ledger : Ledger

def step (state : Watched) (request : Request) : Option Watched :=
  let answer := perform clock client state.session request
  some ⟨answer.2, record clock state.ledger state.session answer.2 request answer.1⟩

def firstRow (table : Table) (key : String) (spaces : List String) : Option Row :=
  spaces.findSome? fun space => Dict.getItem table (space, key)

/-- The ledger of a client that opens a table: its own rows, or else those of the first legacy
namespace that has one. -/
def openLedger (table : Table) : Ledger :=
  fun key => (Dict.getItem table (client.space, key)).or
    (firstRow table key client.legacyNamespaces)

/-- Values that are read stand in the ledger and had not expired when the read began; an
increment without `ttl` keeps the expiry that is not over when the store adds the amount. -/
structure Right (state : Watched) (request : Request) : Prop where
  reads : ∀ found, (perform clock client state.session request).1 = .values found →
    ∀ key value, (key, some value) ∈ found →
      ∃ row, state.ledger key = some row ∧ row.value = value ∧
        row.expired (state.session.now clock) = false
  expiries : ∀ key amount default, request = .increment key amount default none →
    ∀ row, state.ledger key = some row →
      row.expired (clock ((perform clock client state.session request).2.readings - 1)) = false →
      ∃ after, Dict.getItem (perform clock client state.session request).2.table
        (client.space, key) = some after ∧ after.expiresAt = row.expiresAt

/-! ## The condition -/

def noneStanding (table : Table) (key : String) : ℕ → List String → Bool
  | _, [] => true
  | reading, space :: rest =>
    (standing table (clock reading) space key).isNone && noneStanding table key (reading + 1) rest

/-- Where the namespace has a row of the key that has expired, no legacy row stands.  Where it
has none, either that, or the first legacy row has no expiry. -/
def keySound (session : Session) (key : String) : Bool :=
  let hidden := noneStanding clock session.table key (session.readings + 1) client.legacyNamespaces
  match Dict.getItem session.table (client.space, key) with
  | some row => !row.expired (session.now clock) || hidden
  | none =>
    ((firstRow session.table key client.legacyNamespaces).any fun row =>
      row.expiresAt.isNone) || hidden

def mgetSound : List String → Session → Bool
  | [], _ => true
  | key :: rest, session =>
    keySound clock client session key && mgetSound rest (client.migrateKey clock session key).2

/-- Every key that is read is sound, and an increment without `ttl` finds no expiry, or else
the default. -/
def sound (session : Session) : Request → Bool
  | .get key => keySound clock client session key
  | .mget keys => mgetSound clock client keys session
  | .getAll start => (Dict.keyList session.table).all fun key =>
    !likePrefix start key.2 || keySound clock client session key.2
  | .increment key _ default ttl =>
    keySound clock client session key &&
      (ttl.isSome || (standing session.table (session.now clock) client.space key).all
        fun row => row.expiresAt.isNone || !differs row.value default)
  | _ => true

end Client

/-! ## One read of the store -/

/-- Two tables with the same rows of one key. -/
def Agree (key : String) (table other : Table) : Prop :=
  ∀ space, Dict.getItem table (space, key) = Dict.getItem other (space, key)

/-- Every row of the key in the first table is one of the second. -/
def Fewer (key : String) (table other : Table) : Prop :=
  ∀ space row, Dict.getItem table (space, key) = some row →
    Dict.getItem other (space, key) = some row

theorem Agree.fewer {key : String} {table other : Table} (hagree : Agree key table other) :
    Fewer key table other :=
  fun space _ hrow => (hagree space).symm.trans hrow

theorem Fewer.trans {key : String} {table other third : Table} (hfewer : Fewer key table other)
    (hthen : Fewer key other third) : Fewer key table third :=
  fun space row hrow => hthen space row (hfewer space row hrow)

theorem fst_get (table : Table) (now : ℚ) (space key : String) :
    (PluginStore.get table now space key).1 = (standing table now space key).map Row.value := by
  unfold PluginStore.get standing
  cases hrow : Dict.getItem table (space, key) with
  | none => rfl
  | some row =>
    dsimp only
    rw [Option.filter_some]
    cases row.expired now <;> rfl

theorem getItem_get (table : Table) (now : ℚ) (space key : String) (other : String × String) :
    Dict.getItem (PluginStore.get table now space key).2 other =
      if other = (space, key) then standing table now space key
      else Dict.getItem table other := by
  unfold PluginStore.get standing
  by_cases heq : other = (space, key)
  · rw [if_pos heq, heq]
    cases hrow : Dict.getItem table (space, key) with
    | none => exact hrow
    | some row =>
      dsimp only
      rw [Option.filter_some]
      cases hexpired : row.expired now with
      | false => exact hrow
      | true =>
        rw [if_pos rfl, getItem_deleteKeys, if_pos ⟨rfl, List.mem_singleton_self key⟩]
        rfl
  · rw [if_neg heq]
    cases Dict.getItem table (space, key) with
    | none => rfl
    | some row =>
      dsimp only
      split
      · rw [getItem_deleteKeys, if_neg]
        rintro ⟨hspace, hkey⟩
        exact heq (Prod.ext hspace (List.mem_singleton.mp hkey))
      · rfl

theorem standing_eq_some {table : Table} {now : ℚ} {space key : String} {row : Row} :
    standing table now space key = some row ↔
      Dict.getItem table (space, key) = some row ∧ row.expired now = false := by
  rw [standing, Option.filter_eq_some_iff]
  cases row.expired now <;> simp

theorem fewer_get (table : Table) (now : ℚ) (space key other : String) :
    Fewer other (PluginStore.get table now space key).2 table := by
  intro found row hrow
  rw [getItem_get] at hrow
  split at hrow
  · next heq =>
    rw [heq]
    exact (standing_eq_some.mp hrow).1
  · exact hrow

theorem agree_get_of_ne (table : Table) (now : ℚ) (space : String) {key other : String}
    (hne : other ≠ key) : Agree other (PluginStore.get table now space key).2 table := by
  intro found
  rw [getItem_get, if_neg]
  exact fun heq => hne (Prod.ext_iff.mp heq).2

theorem getItem_set (table : Table) (now : ℚ) (space key : String) (value : PyValue)
    (ttl : Option ℚ) (other : String × String) :
    Dict.getItem (PluginStore.set table now space key value ttl) other =
      if other = (space, key) then some ⟨value, expiryOf now ttl⟩
      else Dict.getItem table other := by
  have hset : PluginStore.set table now space key value ttl =
      Dict.setItem table (space, key) ⟨value, expiryOf now ttl⟩ := rfl
  rw [hset]
  split
  · next heq => rw [heq, Dict.getItem_setItem_self]
  · next hne => exact Dict.getItem_setItem_of_ne _ _ hne

/-! ## The legacy namespaces, one after another -/

section Legacy

variable {clock : ℕ → ℚ} {client : StorageClient} {key : String}

variable {table : Table} {spaces : List String} {space : String} {session : Session}

theorem noneStanding_fewer {other : Table} (hfewer : Fewer key table other) {reading : ℕ}
    (hnone : noneStanding clock other key reading spaces = true) :
    noneStanding clock table key reading spaces = true := by
  induction spaces generalizing reading with
  | nil => rfl
  | cons space rest ih =>
    obtain ⟨hhead, hrest⟩ := Bool.and_eq_true_iff.mp hnone
    refine Bool.and_eq_true_iff.mpr ⟨?_, ih hrest⟩
    rw [Option.isNone_iff_eq_none] at hhead ⊢
    by_contra hsome
    obtain ⟨row, hrow⟩ := Option.ne_none_iff_exists'.mp hsome
    obtain ⟨hget, hfresh⟩ := standing_eq_some.mp hrow
    cases hhead.symm.trans (standing_eq_some.mpr ⟨hfewer space row hget, hfresh⟩)

theorem expired_of_noneStanding (hclock : Monotone clock) {reading last : ℕ}
    (hnone : noneStanding clock table key reading spaces = true)
    (hlast : reading + spaces.length ≤ last) :
    ∀ space ∈ spaces, ∀ row, Dict.getItem table (space, key) = some row →
      row.expired (clock last) = true := by
  induction spaces generalizing reading with
  | nil => exact fun _ hmem => absurd hmem List.not_mem_nil
  | cons first rest ih =>
    obtain ⟨hhead, hrest⟩ := Bool.and_eq_true_iff.mp hnone
    rw [List.length_cons] at hlast
    intro space hmem row hrow
    obtain rfl | hmem := List.mem_cons.mp hmem
    · have hexpired : row.expired (clock reading) = true := by
        by_contra hfresh
        rw [standing_eq_some.mpr ⟨hrow, Bool.eq_false_iff.mpr hfresh⟩] at hhead
        cases hhead
      exact Row.expired_mono (hclock (by omega)) hexpired
    · exact ih hrest (by omega) space hmem row hrow

theorem migrateLegacy_cons_none {rest : List String}
    (hvalue : (session.get clock space key).1 = none) :
    client.migrateLegacy clock key (space :: rest) session =
      client.migrateLegacy clock key rest (session.get clock space key).2 := by
  rw [StorageClient.migrateLegacy]
  split
  · next value after hget => cases (congrArg Prod.fst hget).symm.trans hvalue
  · next after hget => rw [hget]

theorem migrateLegacy_cons_some {rest : List String} {value : PyValue}
    (hvalue : (session.get clock space key).1 = some value) :
    client.migrateLegacy clock key (space :: rest) session =
      (some value, (session.get clock space key).2.copy clock client.space key value) := by
  rw [StorageClient.migrateLegacy]
  split
  · next found after hget =>
    rw [hget] at hvalue
    rw [hget, Option.some.inj hvalue]
  · next after hget => cases (congrArg Prod.fst hget).symm.trans hvalue

/-- Nothing stands in the legacy namespaces: nothing is found, and nothing is copied. -/
theorem migrateLegacy_none {spaces : List String} {session : Session}
    (hnone : noneStanding clock session.table key session.readings spaces = true) :
    (client.migrateLegacy clock key spaces session).1 = none ∧
      (client.migrateLegacy clock key spaces session).2.readings =
        session.readings + spaces.length ∧
      Fewer key (client.migrateLegacy clock key spaces session).2.table session.table := by
  induction spaces generalizing session with
  | nil => exact ⟨rfl, rfl, fun _ _ hrow => hrow⟩
  | cons space rest ih =>
    obtain ⟨hhead, hrest⟩ := Bool.and_eq_true_iff.mp hnone
    have hfewer := fewer_get session.table (session.now clock) space key key
    have hvalue : (session.get clock space key).1 = none := by
      rw [Session.get, fst_get, Session.now, Option.isNone_iff_eq_none.mp hhead]
      rfl
    have hafter := @ih (session.get clock space key).2 (noneStanding_fewer hfewer hrest)
    rw [migrateLegacy_cons_none hvalue]
    refine ⟨hafter.1, ?_, hafter.2.2.trans hfewer⟩
    rw [hafter.2.1, List.length_cons]
    exact Nat.succ_add_eq_add_succ session.readings rest.length

theorem get_absent {now : ℚ} (habsent : Dict.getItem table (space, key) = none) :
    PluginStore.get table now space key = (none, table) := by
  rw [PluginStore.get, habsent]

theorem expired_permanent {row : Row} (hpermanent : row.expiresAt = none) (now : ℚ) :
    row.expired now = false := by
  rw [Row.expired, hpermanent]
  rfl

theorem migrateLegacy_first {spaces : List String} {session : Session} {row : Row}
    (hfirst : firstRow session.table key spaces = some row) (hpermanent : row.expiresAt = none) :
    (client.migrateLegacy clock key spaces session).1 = some row.value ∧
      session.readings ≤ (client.migrateLegacy clock key spaces session).2.readings ∧
      Dict.getItem (client.migrateLegacy clock key spaces session).2.table (client.space, key) =
        some row := by
  induction spaces generalizing session with
  | nil => cases hfirst
  | cons space rest ih =>
    rw [firstRow, List.findSome?_cons] at hfirst
    cases hrow : Dict.getItem session.table (space, key) with
    | none =>
      rw [hrow] at hfirst
      have hget : session.get clock space key = (none, ⟨session.table, session.readings + 1⟩) := by
        rw [Session.get, get_absent hrow]
      rw [migrateLegacy_cons_none (congrArg Prod.fst hget), hget]
      obtain ⟨hvalue, hreadings, hcopied⟩ := @ih ⟨session.table, session.readings + 1⟩ hfirst
      exact ⟨hvalue, Nat.le_of_succ_le hreadings, hcopied⟩
    | some found =>
      rw [hrow] at hfirst
      obtain rfl := Option.some.inj hfirst
      have hvalue : (session.get clock space key).1 = some found.value := by
        rw [Session.get, fst_get, standing_eq_some.mpr ⟨hrow, expired_permanent hpermanent _⟩]
        rfl
      rw [migrateLegacy_cons_some hvalue]
      refine ⟨rfl, Nat.le_succ _, ?_⟩
      rw [Session.copy, getItem_set, if_pos rfl, expiryOf, ← hpermanent]

theorem readings_migrateLegacy_le {spaces : List String} {session : Session} :
    (client.migrateLegacy clock key spaces session).2.readings ≤
      session.readings + spaces.length := by
  induction spaces generalizing session with
  | nil => exact le_refl _
  | cons space rest ih =>
    rw [List.length_cons]
    cases hread : (session.get clock space key).1 with
    | none =>
      rw [migrateLegacy_cons_none hread]
      exact ih.trans_eq (Nat.succ_add_eq_add_succ session.readings rest.length)
    | some value =>
      rw [migrateLegacy_cons_some hread]
      exact Nat.add_le_add_left (Nat.le_add_left 1 _) session.readings

theorem migrateLegacy_agree {other : String} (hne : other ≠ key) :
    Agree other (client.migrateLegacy clock key spaces session).2.table session.table := by
  induction spaces generalizing session with
  | nil => exact fun _ => rfl
  | cons space rest ih =>
    have hget : Agree other (session.get clock space key).2.table session.table :=
      agree_get_of_ne session.table _ space hne
    cases hread : (session.get clock space key).1 with
    | none =>
      rw [migrateLegacy_cons_none hread]
      exact fun found => (ih found).trans (hget found)
    | some value =>
      rw [migrateLegacy_cons_some hread]
      intro found
      rw [Session.copy, getItem_set, if_neg]
      · exact hget found
      · exact fun heq => hne (Prod.ext_iff.mp heq).2

end Legacy

/-! ## What a read finds -/

section Reads

variable (clock : ℕ → ℚ) (client : StorageClient)

/-- Nothing of the key stands at a reading of the clock. -/
structure Spent (reading : ℕ) (table : Table) (ledger : Ledger) (key : String) : Prop where
  said : ∀ row, ledger key = some row → row.expired (clock reading) = true
  legacy : ∀ space ∈ client.legacyNamespaces, ∀ row, Dict.getItem table (space, key) = some row →
    row.expired (clock reading) = true

/-- The namespace holds what the ledger says; where it holds nothing, the ledger says what the
first legacy row does, or nothing stands. -/
def Known (reading : ℕ) (table : Table) (ledger : Ledger) (key : String) : Prop :=
  match Dict.getItem table (client.space, key) with
  | some row => ledger key = some row
  | none =>
    (∃ row, firstRow table key client.legacyNamespaces = some row ∧ ledger key = some row) ∨
      Spent clock client reading table ledger key

/-- What a read of a table that began at one reading of the clock has found by another one.  What
it found has no expiry, or it stood in the namespace. -/
inductive Found (before : Table) (began reading : ℕ) (table : Table) (ledger : Ledger)
    (key : String) : Option PyValue → Prop where
  | row {row : Row} (hrow : Dict.getItem table (client.space, key) = some row)
      (hsaid : ledger key = some row)
      (hcame : row.expiresAt = none ∨ standing before (clock began) client.space key = some row) :
      Found before began reading table ledger key (some row.value)
  | nothing (hrow : Dict.getItem table (client.space, key) = none)
      (hspent : Spent clock client reading table ledger key) :
      Found before began reading table ledger key none

end Reads

section Reads

variable {clock : ℕ → ℚ} {client : StorageClient} {ledger : Ledger} {key : String}

variable {before table : Table} {began reading : ℕ} {session : Session}

theorem Found.known {value : Option PyValue}
    (hfound : Found clock client before began reading table ledger key value) :
    Known clock client reading table ledger key := by
  unfold Known
  cases hfound with
  | row hrow hsaid _ => rwa [hrow]
  | nothing hrow hspent =>
    rw [hrow]
    exact .inr hspent

theorem Found.said {value : PyValue}
    (hfound : Found clock client before began reading table ledger key (some value)) :
    ∃ row, ledger key = some row ∧ row.value = value ∧ row.expired (clock began) = false := by
  cases hfound with
  | row hrow hsaid hcame =>
    refine ⟨_, hsaid, rfl, ?_⟩
    obtain hpermanent | hstanding := hcame
    · exact expired_permanent hpermanent _
    · exact (standing_eq_some.mp hstanding).2

theorem Spent.later (hclock : Monotone clock) {later : ℕ} {other : Table} {after : Ledger}
    (hle : reading ≤ later) (hfewer : Fewer key other table) (hsaid : after key = ledger key)
    (hspent : Spent clock client reading table ledger key) :
    Spent clock client later other after key where
  said row hrow := Row.expired_mono (hclock hle) (hspent.said row (hsaid.symm.trans hrow))
  legacy space hmem row hrow :=
    Row.expired_mono (hclock hle) (hspent.legacy space hmem row (hfewer space row hrow))

theorem Known.later (hclock : Monotone clock) {later : ℕ} {other : Table} {after : Ledger}
    (hle : reading ≤ later) (hagree : Agree key other table) (hsaid : after key = ledger key)
    (hknown : Known clock client reading table ledger key) :
    Known clock client later other after key := by
  have hfirst : firstRow other key client.legacyNamespaces =
      firstRow table key client.legacyNamespaces := by
    unfold firstRow
    rw [funext hagree]
  unfold Known at *
  rw [hagree, hfirst, hsaid]
  cases hrow : Dict.getItem table (client.space, key) with
  | some row => rwa [hrow] at hknown
  | none =>
    rw [hrow] at hknown
    exact hknown.imp_right fun hspent => hspent.later hclock hle hagree.fewer hsaid

theorem exists_of_firstRow {spaces : List String} {row : Row}
    (hfirst : firstRow table key spaces = some row) :
    ∃ space ∈ spaces, Dict.getItem table (space, key) = some row :=
  List.exists_of_findSome?_eq_some hfirst

theorem migrateKey_eq_of_some {value : PyValue}
    (hvalue : (session.get clock client.space key).1 = some value) :
    client.migrateKey clock session key = (some value, (session.get clock client.space key).2) := by
  unfold StorageClient.migrateKey
  split
  · next found after hget =>
    rw [hget] at hvalue
    rw [hget, Option.some.inj hvalue]
  · next after hget => cases (congrArg Prod.fst hget).symm.trans hvalue

theorem migrateKey_eq_of_none (hvalue : (session.get clock client.space key).1 = none) :
    client.migrateKey clock session key = client.migrateLegacy clock key client.legacyNamespaces
        (session.get clock client.space key).2 := by
  unfold StorageClient.migrateKey
  split
  · next value after hget => cases (congrArg Prod.fst hget).symm.trans hvalue
  · next after hget => rw [hget]

theorem found_nothing (hclock : Monotone clock) {first : Table}
    (hfewer : Fewer key session.table before)
    (habsent : Dict.getItem session.table (client.space, key) = none)
    (hhidden : noneStanding clock before key session.readings client.legacyNamespaces = true)
    (hsaid : ∀ row, ledger key = some row →
      row.expired (clock (session.readings + client.legacyNamespaces.length)) = true) :
    Found clock client first began
      (client.migrateLegacy clock key client.legacyNamespaces session).2.readings
      (client.migrateLegacy clock key client.legacyNamespaces session).2.table ledger key
      (client.migrateLegacy clock key client.legacyNamespaces session).1 := by
  obtain ⟨hvalue, hreadings, hless⟩ := @migrateLegacy_none clock client key
    client.legacyNamespaces session (noneStanding_fewer hfewer hhidden)
  rw [hvalue]
  refine .nothing ?_ ⟨?_, ?_⟩
  · by_contra hsome
    obtain ⟨row, hrow⟩ := Option.ne_none_iff_exists'.mp hsome
    cases habsent.symm.trans (hless _ row hrow)
  · rwa [hreadings]
  · intro space hmem row hrow
    have hbefore := hfewer space row (hless space row hrow)
    rw [hreadings]
    exact expired_of_noneStanding hclock hhidden (le_refl _) space hmem row hbefore

theorem migrateKey_found (hclock : Monotone clock)
    (hsound : keySound clock client session key = true)
    (hknown : Known clock client session.readings session.table ledger key) :
    Found clock client session.table session.readings (client.migrateKey clock session key).2.readings
      (client.migrateKey clock session key).2.table ledger key
      (client.migrateKey clock session key).1 := by
  unfold Known keySound at *
  dsimp only at hsound
  cases hrow : Dict.getItem session.table (client.space, key) with
  | some row =>
    rw [hrow] at hknown hsound
    cases hexpired : row.expired (session.now clock) with
    | false =>
      have hstanding : standing session.table (session.now clock) client.space key = some row :=
        standing_eq_some.mpr ⟨hrow, hexpired⟩
      have hvalue : (session.get clock client.space key).1 = some row.value := by
        rw [Session.get, fst_get, hstanding]
        rfl
      rw [migrateKey_eq_of_some hvalue]
      refine .row ?_ hknown (.inr hstanding)
      rw [Session.get, getItem_get, if_pos rfl, hstanding]
    | true =>
      have hstanding : standing session.table (session.now clock) client.space key = none := by
        rw [standing, hrow, Option.filter_some, hexpired]
        rfl
      have hvalue : (session.get clock client.space key).1 = none := by
        rw [Session.get, fst_get, hstanding]
        rfl
      dsimp only at hsound
      rw [hexpired, Bool.not_true, Bool.false_or] at hsound
      rw [migrateKey_eq_of_none hvalue]
      refine found_nothing hclock (fewer_get _ _ _ _ _) ?_ hsound fun found hfound => ?_
      · rw [Session.get, getItem_get, if_pos rfl, hstanding]
      · obtain rfl := Option.some.inj (hknown.symm.trans hfound)
        exact Row.expired_mono (hclock (Nat.le_add_right_of_le (Nat.le_succ _))) hexpired
  | none =>
    rw [hrow] at hknown hsound
    have hget : session.get clock client.space key = (none, ⟨session.table, session.readings + 1⟩) := by
      rw [Session.get, get_absent hrow]
    rw [migrateKey_eq_of_none (congrArg Prod.fst hget), hget]
    obtain hfirst | hhidden := Bool.or_eq_true_iff.mp hsound
    · obtain ⟨row, hrow', hpermanent⟩ := (Option.any_eq_true _ _).mp hfirst
      have hforever : row.expiresAt = none := Option.isNone_iff_eq_none.mp hpermanent
      obtain ⟨hvalue, -, hcopied⟩ := @migrateLegacy_first clock client key
        client.legacyNamespaces ⟨session.table, session.readings + 1⟩ row hrow' hforever
      rw [hvalue]
      refine .row hcopied ?_ (.inl hforever)
      obtain ⟨other, hother, hsaid⟩ | hspent := hknown
      · rw [hsaid, ← hother, hrow']
      · obtain ⟨space, hmem, hlegacy⟩ := exists_of_firstRow hrow'
        have hexpired := hspent.legacy space hmem row hlegacy
        rw [expired_permanent hforever] at hexpired
        cases hexpired
    · refine found_nothing hclock (fun _ _ hrow => hrow) hrow hhidden fun row hsaid => ?_
      obtain ⟨other, hother, hthat⟩ | hspent := hknown
      · obtain rfl := Option.some.inj (hthat.symm.trans hsaid)
        obtain ⟨space, hmem, hlegacy⟩ := exists_of_firstRow hother
        exact expired_of_noneStanding hclock hhidden (le_refl _) space hmem _ hlegacy
      · have hle : session.readings ≤ session.readings + 1 + client.legacyNamespaces.length := by
          omega
        exact Row.expired_mono (hclock hle) (hspent.said row hsaid)

end Reads

/-! ## All keys under a prefix -/

section All

variable {clock : ℕ → ℚ} {client : StorageClient} {key start : String}

theorem readings_addItems (items : List (String × PyValue)) (found : Dict String PyValue × Session) :
    (client.addItems clock items found).2.readings = found.2.readings := by
  induction items generalizing found with
  | nil => rfl
  | cons item rest ih =>
    rw [StorageClient.addItems]
    split
    · exact ih found
    · exact ih _

variable {found : Dict String PyValue × Session} {session : Session}

theorem nodup_addItems_values (items : List (String × PyValue))
    (hvalues : (Dict.keyList found.1).Nodup) :
    (Dict.keyList (client.addItems clock items found).1).Nodup := by
  induction items generalizing found with
  | nil => exact hvalues
  | cons item rest ih =>
    rw [StorageClient.addItems]
    split
    · exact ih hvalues
    · exact ih (Dict.nodup_setItem _ _ hvalues)

theorem nodup_addItems_table (items : List (String × PyValue))
    (hkeyed : (Dict.keyList found.2.table).Nodup) :
    (Dict.keyList (client.addItems clock items found).2.table).Nodup := by
  induction items generalizing found with
  | nil => exact hkeyed
  | cons item rest ih =>
    rw [StorageClient.addItems]
    split
    · exact ih hkeyed
    · exact ih (nodup_upsert hkeyed)

theorem getItem_addItem_of_ne {found : Dict String PyValue × Session} {item : String × PyValue}
    (hne : key ≠ item.1) :
    Dict.getItem (client.addItem clock found item).1 key = Dict.getItem found.1 key ∧
      Agree key (client.addItem clock found item).2.table found.2.table := by
  refine ⟨Dict.getItem_setItem_of_ne _ _ hne, fun space => ?_⟩
  rw [StorageClient.addItem, Session.copy, getItem_set, if_neg]
  exact fun heq => hne (Prod.ext_iff.mp heq).2

theorem not_hasKey {values : Dict String PyValue} {name : String}
    (habsent : Dict.getItem values name = none) : ¬ Dict.hasKey values name = true := by
  rw [Dict.hasKey, habsent]
  exact Bool.false_ne_true

section

variable (items : List (String × PyValue)) {found : Dict String PyValue × Session}

theorem addItems_kept {value : PyValue} (hvalue : Dict.getItem found.1 key = some value) :
    Dict.getItem (client.addItems clock items found).1 key = some value ∧
      Agree key (client.addItems clock items found).2.table found.2.table := by
  induction items generalizing found with
  | nil => exact ⟨hvalue, fun _ => rfl⟩
  | cons item rest ih =>
    rw [StorageClient.addItems]
    split
    · exact ih hvalue
    · next hnew =>
      have hne : key ≠ item.1 := by
        rintro rfl
        rw [Dict.hasKey, hvalue] at hnew
        exact hnew rfl
      obtain ⟨hsame, hrows⟩ := @getItem_addItem_of_ne clock client key found item hne
      obtain ⟨hkept, hagree⟩ := ih (hsame.trans hvalue)
      exact ⟨hkept, fun space => (hagree space).trans (hrows space)⟩

theorem addItems_new (habsent : Dict.getItem found.1 key = none) :
    Dict.getItem (client.addItems clock items found).1 key = Dict.getItem items key ∧
      ∀ space, Dict.getItem (client.addItems clock items found).2.table (space, key) =
        match Dict.getItem items key with
        | some value =>
          if space = client.space then some ⟨value, none⟩
          else Dict.getItem found.2.table (space, key)
        | none => Dict.getItem found.2.table (space, key) := by
  induction items generalizing found with
  | nil => exact ⟨habsent, fun _ => rfl⟩
  | cons item rest ih =>
    rw [StorageClient.addItems, Dict.getItem_cons]
    by_cases heq : item.1 = key
    · subst heq
      rw [if_neg (not_hasKey habsent), if_pos rfl]
      have hvalue : Dict.getItem (client.addItem clock found item).1 item.1 = some item.2 :=
        Dict.getItem_setItem_self ..
      obtain ⟨hkept, hagree⟩ := @addItems_kept clock client _ rest _ _ hvalue
      refine ⟨hkept, fun space => (hagree space).trans ?_⟩
      rw [StorageClient.addItem, Session.copy, getItem_set]
      dsimp only
      by_cases hspace : space = client.space
      · rw [if_pos hspace, hspace, if_pos rfl]
        rfl
      · rw [if_neg hspace, if_neg]
        exact fun hpair => hspace (Prod.ext_iff.mp hpair).1
    · rw [if_neg heq]
      split
      · exact ih habsent
      · obtain ⟨hsame, hother⟩ := @getItem_addItem_of_ne clock client key found item (Ne.symm heq)
        obtain ⟨hvalue, hrows⟩ := ih (hsame.trans habsent)
        refine ⟨hvalue, fun space => (hrows space).trans ?_⟩
        rw [hother space]

end

section

variable (hkeyed : (Dict.keyList session.table).Nodup) (space : String)

include hkeyed

theorem getItem_getAll_values :
    Dict.getItem (StorageClient.getAll clock session space start).1 key =
      if likePrefix start key = true then
        (standing session.table (session.now clock) space key).map Row.value
      else none :=
  getItem_freshValues hkeyed _ _ _ _

theorem getItem_getAll_table (other : String) :
    Dict.getItem (StorageClient.getAll clock session space start).2.table (other, key) =
      if other = space ∧ likePrefix start key = true then
        standing session.table (session.now clock) space key
      else Dict.getItem session.table (other, key) :=
  getItem_getAll hkeyed _ _ _ _

theorem nodup_getAll :
    (Dict.keyList (StorageClient.getAll clock session space start).2.table).Nodup :=
  nodup_filter hkeyed

end

/-- One more legacy namespace. -/
def nextFound (clock : ℕ → ℚ) (client : StorageClient) (start legacy : String)
    (found : Dict String PyValue × Session) : Dict String PyValue × Session :=
  client.addItems clock (StorageClient.getAll clock found.2 legacy start).1
    (found.1, (StorageClient.getAll clock found.2 legacy start).2)

theorem migrateRest_cons (legacy : String) (rest : List String)
    (found : Dict String PyValue × Session) :
    client.migrateRest clock start (legacy :: rest) found =
      client.migrateRest clock start rest (nextFound clock client start legacy found) := rfl

theorem nodup_nextFound_table (legacy : String) (hkeyed : (Dict.keyList found.2.table).Nodup) :
    (Dict.keyList (nextFound clock client start legacy found).2.table).Nodup :=
  nodup_addItems_table _ (nodup_getAll hkeyed legacy)

theorem readings_nextFound {legacy : String} :
    (nextFound clock client start legacy found).2.readings = found.2.readings + 1 :=
  readings_addItems _ _

section

variable {spaces : List String}

theorem nodup_migrateRest {found : Dict String PyValue × Session}
    (hvalues : (Dict.keyList found.1).Nodup) (hkeyed : (Dict.keyList found.2.table).Nodup) :
    (Dict.keyList (client.migrateRest clock start spaces found).1).Nodup ∧
      (Dict.keyList (client.migrateRest clock start spaces found).2.table).Nodup := by
  induction spaces generalizing found with
  | nil => exact ⟨hvalues, hkeyed⟩
  | cons legacy rest ih =>
    rw [migrateRest_cons]
    exact ih (nodup_addItems_values _ hvalues) (nodup_nextFound_table legacy hkeyed)

theorem readings_migrateRest {found : Dict String PyValue × Session} :
    (client.migrateRest clock start spaces found).2.readings =
      found.2.readings + spaces.length := by
  induction spaces generalizing found with
  | nil => rfl
  | cons legacy rest ih =>
    rw [migrateRest_cons, ih, readings_nextFound, List.length_cons]
    exact Nat.succ_add_eq_add_succ found.2.readings rest.length

theorem migrateRest_kept (hothers : client.space ∉ spaces)
    {found : Dict String PyValue × Session} {value : PyValue}
    (hkeyed : (Dict.keyList found.2.table).Nodup)
    (hvalue : Dict.getItem found.1 key = some value) :
    Dict.getItem (client.migrateRest clock start spaces found).1 key = some value ∧
      Dict.getItem (client.migrateRest clock start spaces found).2.table (client.space, key) =
        Dict.getItem found.2.table (client.space, key) := by
  induction spaces generalizing found with
  | nil => exact ⟨hvalue, rfl⟩
  | cons legacy rest ih =>
    have hne : client.space ≠ legacy := fun heq => hothers (heq ▸ List.mem_cons_self ..)
    have hread : Dict.getItem (found.1, (StorageClient.getAll clock found.2 legacy start).2).1
        key = some value := hvalue
    obtain ⟨hkept, hagree⟩ := @addItems_kept clock client key
      (StorageClient.getAll clock found.2 legacy start).1 _ _ hread
    obtain ⟨hvalue', hrow⟩ := ih (fun hmem => hothers (List.mem_cons_of_mem _ hmem))
      (nodup_nextFound_table legacy hkeyed) hkept
    rw [migrateRest_cons]
    refine ⟨hvalue', hrow.trans ((hagree client.space).trans ?_)⟩
    rw [getItem_getAll_table hkeyed, if_neg]
    exact fun hboth => hne hboth.1

theorem migrateRest_other (hapart : likePrefix start key = false)
    {found : Dict String PyValue × Session} (hkeyed : (Dict.keyList found.2.table).Nodup)
    (habsent : Dict.getItem found.1 key = none) :
    Dict.getItem (client.migrateRest clock start spaces found).1 key = none ∧
      Agree key (client.migrateRest clock start spaces found).2.table found.2.table := by
  induction spaces generalizing found with
  | nil => exact ⟨habsent, fun _ => rfl⟩
  | cons legacy rest ih =>
    have hitems : Dict.getItem (StorageClient.getAll clock found.2 legacy start).1 key = none := by
      rw [getItem_getAll_values hkeyed, hapart]
      rfl
    obtain ⟨hnew, hrows⟩ := @addItems_new clock client key
      (StorageClient.getAll clock found.2 legacy start).1
      (found.1, (StorageClient.getAll clock found.2 legacy start).2) habsent
    rw [hitems] at hnew hrows
    obtain ⟨hvalue, hagree⟩ := ih (nodup_nextFound_table legacy hkeyed) hnew
    rw [migrateRest_cons]
    refine ⟨hvalue, fun space => (hagree space).trans ((hrows space).trans ?_)⟩
    rw [getItem_getAll_table hkeyed, hapart, if_neg]
    exact fun hboth => Bool.noConfusion hboth.2

theorem migrateRest_new (hstarts : likePrefix start key = true)
    (hothers : client.space ∉ spaces) {found : Dict String PyValue × Session} {session : Session}
    (hkeyed : (Dict.keyList found.2.table).Nodup) (habsent : Dict.getItem found.1 key = none)
    (hagree : Agree key found.2.table session.table)
    (hreadings : found.2.readings = session.readings) :
    Dict.getItem (client.migrateRest clock start spaces found).1 key =
        (client.migrateLegacy clock key spaces session).1 ∧
      ((client.migrateLegacy clock key spaces session).1 ≠ none →
        Dict.getItem (client.migrateRest clock start spaces found).2.table (client.space, key) =
          Dict.getItem (client.migrateLegacy clock key spaces session).2.table
            (client.space, key)) ∧
      ((client.migrateLegacy clock key spaces session).1 = none →
        Agree key (client.migrateRest clock start spaces found).2.table
          (client.migrateLegacy clock key spaces session).2.table) := by
  induction spaces generalizing found session with
  | nil => exact ⟨habsent, fun hne => absurd rfl hne, fun _ => hagree⟩
  | cons legacy rest ih =>
    have hstanding : standing found.2.table (found.2.now clock) legacy key =
        standing session.table (session.now clock) legacy key := by
      rw [standing, standing, hagree legacy, Session.now, hreadings, Session.now]
    have hitems : Dict.getItem (StorageClient.getAll clock found.2 legacy start).1 key =
        (session.get clock legacy key).1 := by
      rw [getItem_getAll_values hkeyed, if_pos hstarts, hstanding, Session.get, fst_get]
    have htable : ∀ space, Dict.getItem
        (StorageClient.getAll clock found.2 legacy start).2.table (space, key) =
          Dict.getItem (session.get clock legacy key).2.table (space, key) := by
      intro space
      rw [getItem_getAll_table hkeyed, hstanding, Session.get, getItem_get, hagree space]
      by_cases hspace : space = legacy
      · have hpair : (space, key) = (legacy, key) := by rw [hspace]
        exact (if_pos ⟨hspace, hstarts⟩).trans (if_pos hpair).symm
      · exact (if_neg fun hboth => hspace hboth.1).trans
          (if_neg fun hpair => hspace (Prod.ext_iff.mp hpair).1).symm
    have hrest : client.space ∉ rest := fun hmem => hothers (List.mem_cons_of_mem _ hmem)
    have hnext : (Dict.keyList (nextFound clock client start legacy found).2.table).Nodup :=
      nodup_nextFound_table legacy hkeyed
    obtain ⟨hnew, hrows⟩ := @addItems_new clock client key
      (StorageClient.getAll clock found.2 legacy start).1
      (found.1, (StorageClient.getAll clock found.2 legacy start).2) habsent
    rw [hitems] at hnew hrows
    rw [migrateRest_cons]
    cases hread : (session.get clock legacy key).1 with
    | none =>
      rw [hread] at hnew hrows
      rw [migrateLegacy_cons_none hread]
      refine ih hrest hnext hnew (fun space => (hrows space).trans (htable space)) ?_
      exact readings_nextFound.trans (congrArg Nat.succ hreadings)
    | some value =>
      rw [hread] at hnew hrows
      rw [migrateLegacy_cons_some hread]
      obtain ⟨hkept, hrow⟩ := @migrateRest_kept clock client key start rest hrest _ _ hnext hnew
      refine ⟨hkept, fun _ => hrow.trans ((hrows client.space).trans ?_), fun hne => by cases hne⟩
      dsimp only
      rw [if_pos rfl, Session.copy, getItem_set, if_pos rfl]
      rfl

end

/-- A read of all keys finds under each of them what a read of this key finds. -/
theorem migrateAll_found (hclock : Monotone clock) {ledger : Ledger}
    (hkeyed : (Dict.keyList session.table).Nodup) (hstarts : likePrefix start key = true)
    (hsound : keySound clock client session key = true)
    (hknown : Known clock client session.readings session.table ledger key) :
    Found clock client session.table session.readings (client.migrateAll clock session start).2.readings
      (client.migrateAll clock session start).2.table ledger key
      (Dict.getItem (client.migrateAll clock session start).1 key) := by
  have hfound := migrateKey_found hclock hsound hknown
  have hvalues : Dict.getItem (StorageClient.getAll clock session client.space start).1 key =
      (session.get clock client.space key).1 := by
    rw [getItem_getAll_values hkeyed, if_pos hstarts, Session.get, fst_get]
  have htable : ∀ space, Dict.getItem
      (StorageClient.getAll clock session client.space start).2.table (space, key) =
        Dict.getItem (session.get clock client.space key).2.table (space, key) := by
    intro space
    rw [getItem_getAll_table hkeyed, Session.get, getItem_get]
    by_cases hspace : space = client.space
    · have hpair : (space, key) = (client.space, key) := by rw [hspace]
      exact (if_pos ⟨hspace, hstarts⟩).trans (if_pos hpair).symm
    · exact (if_neg fun hboth => hspace hboth.1).trans
        (if_neg fun hpair => hspace (Prod.ext_iff.mp hpair).1).symm
  unfold StorageClient.migrateAll
  cases hread : (session.get clock client.space key).1 with
  | some value =>
    rw [migrateKey_eq_of_some hread] at hfound
    obtain ⟨hkept, hrow⟩ := @migrateRest_kept clock client key start client.legacyNamespaces
      client.others _ _ (nodup_getAll hkeyed _) (hvalues.trans hread)
    rw [hkept]
    cases hfound with
    | row hget hsaid hcame => exact .row (hrow.trans ((htable _).trans hget)) hsaid hcame
  | none =>
    rw [migrateKey_eq_of_none hread] at hfound
    obtain ⟨hvalue, hsome, hnone⟩ := @migrateRest_new clock client key start
      client.legacyNamespaces hstarts client.others _ (session.get clock client.space key).2
      (nodup_getAll hkeyed _) (hvalues.trans hread) htable rfl
    rw [hvalue]
    generalize hone : client.migrateLegacy clock key client.legacyNamespaces
      (session.get clock client.space key).2 = one at *
    obtain ⟨found, after⟩ := one
    cases hfound with
    | row hget hsaid hcame => exact .row ((hsome nofun).trans hget) hsaid hcame
    | nothing hget hspent =>
      have hle : after.readings ≤ session.readings + 1 + client.legacyNamespaces.length := by
        have hread := @readings_migrateLegacy_le clock client key client.legacyNamespaces
          (session.get clock client.space key).2
        rwa [hone] at hread
      refine .nothing ((hnone rfl client.space).trans hget) ?_
      have hlast := @readings_migrateRest clock client start client.legacyNamespaces
        (StorageClient.getAll clock session client.space start)
      exact hspent.later hclock (hle.trans_eq hlast.symm) (hnone rfl).fewer rfl

end All

/-! ## What a request leaves -/

section Requests

variable {clock : ℕ → ℚ} {client : StorageClient} {ledger : Ledger} {key : String}

theorem getItem_copy (session : Session) (value : PyValue) (other : String × String) :
    Dict.getItem (session.copy clock client.space key value).table other =
      if other = (client.space, key) then some ⟨value, none⟩
      else Dict.getItem session.table other :=
  getItem_set _ _ _ _ _ none _

theorem differs_default (default : ℤ) : differs (.int default) default = false := by
  rw [differs, PyValue.eq, PyValue.number?]
  simp

variable {session : Session} {start : String}

/-- What the store sees when it adds the amount is what the ledger says. -/
theorem incrementExpiry_eq {before : Table} {began : ℕ} {value : Option PyValue} {default : ℤ}
    {ttl : Option ℚ}
    (hfound : Found clock client before began session.readings session.table ledger key value)
    (hsound : ttl = none → ∀ row, standing before (clock began) client.space key = some row →
      row.expiresAt = none ∨ differs row.value default = false) :
    incrementExpiry
        (if differs (value.getD (.int default)) default then
          session.copy clock client.space key (value.getD (.int default)) else session).table
        (clock session.readings) client.space key ttl =
      expiryAfter (clock session.readings) (ledger key) ttl := by
  cases ttl with
  | some seconds => rfl
  | none =>
    simp only [incrementExpiry, expiryAfter]
    cases hfound with
    | row hrow hsaid hcame =>
      next row =>
      rw [Option.getD_some, hsaid]
      split
      · next hdiffers =>
        have hpermanent : row.expiresAt = none := by
          obtain hpermanent | hstanding := hcame
          · exact hpermanent
          · obtain hpermanent | hsame := hsound rfl row hstanding
            · exact hpermanent
            · cases hdiffers.symm.trans hsame
        rw [standing, getItem_copy, if_pos rfl, Option.filter_some, Option.filter_some,
          expired_permanent hpermanent, expired_permanent rfl]
        exact hpermanent.symm
      · rw [standing, hrow]
    | nothing hrow hspent =>
      rw [Option.getD_none, differs_default, if_neg (nofun), standing, hrow]
      cases hsaid : ledger key with
      | none => rfl
      | some row =>
        rw [Option.filter_some, hspent.said row hsaid]
        rfl

theorem migrateKey_agree {other : String} (hne : other ≠ key) :
    Agree other (client.migrateKey clock session key).2.table session.table := by
  have hget : Agree other (session.get clock client.space key).2.table session.table :=
    agree_get_of_ne session.table _ client.space hne
  cases hread : (session.get clock client.space key).1 with
  | some value =>
    rw [migrateKey_eq_of_some hread]
    exact hget
  | none =>
    rw [migrateKey_eq_of_none hread]
    exact fun space => (migrateLegacy_agree hne space).trans (hget space)

theorem nodup_get (space : String) (hkeyed : (Dict.keyList session.table).Nodup) :
    (Dict.keyList (session.get clock space key).2.table).Nodup := by
  rw [Session.get, PluginStore.get]
  cases Dict.getItem session.table (space, key) with
  | none => exact hkeyed
  | some row =>
    dsimp only
    split
    · exact nodup_filter hkeyed
    · exact hkeyed

theorem nodup_migrateLegacy {spaces : List String} {session : Session}
    (hkeyed : (Dict.keyList session.table).Nodup) :
    (Dict.keyList (client.migrateLegacy clock key spaces session).2.table).Nodup ∧
      session.readings ≤ (client.migrateLegacy clock key spaces session).2.readings := by
  induction spaces generalizing session with
  | nil => exact ⟨hkeyed, le_refl _⟩
  | cons space rest ih =>
    have hget : (Dict.keyList (session.get clock space key).2.table).Nodup :=
      nodup_get space hkeyed
    cases hread : (session.get clock space key).1 with
    | none =>
      rw [migrateLegacy_cons_none hread]
      obtain ⟨hnodup, hle⟩ := ih hget
      exact ⟨hnodup, Nat.le_of_succ_le hle⟩
    | some value =>
      rw [migrateLegacy_cons_some hread]
      exact ⟨nodup_upsert hget, Nat.le_succ _⟩

theorem nodup_migrateKey (hkeyed : (Dict.keyList session.table).Nodup) :
    (Dict.keyList (client.migrateKey clock session key).2.table).Nodup ∧
      session.readings ≤ (client.migrateKey clock session key).2.readings := by
  have hget : (Dict.keyList (session.get clock client.space key).2.table).Nodup :=
    nodup_get client.space hkeyed
  cases hread : (session.get clock client.space key).1 with
  | some value =>
    rw [migrateKey_eq_of_some hread]
    exact ⟨hget, Nat.le_succ _⟩
  | none =>
    rw [migrateKey_eq_of_none hread]
    obtain ⟨hnodup, hle⟩ := @nodup_migrateLegacy clock client key client.legacyNamespaces _ hget
    exact ⟨hnodup, Nat.le_of_succ_le hle⟩

/-- The table has its primary key, and the ledger tells what reads may find. -/
structure Consistent (clock : ℕ → ℚ) (client : StorageClient) (state : Watched) : Prop where
  keyed : (Dict.keyList state.session.table).Nodup
  known : ∀ key, Known clock client state.session.readings state.session.table state.ledger key

theorem Consistent.opened (hkeyed : (Dict.keyList session.table).Nodup) :
    Consistent clock client ⟨session, openLedger client session.table⟩ where
  keyed := hkeyed
  known key := by
    unfold Known openLedger
    dsimp only
    cases hrow : Dict.getItem session.table (client.space, key) with
    | some row => rfl
    | none =>
      rw [Option.none_or]
      cases hfirst : firstRow session.table key client.legacyNamespaces with
      | some row => exact .inl ⟨row, rfl, rfl⟩
      | none =>
        refine .inr ⟨fun row hsaid => ?_, fun space hmem row hlegacy => ?_⟩
        · rw [hrow, hfirst] at hsaid
          cases hsaid
        · cases (List.findSome?_eq_none_iff.mp hfirst space hmem).symm.trans hlegacy

theorem Consistent.migrateKey (hclock : Monotone clock)
    (hconsistent : Consistent clock client ⟨session, ledger⟩)
    (hsound : keySound clock client session key = true) :
    Consistent clock client ⟨(client.migrateKey clock session key).2, ledger⟩ where
  keyed := (nodup_migrateKey hconsistent.keyed).1
  known other := by
    by_cases heq : other = key
    · subst heq
      exact (migrateKey_found hclock hsound (hconsistent.known other)).known
    · exact (hconsistent.known other).later hclock (nodup_migrateKey hconsistent.keyed).2
        (migrateKey_agree heq) rfl

def Said (clock : ℕ → ℚ) (ledger : Ledger) (reading : ℕ) (key : String) (value : PyValue) : Prop :=
  ∃ row, ledger key = some row ∧ row.value = value ∧ row.expired (clock reading) = false

theorem Said.earlier (hclock : Monotone clock) {reading earlier : ℕ} {value : PyValue}
    (hle : earlier ≤ reading) (hsaid : Said clock ledger reading key value) :
    Said clock ledger earlier key value := by
  obtain ⟨row, hrow, hvalue, hfresh⟩ := hsaid
  refine ⟨row, hrow, hvalue, Bool.eq_false_iff.mpr fun hexpired => ?_⟩
  exact Bool.eq_false_iff.mp hfresh (Row.expired_mono (hclock hle) hexpired)

theorem Consistent.mget (hclock : Monotone clock) {keys : List String}
    {found : Dict String (Option PyValue) × Session} {began : ℕ} (hbegan : began ≤ found.2.readings)
    (hconsistent : Consistent clock client ⟨found.2, ledger⟩)
    (hsaid : ∀ key value, (key, some value) ∈ found.1 → Said clock ledger began key value)
    (hsound : mgetSound clock client keys found.2 = true) :
    Consistent clock client ⟨(client.mget clock keys found).2, ledger⟩ ∧
      ∀ key value, (key, some value) ∈ (client.mget clock keys found).1 →
        Said clock ledger began key value := by
  induction keys generalizing found with
  | nil => exact ⟨hconsistent, hsaid⟩
  | cons first rest ih =>
    obtain ⟨hfirst, hrest⟩ := Bool.and_eq_true_iff.mp hsound
    have hfound := migrateKey_found hclock hfirst (hconsistent.known first)
    refine ih (hbegan.trans (nodup_migrateKey hconsistent.keyed).2)
      (hconsistent.migrateKey hclock hfirst) (fun key value hmem => ?_) hrest
    obtain ⟨rfl, hvalue⟩ | hold := Dict.mem_of_mem_setItem hmem
    · rw [← hvalue] at hfound
      exact Said.earlier hclock hbegan hfound.said
    · exact hsaid key value hold

theorem Consistent.mgetAll (hclock : Monotone clock) {keys : List String}
    (hconsistent : Consistent clock client ⟨session, ledger⟩)
    (hsound : mgetSound clock client keys session = true) :
    Consistent clock client ⟨(client.mget clock keys ([], session)).2, ledger⟩ ∧
      ∀ key value, (key, some value) ∈ (client.mget clock keys ([], session)).1 →
        Said clock ledger session.readings key value :=
  @Consistent.mget clock client ledger hclock keys ([], session) session.readings (le_refl _)
    hconsistent (fun _ _ hmem => absurd hmem List.not_mem_nil) hsound

theorem keySound_of_absent (habsent : ∀ space, Dict.getItem session.table (space, key) = none) :
    keySound clock client session key = true := by
  have hnone : ∀ reading spaces, noneStanding clock session.table key reading spaces = true := by
    intro reading spaces
    induction spaces generalizing reading with
    | nil => rfl
    | cons space rest ih =>
      rw [noneStanding, standing, habsent space, ih]
      rfl
  rw [keySound, habsent, hnone]
  exact Bool.or_true _

theorem keySound_of_getAll (hsound : sound clock client session (.getAll start) = true)
    (hstarts : likePrefix start key = true) : keySound clock client session key = true := by
  by_cases habsent : ∀ space, Dict.getItem session.table (space, key) = none
  · exact keySound_of_absent habsent
  · obtain ⟨space, hsome⟩ := not_forall.mp habsent
    obtain ⟨row, hrow⟩ := Option.ne_none_iff_exists'.mp hsome
    have hkey := List.all_eq_true.mp hsound _ (Dict.mem_keyList_of_getItem hrow)
    rwa [hstarts, Bool.not_true, Bool.false_or] at hkey

theorem migrateAll_other (hkeyed : (Dict.keyList session.table).Nodup)
    (hapart : likePrefix start key = false) :
    Dict.getItem (client.migrateAll clock session start).1 key = none ∧
      Agree key (client.migrateAll clock session start).2.table session.table := by
  have hvalue : Dict.getItem (StorageClient.getAll clock session client.space start).1 key =
      none := by
    rw [getItem_getAll_values hkeyed, hapart]
    rfl
  obtain ⟨hnone, hagree⟩ := @migrateRest_other clock client key start client.legacyNamespaces hapart
    _ (nodup_getAll hkeyed _) hvalue
  refine ⟨hnone, fun space => (hagree space).trans ?_⟩
  rw [getItem_getAll_table hkeyed, hapart]
  exact if_neg fun hboth => Bool.noConfusion hboth.2

theorem Consistent.migrateAll (hclock : Monotone clock)
    (hconsistent : Consistent clock client ⟨session, ledger⟩)
    (hsound : sound clock client session (.getAll start) = true) :
    Consistent clock client ⟨(client.migrateAll clock session start).2, ledger⟩ ∧
      ∀ key value, (key, value) ∈ (client.migrateAll clock session start).1 →
        Said clock ledger session.readings key value := by
  have hvalues : (Dict.keyList (StorageClient.getAll clock session client.space start).1).Nodup := by
    simp only [StorageClient.getAll, PluginStore.getAll, freshValues, Dict.keyList]
    rw [List.map_map]
    exact (nodup_selectRows hconsistent.keyed _ _).sublist (List.filter_sublist.map _)
  obtain ⟨hnodup, hkeyed⟩ := @nodup_migrateRest clock client start client.legacyNamespaces _ hvalues
    (nodup_getAll hconsistent.keyed _)
  have hfound : ∀ key, likePrefix start key = true → _ := fun key hstarts =>
    migrateAll_found hclock hconsistent.keyed hstarts (keySound_of_getAll hsound hstarts)
      (hconsistent.known key)
  refine ⟨⟨hkeyed, fun key => ?_⟩, fun key value hmem => ?_⟩
  · cases hstarts : likePrefix start key with
    | true => exact (hfound key hstarts).known
    | false =>
      refine (hconsistent.known key).later hclock ?_
        (migrateAll_other hconsistent.keyed hstarts).2 rfl
      rw [StorageClient.migrateAll, readings_migrateRest]
      exact Nat.le_add_right_of_le (Nat.le_succ _)
  · have hget : Dict.getItem (client.migrateAll clock session start).1 key = some value :=
      Dict.getItem_of_mem hnodup hmem
    cases hstarts : likePrefix start key with
    | true =>
      have hread := hfound key hstarts
      rw [hget] at hread
      exact hread.said
    | false => cases (migrateAll_other hconsistent.keyed hstarts).1.symm.trans hget

theorem Known.put (hclock : Monotone clock) {reading : ℕ} {table : Table} {row : Row}
    (hknown : ∀ key, Known clock client reading table ledger key) (name key : String) :
    Known clock client reading (Dict.setItem table (client.space, name) row)
      (put ledger name (some row)) key := by
  by_cases heq : key = name
  · subst heq
    rw [Known, Dict.getItem_setItem_self]
    exact if_pos rfl
  · have hagree : Agree key (Dict.setItem table (client.space, name) row) table :=
      fun space => Dict.getItem_setItem_of_ne _ _ fun hpair => heq (Prod.ext_iff.mp hpair).2
    exact (hknown key).later hclock (le_refl _) hagree (if_neg heq)

theorem Known.mset (hclock : Monotone clock) {reading : ℕ} {expiry : Option ℚ} (mapping : List (String × PyValue))
    {table : Table} (hknown : ∀ key, Known clock client reading table ledger key) (key : String) :
    Known clock client reading
      (upsert table client.space (mapping.map fun item => (item.1, ⟨item.2, expiry⟩)))
      (mapping.foldl (fun ledger item => ClientLedger.put ledger item.1 (some ⟨item.2, expiry⟩))
        ledger) key := by
  induction mapping generalizing table ledger with
  | nil => exact hknown key
  | cons item rest ih => exact ih fun other => Known.put hclock hknown item.1 other

theorem getItem_deletes (spaces : List String) (table : Table) (name : String)
    (other : String × String) :
    Dict.getItem (spaces.foldl (fun table space => PluginStore.delete table space name) table)
        other =
      if other.1 ∈ spaces ∧ other.2 = name then none else Dict.getItem table other := by
  induction spaces generalizing table with
  | nil => exact (if_neg fun hboth => List.not_mem_nil hboth.1).symm
  | cons space rest ih =>
    rw [List.foldl_cons, ih, PluginStore.delete, getItem_deleteKeys]
    by_cases hrest : other.1 ∈ rest ∧ other.2 = name
    · rw [if_pos hrest, if_pos ⟨List.mem_cons_of_mem _ hrest.1, hrest.2⟩]
    · rw [if_neg hrest]
      by_cases hfirst : other.1 = space ∧ other.2 ∈ [name]
      · rw [if_pos hfirst, if_pos ⟨hfirst.1 ▸ List.mem_cons_self .., List.mem_singleton.mp hfirst.2⟩]
      · rw [if_neg hfirst, if_neg]
        rintro ⟨hmem, hname⟩
        obtain hhead | htail := List.mem_cons.mp hmem
        · exact hfirst ⟨hhead, List.mem_singleton.mpr hname⟩
        · exact hrest ⟨htail, hname⟩

theorem getItem_clears (spaces : List String) (table : Table) (other : String × String) :
    Dict.getItem (spaces.foldl (fun table space => PluginStore.clear table (some space)) table)
        other =
      if spaces.any (fun space => covers (some space) other) then none
      else Dict.getItem table other := by
  induction spaces generalizing table with
  | nil => rfl
  | cons space rest ih =>
    rw [List.foldl_cons, ih, getItem_clear, List.any_cons]
    cases covers (some space) other <;> cases rest.any (fun space => covers (some space) other) <;>
      rfl

theorem nodup_foldl {spaces : List String} {act : Table → String → Table}
    (hact : ∀ table space, (Dict.keyList table).Nodup → (Dict.keyList (act table space)).Nodup)
    {table : Table} (hkeyed : (Dict.keyList table).Nodup) :
    (Dict.keyList (spaces.foldl act table)).Nodup := by
  induction spaces generalizing table with
  | nil => exact hkeyed
  | cons space rest ih => exact ih (hact table space hkeyed)

theorem Consistent.deleteAll (name : String) (hclock : Monotone clock)
    (hconsistent : Consistent clock client ⟨session, ledger⟩) :
    Consistent clock client ⟨client.deleteAll session name, put ledger name none⟩ where
  keyed := nodup_foldl (fun _ _ => nodup_filter) (nodup_filter hconsistent.keyed)
  known key := by
    have htable : ∀ space, Dict.getItem (client.deleteAll session name).table (space, key) =
        if space ∈ client.space :: client.legacyNamespaces ∧ key = name then none
        else Dict.getItem session.table (space, key) := fun space =>
      getItem_deletes (client.space :: client.legacyNamespaces) session.table name (space, key)
    by_cases heq : key = name
    · subst heq
      have hnone : ∀ space ∈ client.space :: client.legacyNamespaces,
          Dict.getItem (client.deleteAll session key).table (space, key) = none :=
        fun space hmem => (htable space).trans (if_pos ⟨hmem, rfl⟩)
      simp only [Known]
      rw [hnone client.space (List.mem_cons_self ..)]
      refine .inr ⟨fun row hrow => ?_, fun space hmem row hrow => ?_⟩
      · cases (if_pos rfl : put ledger key none key = none).symm.trans hrow
      · cases (hnone space (List.mem_cons_of_mem _ hmem)).symm.trans hrow
    · have hagree : Agree key (client.deleteAll session name).table session.table :=
        fun space => (htable space).trans (if_neg fun hboth => heq hboth.2)
      exact (hconsistent.known key).later hclock (le_refl _) hagree (if_neg heq)

theorem Consistent.clearAll (hconsistent : Consistent clock client ⟨session, ledger⟩) :
    Consistent clock client ⟨client.clearAll session, fun _ => none⟩ where
  keyed := nodup_foldl (fun _ _ => nodup_filter) (nodup_filter hconsistent.keyed)
  known key := by
    have hnone : ∀ space ∈ client.space :: client.legacyNamespaces,
        Dict.getItem (client.clearAll session).table (space, key) = none := by
      intro space hmem
      have htable := getItem_clears (client.space :: client.legacyNamespaces) session.table
        (space, key)
      refine htable.trans (if_pos (List.any_eq_true.mpr ⟨space, hmem, ?_⟩))
      exact Bool.or_eq_true_iff.mpr (.inr (decide_eq_true rfl))
    simp only [Known]
    rw [hnone client.space (List.mem_cons_self ..)]
    refine .inr ⟨fun _ hentry => (by cases hentry), fun space hmem row hrow => ?_⟩
    cases (hnone space (List.mem_cons_of_mem _ hmem)).symm.trans hrow

theorem Consistent.set (hclock : Monotone clock)
    (hconsistent : Consistent clock client ⟨session, ledger⟩) (name : String) (value : PyValue)
    (ttl : Option ℚ) :
    Consistent clock client ⟨client.set clock session name value ttl,
      put ledger name (some ⟨value, expiryOf (session.now clock) ttl⟩)⟩ where
  keyed := nodup_upsert hconsistent.keyed
  known key := by
    have hlater : ∀ key, Known clock client (session.readings + 1) session.table ledger key :=
      fun key => (hconsistent.known key).later hclock (Nat.le_succ _) (fun _ => rfl) rfl
    exact Known.put hclock hlater name key

theorem Consistent.mset (hclock : Monotone clock)
    (hconsistent : Consistent clock client ⟨session, ledger⟩) (mapping : List (String × PyValue))
    (ttl : Option ℚ) :
    Consistent clock client ⟨client.mset clock session mapping ttl,
      mapping.foldl (fun ledger item =>
        put ledger item.1 (some ⟨item.2, expiryOf (session.now clock) ttl⟩)) ledger⟩ where
  keyed := nodup_upsert hconsistent.keyed
  known key := by
    have hlater : ∀ key, Known clock client (session.readings + 1) session.table ledger key :=
      fun key => (hconsistent.known key).later hclock (Nat.le_succ _) (fun _ => rfl) rfl
    exact Known.mset hclock mapping hlater key

section Increments

variable {session : Session} {amount default : ℤ} {ttl : Option ℚ}

/-- The session of an increment just before the store adds the amount. -/
def written (clock : ℕ → ℚ) (client : StorageClient) (session : Session) (key : String)
    (default : ℤ) : Session :=
  let found := client.migrateKey clock session key
  if differs (found.1.getD (.int default)) default then
    found.2.copy clock client.space key (found.1.getD (.int default))
  else found.2

theorem readings_written : (written clock client session key default).readings =
      (client.migrateKey clock session key).2.readings := by
  simp only [written]
  split <;> rfl

theorem nodup_written (hkeyed : (Dict.keyList session.table).Nodup) :
    (Dict.keyList (written clock client session key default).table).Nodup := by
  simp only [written]
  split
  · exact nodup_upsert (nodup_migrateKey hkeyed).1
  · exact (nodup_migrateKey hkeyed).1

theorem written_agree {other : String} (hne : other ≠ key) :
    Agree other (written clock client session key default).table
      (client.migrateKey clock session key).2.table := by
  simp only [written]
  split
  · intro space
    rw [getItem_copy]
    exact if_neg fun hpair => hne (Prod.ext_iff.mp hpair).2
  · exact fun _ => rfl

section

variable (hclock : Monotone clock) (hconsistent : Consistent clock client ⟨session, ledger⟩)
  (hsound : sound clock client session (.increment key amount default ttl) = true)

include hclock hconsistent hsound

theorem row_of_increment :
    Dict.getItem (client.incrementMigrating clock session key amount default ttl).2.table
        (client.space, key) =
      some ⟨.int (client.incrementMigrating clock session key amount default ttl).1,
        expiryAfter (clock ((client.incrementMigrating clock session key amount default
          ttl).2.readings - 1)) (ledger key) ttl⟩ := by
  obtain ⟨hkey, hexpiries⟩ := Bool.and_eq_true_iff.mp hsound
  have hfound := migrateKey_found hclock hkey (hconsistent.known key)
  have hexpiry : incrementExpiry (written clock client session key default).table
      (clock (client.migrateKey clock session key).2.readings) client.space key ttl =
        expiryAfter (clock (client.migrateKey clock session key).2.readings) (ledger key) ttl := by
    refine incrementExpiry_eq hfound fun hnone row hstanding => ?_
    subst hnone
    rw [Option.isSome_none, Bool.false_or] at hexpiries
    have hrow : (row.expiresAt.isNone || !differs row.value default) = true := by
      rw [Session.now, hstanding] at hexpiries
      exact hexpiries
    obtain hpermanent | hsame := Bool.or_eq_true_iff.mp hrow
    · exact .inl (Option.isNone_iff_eq_none.mp hpermanent)
    · exact .inr (Bool.not_eq_true' _ |>.mp hsame)
  have hafter : (client.incrementMigrating clock session key amount default ttl).2.readings - 1 =
      (client.migrateKey clock session key).2.readings :=
    congrArg (fun readings => readings + 1 - 1) (@readings_written clock client key session default)
  rw [hafter, ← hexpiry, ← @readings_written clock client key session default]
  exact Dict.getItem_setItem_self ..

theorem Consistent.increment : Consistent clock client
      ⟨(client.incrementMigrating clock session key amount default ttl).2,
        put ledger key (some
          ⟨.int (client.incrementMigrating clock session key amount default ttl).1,
            expiryAfter (clock ((client.incrementMigrating clock session key amount default
              ttl).2.readings - 1)) (ledger key) ttl⟩)⟩ where
  keyed := nodup_upsert (nodup_written hconsistent.keyed)
  known other := by
    have hmid := hconsistent.migrateKey hclock (Bool.and_eq_true_iff.mp hsound).1
    by_cases heq : other = key
    · subst heq
      simp only [Known]
      rw [row_of_increment hclock hconsistent hsound]
      exact if_pos rfl
    · have hle : (client.migrateKey clock session key).2.readings ≤
          (client.incrementMigrating clock session key amount default ttl).2.readings :=
        Nat.le_succ_of_le readings_written.ge
      refine (hmid.known other).later hclock hle (fun space => ?_) (if_neg heq)
      refine Eq.trans (Dict.getItem_setItem_of_ne _ _ ?_) (written_agree heq space)
      exact fun hpair => heq (Prod.ext_iff.mp hpair).2

end

end Increments

theorem Consistent.step (hclock : Monotone clock) {state next : Watched} {request : Request}
    (hconsistent : Consistent clock client state)
    (hsound : sound clock client state.session request = true)
    (hstep : ClientLedger.step clock client state request = some next) :
    Consistent clock client next := by
  cases hstep
  cases request with
  | get key => exact hconsistent.migrateKey hclock hsound
  | mget keys => exact (hconsistent.mgetAll hclock hsound).1
  | getAll start => exact (hconsistent.migrateAll hclock hsound).1
  | set key value ttl => exact hconsistent.set hclock key value ttl
  | mset mapping ttl => exact hconsistent.mset hclock mapping ttl
  | increment key amount default ttl => exact hconsistent.increment hclock hsound
  | delete key => exact hconsistent.deleteAll key hclock
  | clear => exact hconsistent.clearAll

theorem Consistent.right (hclock : Monotone clock) {state : Watched} {request : Request}
    (hconsistent : Consistent clock client state)
    (hsound : sound clock client state.session request = true) :
    Right clock client state request where
  reads found hresponse key value hmem := by
    cases request with
    | get name =>
      obtain rfl := Response.values.inj hresponse
      have hfound := migrateKey_found hclock hsound (hconsistent.known name)
      obtain ⟨hname, hvalue⟩ := Prod.mk.inj (List.mem_singleton.mp hmem)
      rw [hname]
      rw [← hvalue] at hfound
      exact hfound.said
    | mget keys =>
      obtain rfl := Response.values.inj hresponse
      exact (hconsistent.mgetAll hclock hsound).2 key value hmem
    | getAll start =>
      obtain rfl := Response.values.inj hresponse
      obtain ⟨item, hitem, hpair⟩ := List.mem_map.mp hmem
      obtain ⟨rfl, hvalue⟩ := Prod.ext_iff.mp hpair
      cases hvalue
      exact (hconsistent.migrateAll hclock hsound).2 _ _ hitem
    | set | mset | increment | delete | clear => cases hresponse
  expiries key amount default hrequest row hsaid hfresh := by
    subst hrequest
    refine ⟨_, row_of_increment hclock hconsistent hsound, ?_⟩
    have hkept : (some row).filter (fun row => !row.expired (clock ((client.incrementMigrating clock
        state.session key amount default none).2.readings - 1))) = some row :=
      Option.filter_eq_some_iff.mpr ⟨rfl, by rw [← Bool.not_false]; exact congrArg not hfresh⟩
    simp only [expiryAfter]
    rw [hsaid, hkept]
    rfl

/-- In every run of requests that meet the condition, with any legacy namespaces and any clock
that does not go back, a read answers from the ledger and an increment keeps the expiry. -/
theorem right_of_run (hclock : Monotone clock) {session : Session} {requests : List Request}
    {state : Watched} {request : Request} (hkeyed : (Dict.keyList session.table).Nodup)
    (hrun : StepRun (ClientLedger.step clock client)
      (fun state request => sound clock client state.session request = true)
      ⟨session, openLedger client session.table⟩ requests state)
    (hsound : sound clock client state.session request = true) :
    Right clock client state request := by
  have hconsistent := hrun.invariant (Consistent clock client)
    (fun _ _ _ hconsistent hsound hstep => hconsistent.step hclock hsound hstep)
    (Consistent.opened hkeyed)
  exact hconsistent.right hclock hsound

end Requests

/-! ## Runs on a small table -/

/-- The clock goes on by one with every reading. -/
def ticking (reading : ℕ) : ℚ := reading

theorem ticking_monotone : Monotone ticking :=
  fun _ _ hle => Rat.natCast_le_natCast.mpr hle

def pluginClient : StorageClient := StorageClient.ofGiven "new" ["old", "new", ""]

/-- A permanent legacy value, and a counter that expires at 9. -/
def smallTable : Table :=
  [(("old", "token"), ⟨.str "a", none⟩), (("new", "hits"), ⟨.int 5, some 9⟩)]

def soundRequests : List Request :=
  [.set "hits" (.int 0) (some 30), .get "token", .mget ["hits", "none"], .getAll "t"]

/-- The counter holds the default of the increment, and keeps its expiry. -/
theorem right_of_soundRequests : Right ticking pluginClient
      (stateAfter (step ticking pluginClient)
        ⟨⟨smallTable, 0⟩, openLedger pluginClient smallTable⟩ soundRequests)
      (.increment "hits" 1 0 none) :=
  right_of_run ticking_monotone (by decide) (stepRun_stateAfter (by decide +kernel))
    (by decide +kernel)

/-- A legacy value that expires at 1. -/
def agedTable : Table := [(("old", "token"), ⟨.str "a", some 1⟩)]

/-- The legacy value is copied without its expiry and is read after it. -/
theorem legacy_expiry_lost :
    ¬ ∀ (clock : ℕ → ℚ) (client : StorageClient) (session : Session) (requests : List Request)
      (state : Watched) (request : Request), Monotone clock →
      (Dict.keyList session.table).Nodup →
      StepRun (step clock client) (fun _ _ => True) ⟨session, openLedger client session.table⟩
        requests state →
      Right clock client state request := by
  intro hall
  have hrun : StepRun (step ticking pluginClient) (fun _ _ => True)
      ⟨⟨agedTable, 0⟩, openLedger pluginClient agedTable⟩ [.get "token"]
      (stateAfter (step ticking pluginClient)
        ⟨⟨agedTable, 0⟩, openLedger pluginClient agedTable⟩ [.get "token"]) :=
    stepRun_stateAfter (by decide)
  have hright := hall ticking pluginClient ⟨agedTable, 0⟩ _ _ (.get "token") ticking_monotone
    (by decide) hrun
  obtain ⟨row, hrow, -, hfresh⟩ := hright.reads [("token", some (.str "a"))] rfl "token" (.str "a")
    (List.mem_singleton_self _)
  obtain rfl : (⟨.str "a", some 1⟩ : Row) = row := Option.some.inj hrow
  exact absurd hfresh (by decide)

end SignPulse.Plugin.ClientLedger
