import Mathlib.Algebra.Order.Ring.Unbundled.Rat
import SignPulse.Foundation.PyValue

/-!
# The key-value table of the plugins

`PluginStore` keeps one SQLite table, a row for each namespace and key.  A row may
carry the time from which it counts as expired.  The statements of the store are
functions on the table, and its calls are made of them; every call reads the clock
once, at its start.

A row holds what `json.loads` makes of its text.
-/

namespace SignPulse.Plugin

open Foundation

structure Row where
  value : PyValue
  expiresAt : Option ℚ

/-- `plugin_kv`, by its primary key `(namespace, key)`. -/
abbrev Table := Dict (String × String) Row

/-- `expires_at is not None and expires_at < now` -/
def Row.expired (row : Row) (now : ℚ) : Bool :=
  row.expiresAt.any fun expiry => expiry < now

/-! ## Statements -/

/-- `SELECT … WHERE namespace = ?` and a test on the key. -/
def selectRows (table : Table) (ns : String) (wanted : String → Bool) : List (String × Row) :=
  table.filterMap fun entry =>
    if entry.1.1 = ns ∧ wanted entry.1.2 then some (entry.1.2, entry.2) else none

/-- `DELETE … WHERE namespace = ? AND key = ?` for each key, in one transaction. -/
def deleteKeys (table : Table) (ns : String) (keys : List String) : Table :=
  table.filter fun entry => !decide (entry.1.1 = ns ∧ entry.1.2 ∈ keys)

/-- `INSERT … ON CONFLICT(namespace, key) DO UPDATE` for each row, in one transaction. -/
def upsert (table : Table) (ns : String) (rows : List (String × Row)) : Table :=
  rows.foldl (fun table row => Dict.setItem table (ns, row.1) row.2) table

/-- `WHERE namespace = ?`, where an empty namespace or none at all stands for all. -/
def covers (ns : Option String) (key : String × String) : Bool :=
  match ns with
  | some ns => ns = "" || key.1 = ns
  | none => true

/-- ASCII letters are the same in either case for `LIKE`. -/
def foldCase (c : Char) : Char :=
  if 'A' ≤ c ∧ c ≤ 'Z' then Char.ofNat (c.toNat + 32) else c

/-- `key LIKE ? ESCAPE '/'` with the escaped prefix and `%`. -/
def likePrefix (start key : String) : Bool :=
  (start.toList.map foldCase).isPrefixOf (key.toList.map foldCase)

def expiredKeys (now : ℚ) (rows : List (String × Row)) : List String :=
  (rows.filter fun row => row.2.expired now).map Prod.fst

def freshValues (now : ℚ) (rows : List (String × Row)) : List (String × PyValue) :=
  (rows.filter fun row => !row.2.expired now).map fun row => (row.1, row.2.value)

/-! ## Calls -/

def expiryOf (now : ℚ) (ttl : Option ℚ) : Option ℚ :=
  match ttl with
  | some ttl => if 0 < ttl then some (now + ttl) else none
  | none => none

/-- `int(parsed)`, where it is a number and not a bool. -/
def numberOf : PyValue → Option ℤ
  | .int value => some value
  | .float value => some (value.num.tdiv value.den)
  | _ => none

/-- `get`, with nothing where the default would be returned. -/
def PluginStore.get (table : Table) (now : ℚ) (ns key : String) : Option PyValue × Table :=
  match Dict.getItem table (ns, key) with
  | none => (none, table)
  | some row =>
    if row.expired now then (none, deleteKeys table ns [key]) else (some row.value, table)

def PluginStore.set (table : Table) (now : ℚ) (ns key : String) (value : PyValue) (ttl : Option ℚ) : Table :=
  upsert table ns [(key, ⟨value, expiryOf now ttl⟩)]

def PluginStore.mset (table : Table) (now : ℚ) (ns : String) (mapping : List (String × PyValue))
    (ttl : Option ℚ) : Table :=
  upsert table ns (mapping.map fun item => (item.1, ⟨item.2, expiryOf now ttl⟩))

def standing (table : Table) (now : ℚ) (ns key : String) : Option Row :=
  (Dict.getItem table (ns, key)).filter fun row => !row.expired now

/-- The number that `increment` starts from. -/
def currentOf (table : Table) (now : ℚ) (ns key : String) (default : ℤ) : ℤ :=
  ((standing table now ns key).bind fun row => numberOf row.value).getD default

/-- The expiry that `increment` leaves: a new one for a positive `ttl`, none for another
one, and without `ttl` the one of the row that still stands. -/
def incrementExpiry (table : Table) (now : ℚ) (ns key : String) (ttl : Option ℚ) : Option ℚ :=
  match ttl with
  | some _ => expiryOf now ttl
  | none => (standing table now ns key).bind Row.expiresAt

def PluginStore.increment (table : Table) (now : ℚ) (ns key : String) (amount default : ℤ)
    (ttl : Option ℚ) : ℤ × Table :=
  let updated := currentOf table now ns key default + amount
  (updated, upsert table ns [(key, ⟨.int updated, incrementExpiry table now ns key ttl⟩)])

def PluginStore.delete (table : Table) (ns key : String) : Table :=
  deleteKeys table ns [key]

def PluginStore.clear (table : Table) (ns : Option String) : Table :=
  table.filter fun entry => !covers ns entry.1

def PluginStore.purgeExpired (table : Table) (now : ℚ) (ns : Option String) : Table :=
  table.filter fun entry => !(covers ns entry.1 && entry.2.expired now)

/-- `get_all`: what still stands under the prefix; what has expired there is deleted. -/
def PluginStore.getAll (table : Table) (now : ℚ) (ns start : String) : List (String × PyValue) × Table :=
  let rows := selectRows table ns (likePrefix start)
  (freshValues now rows, deleteKeys table ns (expiredKeys now rows))

/-! ## What the statements leave -/

theorem Row.expired_mono {row : Row} {now later : ℚ} (hle : now ≤ later)
    (hexpired : row.expired now = true) : row.expired later = true := by
  unfold Row.expired at *
  cases hexpiry : row.expiresAt with
  | none =>
    rw [hexpiry] at hexpired
    cases hexpired
  | some expiry =>
    rw [hexpiry, Option.any_some, decide_eq_true_iff] at hexpired
    rw [Option.any_some, decide_eq_true_iff]
    exact lt_of_lt_of_le hexpired hle

theorem getItem_deleteKeys (table : Table) (ns : String) (keys : List String)
    (key : String × String) :
    Dict.getItem (deleteKeys table ns keys) key =
      if key.1 = ns ∧ key.2 ∈ keys then none else Dict.getItem table key := by
  have hfilter := Dict.getItem_filter_key
    (fun key : String × String => !decide (key.1 = ns ∧ key.2 ∈ keys)) table key
  rw [deleteKeys, hfilter]
  by_cases hkey : key.1 = ns ∧ key.2 ∈ keys
  · rw [if_pos hkey, decide_eq_true hkey]
    rfl
  · rw [if_neg hkey, decide_eq_false hkey]
    rfl

variable {table : Table} {ns : String}

theorem getItem_upsert_of_not_mem {rows : List (String × Row)} {key : String × String}
    (hother : key.1 = ns → key.2 ∉ rows.map Prod.fst) :
    Dict.getItem (upsert table ns rows) key = Dict.getItem table key := by
  induction rows generalizing table with
  | nil => rfl
  | cons row rest ih =>
    have hne : key ≠ (ns, row.1) := by
      rintro rfl
      exact hother rfl (List.mem_map_of_mem (List.mem_cons_self ..))
    have hrest : key.1 = ns → key.2 ∉ rest.map Prod.fst :=
      fun hns hmem => hother hns (List.mem_cons_of_mem _ hmem)
    have hstep := @ih (Dict.setItem table (ns, row.1) row.2) hrest
    exact hstep.trans (Dict.getItem_setItem_of_ne _ _ hne)

theorem nodup_upsert {rows : List (String × Row)} (hkeyed : (Dict.keyList table).Nodup) :
    (Dict.keyList (upsert table ns rows)).Nodup := by
  induction rows generalizing table with
  | nil => exact hkeyed
  | cons row rest ih => exact ih (Dict.nodup_setItem _ _ hkeyed)

theorem nodup_filter {keep : (String × String) × Row → Bool} (hkeyed : (Dict.keyList table).Nodup) :
    (Dict.keyList (table.filter keep)).Nodup := by
  apply List.Nodup.sublist _ hkeyed
  exact List.Sublist.map _ List.filter_sublist

theorem getItem_clear (table : Table) (ns : Option String) (key : String × String) :
    Dict.getItem (PluginStore.clear table ns) key =
      if covers ns key then none else Dict.getItem table key := by
  rw [PluginStore.clear, Dict.getItem_filter_key (fun key => !covers ns key)]
  cases covers ns key <;> rfl

theorem mem_selectRows {wanted : String → Bool} {key : String} {row : Row} :
    (key, row) ∈ selectRows table ns wanted ↔ ((ns, key), row) ∈ table ∧ wanted key = true := by
  rw [selectRows, List.mem_filterMap]
  constructor
  · rintro ⟨⟨⟨space, name⟩, found⟩, hmem, hsome⟩
    split at hsome
    · next hwanted =>
      obtain ⟨rfl, hname⟩ := hwanted
      cases hsome
      exact ⟨hmem, hname⟩
    · cases hsome
  · rintro ⟨hmem, hwanted⟩
    exact ⟨_, hmem, if_pos ⟨rfl, hwanted⟩⟩

variable (hkeyed : (Dict.keyList table).Nodup)

include hkeyed

theorem mem_expiredKeys {now : ℚ} {key : String} {wanted : String → Bool} :
    key ∈ expiredKeys now (selectRows table ns wanted) ↔ wanted key = true ∧
        ∃ row, Dict.getItem table (ns, key) = some row ∧ row.expired now = true := by
  rw [expiredKeys, List.mem_map]
  constructor
  · rintro ⟨⟨_, row⟩, hmem, rfl⟩
    obtain ⟨hselected, hexpired⟩ := List.mem_filter.mp hmem
    obtain ⟨hrow, hwanted⟩ := mem_selectRows.mp hselected
    exact ⟨hwanted, row, Dict.getItem_of_mem hkeyed hrow, hexpired⟩
  · rintro ⟨hwanted, row, hrow, hexpired⟩
    exact ⟨(key, row), List.mem_filter.mpr
      ⟨mem_selectRows.mpr ⟨Dict.mem_of_getItem hrow, hwanted⟩, hexpired⟩, rfl⟩

theorem nodup_selectRows (ns : String)
    (wanted : String → Bool) : ((selectRows table ns wanted).map Prod.fst).Nodup := by
  induction table with
  | nil => exact List.nodup_nil
  | cons entry rest ih =>
    obtain ⟨hnew, hrest⟩ := List.nodup_cons.mp hkeyed
    rw [selectRows, List.filterMap_cons]
    split
    · exact ih hrest
    · next row hrow =>
      obtain ⟨⟨hspace, -⟩, hentry⟩ := Option.ite_none_right_eq_some.mp hrow
      cases hentry
      refine List.nodup_cons.mpr ⟨fun hmem => hnew ?_, ih hrest⟩
      obtain ⟨⟨_, found⟩, hfound, hname⟩ := List.mem_map.mp hmem
      obtain rfl : _ = entry.1.2 := hname
      have hkey : entry.1 = (ns, entry.1.2) := Prod.ext hspace rfl
      rw [hkey]
      exact List.mem_map_of_mem (mem_selectRows.mp hfound).1

theorem getItem_freshValues (now : ℚ) (ns : String) (wanted : String → Bool) (key : String) :
    Dict.getItem (freshValues now (selectRows table ns wanted)) key =
      if wanted key = true then (standing table now ns key).map Row.value else none := by
  have hnodup : (Dict.keyList (freshValues now (selectRows table ns wanted))).Nodup := by
    rw [freshValues, Dict.keyList, List.map_map]
    exact (nodup_selectRows hkeyed ns wanted).sublist (List.filter_sublist.map _)
  have hmem : ∀ value, (key, value) ∈ freshValues now (selectRows table ns wanted) ↔
      wanted key = true ∧ (standing table now ns key).map Row.value = some value := by
    intro value
    rw [freshValues, standing, List.mem_map]
    constructor
    · rintro ⟨⟨_, row⟩, hrow, heq⟩
      obtain ⟨rfl, rfl⟩ := Prod.ext_iff.mp heq
      obtain ⟨hselected, hfresh⟩ := List.mem_filter.mp hrow
      obtain ⟨htable, hwanted⟩ := mem_selectRows.mp hselected
      refine ⟨hwanted, ?_⟩
      rw [Dict.getItem_of_mem hkeyed htable, Option.filter_some, if_pos hfresh]
      rfl
    · rintro ⟨hwanted, hvalue⟩
      obtain ⟨row, hrow, rfl⟩ := Option.map_eq_some_iff.mp hvalue
      obtain ⟨hget, hfresh⟩ := Option.filter_eq_some_iff.mp hrow
      exact ⟨(key, row), List.mem_filter.mpr
        ⟨mem_selectRows.mpr ⟨Dict.mem_of_getItem hget, hwanted⟩, hfresh⟩, rfl⟩
  split
  · next hwanted =>
    cases hvalue : (standing table now ns key).map Row.value with
    | some value => exact Dict.getItem_of_mem hnodup ((hmem value).mpr ⟨hwanted, hvalue⟩)
    | none =>
      by_contra hsome
      obtain ⟨value, hfound⟩ := Option.ne_none_iff_exists'.mp hsome
      cases hvalue.symm.trans ((hmem value).mp (Dict.mem_of_getItem hfound)).2
  · next hunwanted =>
    by_contra hsome
    obtain ⟨value, hfound⟩ := Option.ne_none_iff_exists'.mp hsome
    exact hunwanted ((hmem value).mp (Dict.mem_of_getItem hfound)).1

theorem getItem_getAll (now : ℚ) (ns start : String) (key : String × String) :
    Dict.getItem (PluginStore.getAll table now ns start).2 key =
      if key.1 = ns ∧ likePrefix start key.2 = true then standing table now ns key.2
      else Dict.getItem table key := by
  simp only [PluginStore.getAll]
  rw [getItem_deleteKeys]
  obtain ⟨space, name⟩ := key
  by_cases hkey : space = ns ∧ likePrefix start name = true
  · obtain ⟨rfl, hwanted⟩ := hkey
    refine Eq.trans ?_ (if_pos ⟨rfl, hwanted⟩).symm
    unfold standing
    cases hrow : Dict.getItem table (space, name) with
    | none => rw [ite_self]; rfl
    | some row =>
      rw [Option.filter_some]
      cases hexpired : row.expired now with
      | true =>
        rw [if_pos ⟨rfl, (mem_expiredKeys hkeyed).mpr ⟨hwanted, row, hrow, hexpired⟩⟩]
        rfl
      | false =>
        rw [if_neg]
        · rfl
        · rintro ⟨-, hmem⟩
          obtain ⟨-, other, hother, hthat⟩ := (mem_expiredKeys hkeyed).mp hmem
          obtain rfl := Option.some.inj (hrow.symm.trans hother)
          cases hexpired.symm.trans hthat
  · refine Eq.trans (if_neg ?_) (if_neg hkey).symm
    exact fun hboth => hkey ⟨hboth.1, ((mem_expiredKeys hkeyed).mp hboth.2).1⟩

omit hkeyed

end SignPulse.Plugin
