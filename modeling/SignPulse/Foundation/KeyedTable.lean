import SignPulse.Foundation.Dict

/-!
# Tables with a primary key

A table is a dictionary whose keys are distinct by construction; inserting, updating and
deleting rows keep them so.
-/

namespace SignPulse.Foundation

structure KeyedTable (κ ν : Type*) where
  rows : Dict κ ν
  nodup : (Dict.keyList rows).Nodup

namespace KeyedTable

variable {κ ν : Type*}

def empty : KeyedTable κ ν where
  rows := []
  nodup := List.nodup_nil

variable [DecidableEq κ]

/-- The row under a key. -/
def select (table : KeyedTable κ ν) (key : κ) : Option ν :=
  Dict.getItem table.rows key

def insert (table : KeyedTable κ ν) (key : κ) (row : ν) : KeyedTable κ ν where
  rows := Dict.setItem table.rows key row
  nodup := Dict.nodup_setItem key row table.nodup

def update (table : KeyedTable κ ν) (key : κ) (change : ν → ν) : KeyedTable κ ν :=
  match table.select key with
  | some row => table.insert key (change row)
  | none => table

omit [DecidableEq κ] in
theorem keyList_filter_nodup (table : KeyedTable κ ν) (keep : ν → Bool) :
    (Dict.keyList (table.rows.filter fun item => keep item.2)).Nodup := by
  apply List.Nodup.sublist _ table.nodup
  exact List.Sublist.map _ List.filter_sublist

/-- Delete the rows that are not to be kept. -/
def retain (table : KeyedTable κ ν) (keep : ν → Bool) : KeyedTable κ ν where
  rows := table.rows.filter fun item => keep item.2
  nodup := table.keyList_filter_nodup keep

def restrict (table : KeyedTable κ ν) (keep : κ → Bool) : KeyedTable κ ν where
  rows := table.rows.filter fun item => keep item.1
  nodup := table.nodup.sublist (List.Sublist.map _ List.filter_sublist)

theorem select_eq_of_perm {table other : KeyedTable κ ν} (hperm : table.rows.Perm other.rows)
    (key : κ) : table.select key = other.select key := by
  cases hrow : other.select key with
  | some row =>
    exact Dict.getItem_of_mem table.nodup (hperm.mem_iff.mpr (Dict.mem_of_getItem hrow))
  | none =>
    cases hfound : table.select key with
    | none => rfl
    | some row =>
      have hmem := hperm.mem_iff.mp (Dict.mem_of_getItem hfound)
      have hsame : other.select key = some row := Dict.getItem_of_mem other.nodup hmem
      rw [hrow] at hsame
      cases hsame

section

variable (table : KeyedTable κ ν)

theorem select_insert (key other : κ) (row : ν) :
    (table.insert key row).select other = if other = key then some row else table.select other := by
  by_cases hsame : other = key
  · rw [if_pos hsame, hsame]
    exact Dict.getItem_setItem_self table.rows key row
  · rw [if_neg hsame]
    exact Dict.getItem_setItem_of_ne table.rows row hsame

theorem select_update (key other : κ) (change : ν → ν) : (table.update key change).select other =
      if other = key then (table.select other).map change else table.select other := by
  unfold update
  cases hrow : table.select key with
  | none =>
    by_cases hsame : other = key
    · simp [hsame, hrow]
    · rw [if_neg hsame]
  | some row =>
    simp only [select_insert]
    by_cases hsame : other = key
    · simp [hsame, hrow]
    · rw [if_neg hsame, if_neg hsame]

theorem select_retain (keep : ν → Bool) (key : κ) :
    (table.retain keep).select key = (table.select key).filter keep := by
  cases hrow : table.select key with
  | none =>
    rw [Option.filter_none]
    by_contra hsome
    obtain ⟨row, hkept⟩ := Option.ne_none_iff_exists'.mp hsome
    have hmem := (List.mem_filter.mp (Dict.mem_of_getItem hkept)).1
    have hget : table.select key = some row := Dict.getItem_of_mem table.nodup hmem
    rw [hrow] at hget
    cases hget
  | some row =>
    have hmem : (key, row) ∈ table.rows := Dict.mem_of_getItem hrow
    by_cases hkeep : keep row = true
    · rw [Option.filter_some, if_pos hkeep]
      apply Dict.getItem_of_mem (table.keyList_filter_nodup keep)
      exact List.mem_filter.mpr ⟨hmem, hkeep⟩
    · rw [Option.filter_some, if_neg hkeep]
      by_contra hsome
      obtain ⟨other, hkept⟩ := Option.ne_none_iff_exists'.mp hsome
      have hother := List.mem_filter.mp (Dict.mem_of_getItem hkept)
      have hsame : table.select key = some other :=
        Dict.getItem_of_mem table.nodup hother.1
      rw [hrow] at hsame
      cases hsame
      exact hkeep hother.2

theorem select_restrict (keep : κ → Bool) (key : κ) :
    (table.restrict keep).select key = if keep key then table.select key else none := by
  simp only [select, restrict]
  induction table.rows with
  | nil => simp
  | cons item rest ih =>
    obtain ⟨k, row⟩ := item
    by_cases hsame : k = key
    · subst hsame
      cases hkeep : keep k with
      | true => simp [hkeep, Dict.getItem_cons]
      | false => simpa [hkeep, List.filter_cons] using ih
    · cases hkeep : keep k with
      | true => simpa [hkeep, Dict.getItem_cons, hsame] using ih
      | false => simpa [hkeep, Dict.getItem_cons, hsame] using ih

end

end KeyedTable

end SignPulse.Foundation
