import Mathlib.Data.List.Nodup

/-!
# Insertion-ordered dictionaries

A dictionary is the list of its items in the order in which their keys were
first stored.  Storing under a present key replaces the value in place and
keeps the position, so iterating over the list is iterating over the
dictionary.
-/

namespace SignPulse.Foundation

abbrev Dict (κ ν : Type*) := List (κ × ν)

namespace Dict

variable {κ ν : Type*} [DecidableEq κ]

/-- `d.get(key)`. -/
def getItem (d : Dict κ ν) (key : κ) : Option ν :=
  match d with
  | [] => none
  | (k, v) :: rest => if k = key then some v else getItem rest key

/-- `d[key] = value`. -/
def setItem (d : Dict κ ν) (key : κ) (value : ν) : Dict κ ν :=
  match d with
  | [] => [(key, value)]
  | (k, v) :: rest =>
    if k = key then (k, value) :: rest else (k, v) :: setItem rest key value

/-- `d.pop(key, None)`, without the value. -/
def popItem (d : Dict κ ν) (key : κ) : Dict κ ν :=
  d.filter fun item => item.1 ≠ key

/-- `key in d`. -/
def hasKey (d : Dict κ ν) (key : κ) : Bool :=
  (getItem d key).isSome

/-- `d.update(items)`. -/
def update (d items : Dict κ ν) : Dict κ ν :=
  items.foldl (fun acc item => setItem acc item.1 item.2) d

def keyList (d : Dict κ ν) : List κ :=
  d.map Prod.fst

def valueList (d : Dict κ ν) : List ν :=
  d.map Prod.snd

@[simp]
theorem getItem_nil (key : κ) : getItem ([] : Dict κ ν) key = none := rfl

theorem getItem_cons (k key : κ) (v : ν) (rest : Dict κ ν) : getItem ((k, v) :: rest) key =
      if k = key then some v else getItem rest key := rfl

@[simp]
theorem getItem_setItem_self (d : Dict κ ν) (key : κ) (value : ν) :
    getItem (setItem d key value) key = some value := by
  induction d with
  | nil => simp [setItem, getItem]
  | cons item rest ih =>
    obtain ⟨k, v⟩ := item
    by_cases hk : k = key
    · simp [setItem, getItem, hk]
    · simp [setItem, getItem, hk, ih]

variable {key other : κ} {d : Dict κ ν} {value : ν} {μ : Type*} {keep : κ × ν → Bool}

theorem getItem_setItem_of_ne (d : Dict κ ν) (value : ν) (hne : other ≠ key) :
    getItem (setItem d key value) other = getItem d other := by
  induction d with
  | nil => simp [setItem, getItem, Ne.symm hne]
  | cons item rest ih =>
    obtain ⟨k, v⟩ := item
    by_cases hk : k = key
    · subst hk
      simp [setItem, getItem, Ne.symm hne]
    · simp only [setItem, hk, if_false, getItem]
      rw [ih]

theorem mem_of_getItem (hget : getItem d key = some value) : (key, value) ∈ d := by
  induction d with
  | nil => simp at hget
  | cons item rest ih =>
    obtain ⟨k, v⟩ := item
    rw [getItem_cons] at hget
    by_cases hk : k = key
    · simp_all
    · exact List.mem_cons_of_mem _ (ih (by simpa [hk] using hget))

theorem mem_valueList_of_getItem (hget : getItem d key = some value) : value ∈ valueList d :=
  List.mem_map.mpr ⟨(key, value), mem_of_getItem hget, rfl⟩

theorem mem_keyList_of_getItem (hget : getItem d key = some value) : key ∈ keyList d :=
  List.mem_map.mpr ⟨(key, value), mem_of_getItem hget, rfl⟩

theorem exists_getItem_of_mem_keyList (hmem : key ∈ keyList d) :
    ∃ value, getItem d key = some value := by
  induction d with
  | nil => simp [keyList] at hmem
  | cons item rest ih =>
    obtain ⟨k, v⟩ := item
    by_cases hk : k = key
    · exact ⟨v, by simp [getItem, hk]⟩
    · have hrest : key ∈ keyList rest := by
        simp only [keyList, List.map_cons, List.mem_cons] at hmem ⊢
        exact hmem.resolve_left (Ne.symm hk)
      obtain ⟨value, hvalue⟩ := ih hrest
      exact ⟨value, by simpa [getItem, hk] using hvalue⟩

theorem hasKey_iff_mem_keyList (d : Dict κ ν) (key : κ) :
    hasKey d key = true ↔ key ∈ keyList d := by
  constructor
  · intro hkey
    obtain ⟨value, hvalue⟩ := Option.isSome_iff_exists.mp hkey
    exact mem_keyList_of_getItem hvalue
  · intro hmem
    obtain ⟨value, hvalue⟩ := exists_getItem_of_mem_keyList hmem
    simp [hasKey, hvalue]

theorem getItem_of_mem (hnodup : (keyList d).Nodup) (hmem : (key, value) ∈ d) :
    getItem d key = some value := by
  induction d with
  | nil => simp at hmem
  | cons item rest ih =>
    obtain ⟨k, v⟩ := item
    have hcons : k ∉ keyList rest ∧ (keyList rest).Nodup :=
      List.nodup_cons.mp hnodup
    rcases List.mem_cons.mp hmem with heq | hrest
    · simp_all [getItem]
    · have hk : k ≠ key := by
        rintro rfl
        exact hcons.1 (List.mem_map.mpr ⟨(k, value), hrest, rfl⟩)
      simpa [getItem, hk] using ih hcons.2 hrest

theorem mem_keyList_setItem :
    other ∈ keyList (setItem d key value) ↔ other = key ∨ other ∈ keyList d := by
  induction d with
  | nil => simp [setItem, keyList]
  | cons item rest ih =>
    obtain ⟨k, v⟩ := item
    by_cases hk : k = key
    · simp [setItem, hk, keyList]
    · simp only [setItem, hk, if_false, keyList, List.map_cons, List.mem_cons]
      rw [show other ∈ List.map Prod.fst (setItem rest key value) ↔ _ from ih]
      simp only [keyList]
      tauto

theorem keyList_setItem_of_mem (value : ν) (hmem : key ∈ keyList d) :
    keyList (setItem d key value) = keyList d := by
  induction d with
  | nil => exact absurd hmem List.not_mem_nil
  | cons item rest ih =>
    obtain ⟨k, v⟩ := item
    by_cases hk : k = key
    · simp [setItem, hk, keyList]
    · have hrest : key ∈ keyList rest := (List.mem_cons.mp hmem).resolve_left (Ne.symm hk)
      rw [setItem, if_neg hk, keyList, List.map_cons, keyList, List.map_cons]
      exact congrArg (List.cons k) (ih hrest)

theorem nodup_setItem (key : κ) (value : ν) (hnodup : (keyList d).Nodup) :
    (keyList (setItem d key value)).Nodup := by
  induction d with
  | nil => simp [setItem, keyList]
  | cons item rest ih =>
    obtain ⟨k, v⟩ := item
    have hcons : k ∉ keyList rest ∧ (keyList rest).Nodup :=
      List.nodup_cons.mp hnodup
    by_cases hk : k = key
    · simpa [setItem, hk, keyList] using hnodup
    · have hfresh : k ∉ keyList (setItem rest key value) := fun hmem =>
        (mem_keyList_setItem.mp hmem).elim hk hcons.1
      simp only [setItem, hk, if_false, keyList, List.map_cons]
      exact List.nodup_cons.mpr ⟨hfresh, ih hcons.2⟩

theorem mem_setItem {found : ν} (hnodup : (keyList d).Nodup)
    (hmem : (other, found) ∈ setItem d key value) :
    (other = key ∧ found = value) ∨ (other ≠ key ∧ (other, found) ∈ d) := by
  have hget := getItem_of_mem (nodup_setItem key value hnodup) hmem
  by_cases hkey : other = key
  · subst hkey
    rw [getItem_setItem_self] at hget
    exact Or.inl ⟨rfl, (Option.some.inj hget).symm⟩
  · rw [getItem_setItem_of_ne d value hkey] at hget
    exact Or.inr ⟨hkey, mem_of_getItem hget⟩

theorem setItem_of_not_mem (value : ν) (hfresh : key ∉ keyList d) :
    setItem d key value = d ++ [(key, value)] := by
  induction d with
  | nil => rfl
  | cons item rest ih =>
    obtain ⟨k, v⟩ := item
    have hk : k ≠ key := by
      rintro rfl
      exact hfresh (by simp [keyList])
    have hrest : key ∉ keyList rest := fun hmem =>
      hfresh (List.mem_cons_of_mem _ hmem)
    simp [setItem, hk, ih hrest]

theorem update_of_nodup :
    ∀ items : Dict κ ν, (keyList (d ++ items)).Nodup → update d items = d ++ items := by
  intro items
  induction items generalizing d with
  | nil =>
    intro _
    simp [update]
  | cons item rest ih =>
    intro hnodup
    have hfresh : item.1 ∉ keyList d := by
      intro hmem
      rw [keyList, List.map_append, List.nodup_append] at hnodup
      exact hnodup.2.2 item.1 hmem item.1 (by simp) rfl
    have hrest : update d (item :: rest) = update (d ++ [item]) rest := by
      rw [update, List.foldl_cons, setItem_of_not_mem item.2 hfresh]
      rfl
    rw [hrest, ih (by simpa using hnodup)]
    simp

theorem keyList_map (d : Dict κ ν) (f : ν → μ) :
    keyList (d.map fun item => (item.1, f item.2)) = keyList d := by
  rw [keyList, List.map_map]
  rfl

/-- A dictionary whose values are mapped can be rebuilt from its items. -/
theorem update_map_of_nodup (f : ν → μ) (hnodup : (keyList d).Nodup) :
    update [] (d.map fun item => (item.1, f item.2)) = d.map fun item => (item.1, f item.2) := by
  apply update_of_nodup
  rw [List.nil_append, keyList_map]
  exact hnodup

theorem getItem_map (d : Dict κ ν) (f : ν → μ) (key : κ) :
    getItem (d.map fun item => (item.1, f item.2)) key = (getItem d key).map f := by
  induction d with
  | nil => rfl
  | cons item rest ih =>
    rw [List.map_cons, getItem_cons, getItem_cons, ih]
    split <;> rfl

theorem getItem_update_of_not_mem {d items : Dict κ ν} {key : κ}
    (hkey : key ∉ keyList items) : getItem (update d items) key = getItem d key := by
  induction items generalizing d with
  | nil => rfl
  | cons item rest ih =>
    obtain ⟨hhead, hrest⟩ := not_or.mp (mt List.mem_cons.mpr hkey)
    rw [update, List.foldl_cons]
    have hupdated := @ih (setItem d item.1 item.2) hrest
    rw [update] at hupdated
    rw [hupdated, getItem_setItem_of_ne d item.2 hhead]

theorem getItem_update {items : Dict κ ν} (hnodup : (keyList items).Nodup) (key : κ) :
    getItem (update d items) key = (getItem items key).or (getItem d key) := by
  induction items generalizing d with
  | nil => rfl
  | cons item rest ih =>
    obtain ⟨k, v⟩ := item
    obtain ⟨hfresh, hrest⟩ := List.nodup_cons.mp hnodup
    by_cases hsame : k = key
    · subst hsame
      have hkept := @getItem_update_of_not_mem κ ν _ (setItem d k v) rest k hfresh
      rw [getItem_cons, if_pos rfl, Option.some_or, ← getItem_setItem_self d k v, ← hkept]
      rfl
    · have hupdated := @ih (setItem d k v) hrest
      rw [getItem_setItem_of_ne d v (Ne.symm hsame)] at hupdated
      rw [getItem_cons, if_neg hsame, ← hupdated]
      rfl

theorem exists_getItem_update {d items : Dict κ ν} {key : κ} (hkey : key ∈ keyList items) :
    ∃ value, (key, value) ∈ items ∧ getItem (update d items) key = some value := by
  induction items generalizing d with
  | nil => cases hkey
  | cons item rest ih =>
    obtain ⟨k, v⟩ := item
    by_cases hrest : key ∈ keyList rest
    · obtain ⟨value, hvalue, hget⟩ := @ih (setItem d k v) hrest
      exact ⟨value, List.mem_cons_of_mem _ hvalue, hget⟩
    · obtain rfl := (List.mem_cons.mp hkey).resolve_right hrest
      refine ⟨v, List.mem_cons_self, ?_⟩
      exact (getItem_update_of_not_mem hrest).trans (getItem_setItem_self d key v)

theorem getItem_update_or {d items : Dict κ ν} (key : κ) :
    getItem (update d items) key = getItem d key ∨
      ∃ value, (key, value) ∈ items ∧ getItem (update d items) key = some value := by
  by_cases hkey : key ∈ keyList items
  · exact .inr (exists_getItem_update hkey)
  · exact .inl (getItem_update_of_not_mem hkey)

theorem getItem_perm {left right : Dict κ ν} (hnodup : (keyList right).Nodup)
    (hperm : List.Perm left right) (key : κ) : getItem left key = getItem right key := by
  have hleft : (keyList left).Nodup := (hperm.map Prod.fst).nodup_iff.mpr hnodup
  cases hfound : getItem left key with
  | some value =>
    have hmem := hperm.subset (mem_of_getItem hfound)
    exact (getItem_of_mem hnodup hmem).symm
  | none =>
    cases hother : getItem right key with
    | none => rfl
    | some value =>
      have hmem := hperm.symm.subset (mem_of_getItem hother)
      rw [getItem_of_mem hleft hmem] at hfound
      cases hfound

theorem getItem_update_eq (d items : Dict κ ν) (key : κ) :
    getItem (update d items) key = (getItem (update [] items) key).or (getItem d key) := by
  induction items generalizing d with
  | nil => rfl
  | cons item rest ih =>
    obtain ⟨k, v⟩ := item
    have hstart : ∀ start : Dict κ ν, update start ((k, v) :: rest) =
        update (setItem start k v) rest := fun _ => rfl
    rw [hstart, hstart, ih, ih (setItem [] k v)]
    by_cases hsame : key = k
    · rw [hsame, getItem_setItem_self, getItem_setItem_self, Option.or_assoc, Option.some_or]
    · rw [getItem_setItem_of_ne d v hsame, getItem_setItem_of_ne [] v hsame, getItem_nil,
        Option.or_none]

theorem keyList_popItem (d : Dict κ ν) (key : κ) :
    keyList (popItem d key) = (keyList d).filter fun other => other ≠ key := by
  rw [keyList, keyList, popItem, List.filter_map]
  rfl

theorem mem_keyList_popItem {d : Dict κ ν} {key other : κ} :
    other ∈ keyList (popItem d key) ↔ other ∈ keyList d ∧ other ≠ key := by
  rw [keyList_popItem, List.mem_filter]
  simp

theorem nodup_popItem (key : κ) (hnodup : (keyList d).Nodup) : (keyList (popItem d key)).Nodup := by
  rw [keyList_popItem]
  exact hnodup.filter _

theorem length_popItem_le (d : Dict κ ν) (key : κ) : (popItem d key).length ≤ d.length :=
  List.length_filter_le _ _

theorem length_popItem_lt (hmem : key ∈ keyList d) : (popItem d key).length < d.length := by
  obtain ⟨value, hvalue⟩ := exists_getItem_of_mem_keyList hmem
  apply List.length_filter_lt_length_iff_exists.mpr
  exact ⟨(key, value), mem_of_getItem hvalue, by simp⟩

@[simp]
theorem getItem_popItem_self (d : Dict κ ν) (key : κ) : getItem (popItem d key) key = none := by
  by_contra hsome
  obtain ⟨value, hvalue⟩ := Option.ne_none_iff_exists'.mp hsome
  exact (mem_keyList_popItem.mp (mem_keyList_of_getItem hvalue)).2 rfl

theorem getItem_popItem_of_ne (d : Dict κ ν) (hne : other ≠ key) :
    getItem (popItem d key) other = getItem d other := by
  induction d with
  | nil => rfl
  | cons item rest ih =>
    obtain ⟨k, v⟩ := item
    by_cases hk : k = key
    · have hother : k ≠ other := fun heq => hne (heq.symm.trans hk)
      simpa [popItem, hk, getItem_cons, hk ▸ hother] using ih
    · simp only [popItem, List.filter_cons, ne_eq, hk, not_false_eq_true, decide_true,
        if_true, getItem_cons]
      split
      · rfl
      · exact ih

theorem setItem_cons (k key : κ) (v value : ν) (rest : Dict κ ν) :
    setItem ((k, v) :: rest) key value =
      if k = key then (k, value) :: rest else (k, v) :: setItem rest key value := rfl

theorem popItem_cons (k key : κ) (v : ν) (rest : Dict κ ν) : popItem ((k, v) :: rest) key =
      if k = key then popItem rest key else (k, v) :: popItem rest key := by
  unfold popItem
  rw [List.filter_cons]
  by_cases hk : k = key
  · rw [if_neg (by simpa using hk), if_pos hk]
  · rw [if_pos (by simpa using hk), if_neg hk]

theorem popItem_of_not_mem (hmem : key ∉ keyList d) : popItem d key = d := by
  apply List.filter_eq_self.mpr
  intro item hitem
  apply decide_eq_true
  rintro rfl
  exact hmem (List.mem_map_of_mem hitem)

@[simp]
theorem popItem_setItem (d : Dict κ ν) (key : κ) (value : ν) :
    popItem (setItem d key value) key = popItem d key := by
  induction d with
  | nil => exact (popItem_cons key key value []).trans (if_pos rfl)
  | cons item rest ih =>
    obtain ⟨k, v⟩ := item
    rw [setItem_cons]
    split
    next hk => rw [popItem_cons, popItem_cons, if_pos hk, if_pos hk]
    next hk => rw [popItem_cons, popItem_cons, ih]

theorem perm_popItem (key : κ) (hnodup : (keyList d).Nodup) :
    List.Perm d (((getItem d key).map fun value => (key, value)).toList ++ popItem d key) := by
  induction d with
  | nil => exact List.Perm.refl _
  | cons item rest ih =>
    obtain ⟨k, v⟩ := item
    obtain ⟨hfresh, hrest⟩ := List.nodup_cons.mp hnodup
    rw [getItem_cons, popItem_cons]
    split
    next hk =>
      rw [popItem_of_not_mem (hk ▸ hfresh), hk]
      exact List.Perm.refl _
    next hk => exact ((ih hrest).cons (k, v)).trans List.perm_middle.symm

/-! ## Filtered dictionaries -/

theorem getItem_filter (hkept : ∀ value, (key, value) ∈ d → keep (key, value) = true) :
    getItem (d.filter keep) key = getItem d key := by
  induction d with
  | nil => rfl
  | cons item rest ih =>
    obtain ⟨k, v⟩ := item
    have hrest := ih fun value hmem => hkept value (List.mem_cons_of_mem _ hmem)
    rw [List.filter_cons, getItem_cons]
    by_cases hk : k = key
    · subst hk
      rw [if_pos (hkept v List.mem_cons_self), getItem_cons, if_pos rfl, if_pos rfl]
    · rw [if_neg hk]
      split
      · rw [getItem_cons, if_neg hk, hrest]
      · exact hrest

theorem getItem_filter_of_kept (hget : getItem d key = some value)
    (hkept : keep (key, value) = true) :
    getItem (d.filter keep) key = some value := by
  induction d with
  | nil => cases hget
  | cons item rest ih =>
    obtain ⟨k, v⟩ := item
    rw [getItem_cons] at hget
    rw [List.filter_cons]
    by_cases hk : k = key
    · subst hk
      rw [if_pos rfl] at hget
      cases hget
      rw [if_pos hkept, getItem_cons, if_pos rfl]
    · rw [if_neg hk] at hget
      split
      · rw [getItem_cons, if_neg hk, ih hget]
      · exact ih hget

theorem getItem_filter_key (keep : κ → Bool) (d : Dict κ ν) (key : κ) :
    getItem (d.filter fun item => keep item.1) key = if keep key then getItem d key else none := by
  split
  · rename_i hkeep
    exact getItem_filter fun _ _ => hkeep
  · rename_i hdropped
    by_contra hsome
    obtain ⟨value, hvalue⟩ := Option.ne_none_iff_exists'.mp hsome
    exact hdropped (List.mem_filter.mp (mem_of_getItem hvalue)).2

theorem mem_of_mem_setItem {found : ν} (hmem : (other, found) ∈ setItem d key value) :
    (other = key ∧ found = value) ∨ (other, found) ∈ d := by
  induction d with
  | nil =>
    have heq := List.mem_singleton.mp hmem
    exact .inl (Prod.mk.inj heq)
  | cons item rest ih =>
    obtain ⟨k, v⟩ := item
    rw [setItem_cons] at hmem
    split at hmem
    · rename_i hk
      rcases List.mem_cons.mp hmem with heq | hrest
      · obtain ⟨rfl, rfl⟩ := Prod.mk.inj heq
        exact .inl ⟨hk, rfl⟩
      · exact .inr (List.mem_cons_of_mem _ hrest)
    · rcases List.mem_cons.mp hmem with heq | hrest
      · exact .inr (heq ▸ List.mem_cons_self)
      · exact (ih hrest).imp_right (List.mem_cons_of_mem _)

theorem filter_setItem (hkept : ∀ found, (key, found) ∈ d → keep (key, found) = true)
    (hvalue : keep (key, value) = true) :
    (setItem d key value).filter keep = setItem (d.filter keep) key value := by
  induction d with
  | nil => simp [setItem, hvalue]
  | cons item rest ih =>
    obtain ⟨k, v⟩ := item
    have hrest := ih fun found hmem => hkept found (List.mem_cons_of_mem _ hmem)
    by_cases hk : k = key
    · subst hk
      simp [setItem, hvalue, hkept v List.mem_cons_self]
    · rw [setItem_cons, if_neg hk, List.filter_cons, List.filter_cons]
      split
      · rw [setItem_cons, if_neg hk, hrest]
      · exact hrest

theorem filter_setItem_of_dropped (hdropped : ∀ found, (key, found) ∈ d → keep (key, found) = false)
    (hvalue : keep (key, value) = false) :
    (setItem d key value).filter keep = d.filter keep := by
  induction d with
  | nil => simp [setItem, hvalue]
  | cons item rest ih =>
    obtain ⟨k, v⟩ := item
    have hrest := ih fun found hmem => hdropped found (List.mem_cons_of_mem _ hmem)
    by_cases hk : k = key
    · subst hk
      simp [setItem, hvalue, hdropped v List.mem_cons_self]
    · rw [setItem_cons, if_neg hk, List.filter_cons, List.filter_cons, hrest]

end Dict

end SignPulse.Foundation
