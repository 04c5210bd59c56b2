import Mathlib.Data.List.Infix
import SignPulse.Foundation.PyText
import SignPulse.Plugin.PluginStorage

/-!
# Keys under a prefix

`list_keys` and `get_all` look for a prefix with `LIKE`.  The prefix is escaped, so that the
pattern has one wildcard, its last character; but `LIKE` takes ASCII letters of either case for
the same.
-/

namespace SignPulse.Plugin

open Foundation

/-! ## Patterns of LIKE -/

inductive LikeItem where
  | any
  | one
  | same (c : Char)

/-- A pattern that is read with `ESCAPE '/'`.  One that ends in the escape matches nothing. -/
def readPattern : List Char → Option (List LikeItem)
  | [] => some []
  | ['/'] => none
  | c :: d :: rest =>
    if c = '/' then (readPattern rest).map (.same d :: ·)
    else (readPattern (d :: rest)).map
      ((if c = '%' then .any else if c = '_' then .one else .same c) :: ·)
  | [c] => some [if c = '%' then .any else if c = '_' then .one else .same c]

def matchItems : List LikeItem → List Char → Bool
  | [], text => text.isEmpty
  | .any :: items, text => text.tails.any (matchItems items)
  | .one :: items, _ :: rest => matchItems items rest
  | .same c :: items, d :: rest => foldCase c = foldCase d && matchItems items rest
  | _ :: _, [] => false

/-- `text LIKE pattern ESCAPE '/'`. -/
def like (pattern text : List Char) : Bool :=
  (readPattern pattern).any fun items => matchItems items text

/-! ## The statements -/

def escapeLike (text : List Char) : List Char :=
  replaceChar '_' ['/', '_'] (replaceChar '%' ['/', '%'] (replaceChar '/' ['/', '/'] text))

/-- The rows that `list_keys` and `get_all` select. -/
def prefixRows (table : Table) (ns start : String) : List (String × Row) :=
  if start ≠ "" then
    selectRows table ns fun key => like (escapeLike start.toList ++ ['%']) key.toList
  else selectRows table ns fun _ => true

/-- `list_keys`. -/
def PluginStore.listKeys (table : Table) (now : ℚ) (ns start : String) : List String × Table :=
  let rows := prefixRows table ns start
  (((rows.filter fun row => !row.2.expired now).map Prod.fst).mergeSort fun left right =>
    left ≤ right, deleteKeys table ns (expiredKeys now rows))

/-! ## What the pattern matches -/

theorem escapeLike_cons (c : Char) (text : List Char) : escapeLike (c :: text) =
      (if c = '/' ∨ c = '%' ∨ c = '_' then ['/', c] else [c]) ++ escapeLike text := by
  by_cases hslash : c = '/'
  · simp [escapeLike, replaceChar, hslash]
  by_cases hpercent : c = '%'
  · simp [escapeLike, replaceChar, hpercent]
  by_cases hunder : c = '_'
  · simp [escapeLike, replaceChar, hunder]
  · simp [escapeLike, replaceChar, hslash, hpercent, hunder]

theorem readPattern_escaped (text : List Char) :
    readPattern (escapeLike text ++ ['%']) = some (text.map .same ++ [.any]) := by
  induction text with
  | nil => rfl
  | cons c text ih =>
    obtain ⟨d, rest, hrest⟩ : ∃ d rest, escapeLike text ++ ['%'] = d :: rest :=
      List.exists_cons_of_ne_nil (by simp)
    rw [escapeLike_cons, List.append_assoc, hrest]
    rw [hrest] at ih
    split
    · simp [readPattern, ih]
    · next hplain =>
      simp only [not_or] at hplain
      simp [readPattern, ih, hplain]

theorem matchItems_prefix (start text : List Char) : matchItems (start.map .same ++ [.any]) text =
      (start.map foldCase).isPrefixOf (text.map foldCase) := by
  induction start generalizing text with
  | nil => simp [matchItems]
  | cons c start ih =>
    cases text with
    | nil => rfl
    | cons d text => simp [matchItems, ih, List.isPrefixOf, Bool.beq_eq_decide_eq]

theorem like_escaped (start key : String) :
    like (escapeLike start.toList ++ ['%']) key.toList = likePrefix start key := by
  simp [like, readPattern_escaped, matchItems_prefix, likePrefix]

theorem prefixRows_eq (table : Table) (ns start : String) :
    prefixRows table ns start = selectRows table ns (likePrefix start) := by
  unfold prefixRows
  split
  · simp only [like_escaped]
  · next hempty =>
    rw [not_not.1 hempty]
    exact congrArg (selectRows table ns) (funext fun key => by simp [likePrefix])

/-! ## Exactness -/

/-- Both calls return what stands in the namespace under the keys that begin with the prefix. -/
structure ExactPrefix (table : Table) (now : ℚ) (ns start : String) : Prop where
  nodup : (PluginStore.listKeys table now ns start).1.Nodup
  mem_listKeys : ∀ key, key ∈ (PluginStore.listKeys table now ns start).1 ↔
    start.toList <+: key.toList ∧ ∃ row, standing table now ns key = some row
  getItem_getAll : ∀ key, Dict.getItem (PluginStore.getAll table now ns start).1 key =
    if start.toList <+: key.toList then (standing table now ns key).map Row.value else none

section Exactness

variable {table : Table} {now : ℚ} {ns start key : String}

theorem nodup_listKeys (hkeyed : (Dict.keyList table).Nodup) :
    (PluginStore.listKeys table now ns start).1.Nodup := by
  rw [PluginStore.listKeys, (List.mergeSort_perm _ _).nodup_iff, prefixRows_eq]
  exact (nodup_selectRows hkeyed ns _).sublist (List.filter_sublist.map _)

theorem mem_listKeys (hkeyed : (Dict.keyList table).Nodup) :
    key ∈ (PluginStore.listKeys table now ns start).1 ↔
      likePrefix start key = true ∧ ∃ row, standing table now ns key = some row := by
  have hfresh : key ∈ (PluginStore.listKeys table now ns start).1 ↔
      key ∈ Dict.keyList (freshValues now (selectRows table ns (likePrefix start))) := by
    rw [PluginStore.listKeys, List.mem_mergeSort, prefixRows_eq, freshValues, Dict.keyList,
      List.map_map]
    rfl
  have hvalue := getItem_freshValues hkeyed now ns (likePrefix start) key
  rw [hfresh]
  constructor
  · intro hmem
    obtain ⟨value, hget⟩ := Dict.exists_getItem_of_mem_keyList hmem
    rw [hget] at hvalue
    split at hvalue
    · next hstarts =>
      obtain ⟨row, hrow, -⟩ := Option.map_eq_some_iff.1 hvalue.symm
      exact ⟨hstarts, row, hrow⟩
    · contradiction
  · rintro ⟨hstarts, row, hrow⟩
    rw [if_pos hstarts, hrow] at hvalue
    exact Dict.mem_keyList_of_getItem hvalue

theorem likePrefix_of_starts (hstarts : start.toList <+: key.toList) :
    likePrefix start key = true :=
  List.isPrefixOf_iff_prefix.2 (hstarts.map foldCase)

/-- The calls are exact as long as case alone tells no standing key from the prefix. -/
theorem exactPrefix_iff (hkeyed : (Dict.keyList table).Nodup) (now : ℚ) (ns start : String) :
    ExactPrefix table now ns start ↔
      ∀ key row, standing table now ns key = some row → likePrefix start key = true →
        start.toList <+: key.toList := by
  constructor
  · intro hexact key row hrow hlike
    exact ((hexact.mem_listKeys key).1 ((mem_listKeys hkeyed).2 ⟨hlike, row, hrow⟩)).1
  · intro hcase
    refine ⟨nodup_listKeys hkeyed, fun key => (mem_listKeys hkeyed).trans ?_, fun key => ?_⟩
    · constructor
      · rintro ⟨hlike, row, hrow⟩
        exact ⟨hcase key row hrow hlike, row, hrow⟩
      · rintro ⟨hstarts, hrow⟩
        exact ⟨likePrefix_of_starts hstarts, hrow⟩
    · rw [PluginStore.getAll, getItem_freshValues hkeyed]
      by_cases hstarts : start.toList <+: key.toList
      · rw [if_pos (likePrefix_of_starts hstarts), if_pos hstarts]
      · rw [if_neg hstarts]
        split
        · next hlike =>
          cases hrow : standing table now ns key with
          | none => rfl
          | some row => exact absurd (hcase key row hrow hlike) hstarts
        · rfl

end Exactness

/-- Two users, and no one else. -/
def userRows : Table := [(("bot", "u_1"), ⟨.int 1, none⟩), (("bot", "U_2"), ⟨.int 2, none⟩)]

theorem exactPrefix_iff_users : ExactPrefix userRows 0 "bot" "u_1" ↔
    ∀ key row, standing userRows 0 "bot" key = some row → likePrefix "u_1" key = true →
      "u_1".toList <+: key.toList :=
  exactPrefix_iff (by decide) 0 "bot" "u_1"

theorem listed_in_other_case :
    "U_2" ∈ (PluginStore.listKeys userRows 0 "bot" "u_").1 ∧ ¬ "u_".toList <+: "U_2".toList := by
  refine ⟨(mem_listKeys (by decide)).2 ⟨by decide, ⟨.int 2, none⟩, rfl⟩, by decide⟩

/-! ## Cleaning up -/

section CleaningUp

variable {table : Table} {now later : ℚ} {row : Row}

theorem mem_standing (hkeyed : (Dict.keyList table).Nodup) {ns key : String} :
    standing table now ns key = some row ↔
      ((ns, key), row) ∈ table ∧ (!row.expired now) = true := by
  rw [standing, Option.filter_eq_some_iff]
  exact and_congr_left fun _ => ⟨Dict.mem_of_getItem, Dict.getItem_of_mem hkeyed⟩

theorem kept_of_fresh (hle : now ≤ later) (hfresh : (!row.expired later) = true) (covered : Bool) :
    (!(covered && row.expired now)) = true := by
  have hnow := mt (Row.expired_mono hle) (by simpa using hfresh)
  simp [hnow]

/-- What has expired is invisible to every later read, so that no read sees whether it has been
purged. -/
theorem reads_purgeExpired (hkeyed : (Dict.keyList table).Nodup) (hle : now ≤ later)
    (scope : Option String) (ns : String) :
    let purged := PluginStore.purgeExpired table now scope
    (∀ key, (PluginStore.get purged later ns key).1 = (PluginStore.get table later ns key).1) ∧
      (∀ start, (PluginStore.getAll purged later ns start).1 =
        (PluginStore.getAll table later ns start).1) ∧
      ∀ start, (PluginStore.listKeys purged later ns start).1 =
        (PluginStore.listKeys table later ns start).1 := by
  intro purged
  have hpurged : (Dict.keyList purged).Nodup := nodup_filter hkeyed
  have hstanding : ∀ key, standing purged later ns key = standing table later ns key := by
    intro key
    ext row
    rw [mem_standing hpurged, mem_standing hkeyed]
    exact and_congr_left fun hfresh =>
      List.mem_filter.trans (and_iff_left (kept_of_fresh hle hfresh _))
  have hget : ∀ table key, (PluginStore.get table later ns key).1 =
      (standing table later ns key).map Row.value := by
    intro table key
    unfold PluginStore.get standing
    cases Dict.getItem table (ns, key) with
    | none => rfl
    | some row => cases hrow : row.expired later <;> simp [hrow]
  have hrows : ∀ wanted, (selectRows purged ns wanted).filter (fun row => !row.2.expired later) =
      (selectRows table ns wanted).filter fun row => !row.2.expired later := by
    intro wanted
    rw [selectRows, selectRows, List.filter_filterMap, List.filter_filterMap]
    refine (List.filterMap_filter ..).trans (List.filterMap_congr fun entry _ => ?_)
    cases hfresh : !entry.2.expired later with
    | true => rw [if_pos (kept_of_fresh hle hfresh _)]
    | false =>
      split
      · rfl
      · split
        · symm
          simpa using hfresh
        · rfl
  refine ⟨fun key => ?_, fun start => ?_, fun start => ?_⟩
  · rw [hget, hget, hstanding]
  · rw [PluginStore.getAll, PluginStore.getAll, freshValues, freshValues, hrows]
  · rw [PluginStore.listKeys, PluginStore.listKeys, prefixRows_eq, prefixRows_eq, hrows]

end CleaningUp

theorem reads_purgeExpired_users :
    let table := upsert userRows "bot" [("u_3", ⟨.int 3, some 2⟩)]
    (PluginStore.getAll (PluginStore.purgeExpired table 3 none) 4 "bot" "u").1 =
      (PluginStore.getAll table 4 "bot" "u").1 :=
  (reads_purgeExpired (by decide) (by decide) none "bot").2.1 "u"

end SignPulse.Plugin
