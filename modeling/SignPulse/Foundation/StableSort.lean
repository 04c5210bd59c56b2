import Mathlib.Data.List.Sort

/-!
# Places in a sorted list

Insertion sort is stable: what stands before an element afterwards is what is smaller, and what
is equal and stood before it.
-/

namespace SignPulse.Foundation

variable {α : Type*} {r : α → α → Prop} [DecidableRel r]
variable {value item : α} {first rest before after : List α} {n : ℕ}

/-- How many elements stand before `item` once the list is sorted. -/
def sortedRank (r : α → α → Prop) [DecidableRel r] (before : List α) (item : α)
    (after : List α) : ℕ :=
  before.countP (fun other => r other item) + after.countP (fun other => ¬ r item other)

theorem orderedInsert_append_of_le (hle : r value item) :
    (first ++ item :: rest).orderedInsert r value = first.orderedInsert r value ++ item :: rest := by
  induction first with
  | nil => rw [List.nil_append, List.orderedInsert_cons_of_le r rest hle]; rfl
  | cons head tail ih =>
    by_cases hhead : r value head
    · rw [List.cons_append, List.orderedInsert_cons_of_le r _ hhead,
        List.orderedInsert_cons_of_le r _ hhead]
      rfl
    · rw [List.cons_append, List.orderedInsert_of_not_le r _ hhead, ih,
        List.orderedInsert_of_not_le r _ hhead]
      rfl

theorem orderedInsert_append_of_not_le (hfirst : ∀ other ∈ first, ¬ r value other)
    (hitem : ¬ r value item) :
    (first ++ item :: rest).orderedInsert r value = first ++ item :: rest.orderedInsert r value := by
  induction first with
  | nil => exact List.orderedInsert_of_not_le r rest hitem
  | cons head tail ih =>
    rw [List.cons_append, List.orderedInsert_of_not_le r _ (hfirst head List.mem_cons_self),
      ih fun other hother => hfirst other (List.mem_cons_of_mem head hother)]
    rfl

variable [IsTrans α r]

theorem exists_orderedInsert_split (item : α) (hsorted : after.Pairwise r) :
    ∃ first rest, after.orderedInsert r item = first ++ item :: rest ∧
      first.length = after.countP (fun other => ¬ r item other) := by
  induction after with
  | nil => exact ⟨[], [], rfl, rfl⟩
  | cons head tail ih =>
    rw [List.pairwise_cons] at hsorted
    by_cases hhead : r item head
    · refine ⟨[], head :: tail, List.orderedInsert_cons_of_le r tail hhead, ?_⟩
      -- what follows a larger element is larger
      have hlarger : ∀ other ∈ head :: tail, ¬ decide (¬ r item other) = true := by
        intro other hother
        rcases List.mem_cons.1 hother with rfl | htail
        · simpa using hhead
        · simpa using IsTrans.trans _ _ _ hhead (hsorted.1 other htail)
      rw [List.countP_eq_zero.2 hlarger, List.length_nil]
    · obtain ⟨first, rest, hsplit, hlength⟩ := ih hsorted.2
      refine ⟨head :: first, rest, ?_, ?_⟩
      · rw [List.orderedInsert_of_not_le r tail hhead, hsplit]
        rfl
      · rw [List.countP_cons_of_pos (by simpa using hhead), List.length_cons, hlength]

variable [Std.Total r]

theorem exists_insertionSort_split (before : List α) (item : α) (after : List α) :
    ∃ first rest, (before ++ item :: after).insertionSort r = first ++ item :: rest ∧
      first.length = sortedRank r before item after := by
  induction before with
  | nil =>
    obtain ⟨first, rest, hsplit, hlength⟩ :=
      exists_orderedInsert_split item (List.pairwise_insertionSort r after)
    refine ⟨first, rest, hsplit, ?_⟩
    rw [hlength, sortedRank, (List.perm_insertionSort r after).countP_eq, List.countP_nil,
      Nat.zero_add]
  | cons head tail ih =>
    obtain ⟨first, rest, hsplit, hlength⟩ := ih
    have hsorted := List.pairwise_insertionSort r (tail ++ item :: after)
    rw [hsplit] at hsorted
    have hinsert : (head :: tail ++ item :: after).insertionSort r =
        (first ++ item :: rest).orderedInsert r head := by
      rw [List.cons_append, List.insertionSort_cons, hsplit]
    by_cases hhead : r head item
    · refine ⟨first.orderedInsert r head, rest, ?_, ?_⟩
      · rw [hinsert, orderedInsert_append_of_le hhead]
      · rw [List.orderedInsert_length, hlength, sortedRank, sortedRank,
          List.countP_cons_of_pos (by simpa using hhead)]
        omega
    · refine ⟨first, rest.orderedInsert r head, ?_, ?_⟩
      · -- no element before `item` is larger than `head`
        rw [hinsert]
        refine orderedInsert_append_of_not_le (fun other hother hle => hhead ?_) hhead
        exact IsTrans.trans _ _ _ hle
          ((List.pairwise_append.1 hsorted).2.2 other hother item List.mem_cons_self)
      · rw [hlength, sortedRank, sortedRank, List.countP_cons_of_neg (by simpa using hhead)]

/-- An element is among the first of the sorted list if and only if its rank is small. -/
theorem mem_take_insertionSort_iff (hnodup : (before ++ item :: after).Nodup) :
    item ∈ ((before ++ item :: after).insertionSort r).take n ↔
      sortedRank r before item after < n := by
  obtain ⟨first, rest, hsplit, hlength⟩ := exists_insertionSort_split (r := r) before item after
  have hsorted : (first ++ item :: rest).Nodup := by
    rw [← hsplit]
    exact (List.perm_insertionSort r _).nodup_iff.2 hnodup
  rw [List.nodup_middle, List.nodup_cons, List.mem_append, not_or] at hsorted
  rw [hsplit, ← hlength]
  constructor
  · intro hmem
    by_contra hlate
    rw [List.take_append_of_le_length (Nat.le_of_not_lt hlate)] at hmem
    exact hsorted.1.1 (List.mem_of_mem_take hmem)
  · intro hearly
    rw [List.take_append]
    apply List.mem_append_right
    obtain ⟨count, hcount⟩ := Nat.exists_eq_add_of_lt hearly
    have hrest : n - first.length = count + 1 := by omega
    rw [hrest, List.take_succ_cons]
    exact List.mem_cons_self

/-- What is added in front stays there exactly if it is not larger than the rest. -/
theorem mergeSort_cons_eq_iff {le : α → α → Bool}
    (htrans : ∀ first second third, le first second = true → le second third = true →
      le first third = true)
    (htotal : ∀ first second, (le first second || le second first) = true) :
    (value :: rest).mergeSort le = value :: rest.mergeSort le ↔
      ∀ other ∈ rest, le value other = true := by
  constructor
  · intro heq other hother
    have hsorted := List.pairwise_mergeSort htrans htotal (value :: rest)
    rw [heq, List.pairwise_cons] at hsorted
    exact hsorted.1 other (List.mem_mergeSort.mpr hother)
  · intro hall
    obtain ⟨front, back, hcons, hrest, hfront⟩ := List.mergeSort_cons htrans htotal value rest
    cases front with
    | nil => rw [hcons, hrest, List.nil_append, List.nil_append]
    | cons head tail =>
      have hmem : head ∈ rest.mergeSort le := by
        rw [hrest]
        exact List.mem_cons_self
      have hsmaller := hfront head List.mem_cons_self
      rw [hall head (List.mem_mergeSort.mp hmem)] at hsmaller
      cases hsmaller

end SignPulse.Foundation
