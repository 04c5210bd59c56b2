import Mathlib.Data.List.Perm.Subperm
import SignPulse.Foundation.PyValue

/-!
# Python equality is an equivalence

`==` on plain data: reflexive, symmetric and transitive on the values whose dictionaries hold
every key once, as those of Python do.
-/

namespace SignPulse.Foundation.PyValue

/-! ## Values with distinct keys -/

mutual

/-- No dictionary in the value holds a key twice. -/
def Proper : PyValue → Prop
  | .list items => ProperItems items
  | .dict entries => (Dict.keyList entries).Nodup ∧ ProperEntries entries
  | _ => True

def ProperItems : List PyValue → Prop
  | [] => True
  | item :: rest => Proper item ∧ ProperItems rest

def ProperEntries : List (String × PyValue) → Prop
  | [] => True
  | (_, value) :: rest => Proper value ∧ ProperEntries rest

end

variable {items : List PyValue} {entries : List (String × PyValue)} {other : PyValue}

theorem properItems_iff : ProperItems items ↔ ∀ item ∈ items, Proper item := by
  induction items with
  | nil => simp [ProperItems]
  | cons item rest ih => simp [ProperItems, ih]

theorem properEntries_iff : ProperEntries entries ↔ ∀ entry ∈ entries, Proper entry.2 := by
  induction entries with
  | nil => simp [ProperEntries]
  | cons entry rest ih => simp [ProperEntries, ih]

theorem proper_list : Proper (.list items) ↔ ∀ item ∈ items, Proper item := by
  rw [Proper, properItems_iff]

theorem proper_dict : Proper (.dict entries) ↔
      (Dict.keyList entries).Nodup ∧ ∀ entry ∈ entries, Proper entry.2 := by
  rw [Proper, properEntries_iff]

theorem Proper.of_getItem {entries : Dict String PyValue} (hproper : Proper (.dict entries))
    {key : String} {value : PyValue} (hvalue : Dict.getItem entries key = some value) :
    Proper value :=
  (proper_dict.mp hproper).2 _ (Dict.mem_of_getItem hvalue)

/-! ## Equality of lists and of dictionaries -/

theorem listEq_iff {others : List PyValue} : listEq items others = true ↔
      List.Forall₂ (fun left right => eq left right = true) items others := by
  induction items generalizing others with
  | nil => cases others <;> simp [listEq]
  | cons item rest ih => cases others <;> simp [listEq, ih]

theorem entriesEq_iff {others : List (String × PyValue)} :
    entriesEq entries others = true ↔ ∀ key value, (key, value) ∈ entries →
      ∃ other, Dict.getItem others key = some other ∧ eq value other = true := by
  induction entries with
  | nil => simp [entriesEq]
  | cons entry rest ih =>
    obtain ⟨key, value⟩ := entry
    rw [entriesEq, Bool.and_eq_true_iff, ih]
    constructor
    · rintro ⟨hhead, hrest⟩ other found hmem
      obtain heq | hmem := List.mem_cons.mp hmem
      · obtain ⟨rfl, rfl⟩ := Prod.mk.inj heq
        split at hhead
        · next right hright => exact ⟨right, hright, hhead⟩
        · exact absurd hhead Bool.false_ne_true
      · exact hrest other found hmem
    · intro hall
      refine ⟨?_, fun other found hmem => hall other found (List.mem_cons_of_mem _ hmem)⟩
      obtain ⟨right, hright, heq⟩ := hall key value List.mem_cons_self
      rw [hright]
      exact heq

theorem eq_list : eq (.list items) other = true ↔ ∃ others, other = .list others ∧
      List.Forall₂ (fun left right => eq left right = true) items others := by
  cases other <;> simp [eq, listEq_iff]

theorem eq_dict : eq (.dict entries) other = true ↔ ∃ others, other = .dict others ∧
      entries.length = others.length ∧ ∀ key value, (key, value) ∈ entries →
        ∃ found, Dict.getItem others key = some found ∧ eq value found = true := by
  cases other <;> simp [eq, entriesEq_iff]

theorem eq_number {value : PyValue} {number : ℚ} (hvalue : value.number? = some number) :
    eq value other = true ↔ other.number? = some number := by
  cases value <;> simp only [number?, Option.some.injEq, reduceCtorEq] at hvalue <;>
    subst hvalue <;> simp [eq]

/-! ## Equivalence -/

section Relations

variable {α : Type*} {r : α → α → Prop} {items others last : List α}

theorem forall₂_trans_of_mem (hfirst : List.Forall₂ r items others)
    (hsecond : List.Forall₂ r others last)
    (htrans : ∀ item ∈ items, ∀ other found, r item other → r other found → r item found) :
    List.Forall₂ r items last := by
  induction hfirst generalizing last with
  | nil => exact hsecond
  | cons hhead _ ih =>
    cases hsecond with
    | cons hnext htail =>
      exact .cons (htrans _ List.mem_cons_self _ _ hhead hnext)
        (ih htail fun item hmem => htrans item (List.mem_cons_of_mem _ hmem))

theorem forall₂_symm_of_mem (hrelated : List.Forall₂ r items others)
    (hsymm : ∀ item ∈ items, ∀ other ∈ others, r item other → r other item) :
    List.Forall₂ r others items := by
  induction hrelated with
  | nil => exact .nil
  | cons hhead _ ih =>
    exact .cons (hsymm _ List.mem_cons_self _ List.mem_cons_self hhead)
      (ih fun item hmem other hother =>
        hsymm item (List.mem_cons_of_mem _ hmem) other (List.mem_cons_of_mem _ hother))

end Relations

theorem eq_refl {value : PyValue} (hproper : Proper value) : eq value value = true := by
  induction hdepth : value.depth using Nat.strong_induction_on generalizing value with
  | h depth ih =>
    subst hdepth
    cases value with
    | none => rfl
    | bool value => exact (eq_number rfl).mpr rfl
    | int value => exact (eq_number rfl).mpr rfl
    | float value => exact (eq_number rfl).mpr rfl
    | str text => exact beq_self_eq_true text
    | list items =>
      refine eq_list.mpr ⟨items, rfl, List.forall₂_same.mpr fun item hmem => ?_⟩
      exact ih item.depth (depth_lt_of_mem_list hmem) (proper_list.mp hproper item hmem) rfl
    | dict entries =>
      obtain ⟨hnodup, hentries⟩ := proper_dict.mp hproper
      refine eq_dict.mpr ⟨entries, rfl, rfl, fun key value hmem => ?_⟩
      exact ⟨value, Dict.getItem_of_mem hnodup hmem,
        ih value.depth (depth_lt_of_mem_dict hmem) (hentries _ hmem) rfl⟩

theorem eq_trans {first second third : PyValue} (hleft : eq first second = true)
    (hright : eq second third = true) : eq first third = true := by
  induction hdepth : first.depth using Nat.strong_induction_on generalizing first second third with
  | h depth ih =>
    subst hdepth
    cases first with
    | none =>
      cases second with
      | none => exact hright
      | _ => cases hleft
    | bool value => exact (eq_number rfl).mpr ((eq_number ((eq_number rfl).mp hleft)).mp hright)
    | int value => exact (eq_number rfl).mpr ((eq_number ((eq_number rfl).mp hleft)).mp hright)
    | float value => exact (eq_number rfl).mpr ((eq_number ((eq_number rfl).mp hleft)).mp hright)
    | str text =>
      cases second with
      | str other =>
        obtain rfl := eq_of_beq hleft
        exact hright
      | _ => cases hleft
    | list items =>
      obtain ⟨others, rfl, hitems⟩ := eq_list.mp hleft
      obtain ⟨last, rfl, hothers⟩ := eq_list.mp hright
      exact eq_list.mpr ⟨last, rfl, forall₂_trans_of_mem hitems hothers
        fun item hmem other found hfirst hsecond =>
          ih item.depth (depth_lt_of_mem_list hmem) hfirst hsecond rfl⟩
    | dict entries =>
      obtain ⟨others, rfl, hlength, hentries⟩ := eq_dict.mp hleft
      obtain ⟨last, rfl, hlast, hothers⟩ := eq_dict.mp hright
      refine eq_dict.mpr ⟨last, rfl, hlength.trans hlast, fun key value hmem => ?_⟩
      obtain ⟨middle, hmiddle, hfirst⟩ := hentries key value hmem
      obtain ⟨found, hfound, hsecond⟩ := hothers key middle (Dict.mem_of_getItem hmiddle)
      exact ⟨found, hfound, ih value.depth (depth_lt_of_mem_dict hmem) hfirst hsecond rfl⟩

/-- Dictionaries with equally many distinct keys have the same ones if one has all of the
other's. -/
theorem mem_keyList_of_subset {entries others : Dict String PyValue}
    (hnodup : (Dict.keyList entries).Nodup) (hlength : entries.length = others.length)
    (hsubset : Dict.keyList entries ⊆ Dict.keyList others) {key : String}
    (hkey : key ∈ Dict.keyList others) : key ∈ Dict.keyList entries := by
  have hperm := (hnodup.subperm hsubset).perm_of_length_le (by
    rw [Dict.keyList, Dict.keyList, List.length_map, List.length_map, hlength])
  exact hperm.mem_iff.mpr hkey

theorem eq_symm {left right : PyValue} (hleft : Proper left) (hright : Proper right)
    (heq : eq left right = true) : eq right left = true := by
  induction hdepth : left.depth using Nat.strong_induction_on generalizing left right with
  | h depth ih =>
    subst hdepth
    cases left with
    | none =>
      cases right with
      | none => rfl
      | _ => cases heq
    | bool value => exact (eq_number ((eq_number rfl).mp heq)).mpr rfl
    | int value => exact (eq_number ((eq_number rfl).mp heq)).mpr rfl
    | float value => exact (eq_number ((eq_number rfl).mp heq)).mpr rfl
    | str text =>
      cases right with
      | str other =>
        obtain rfl := eq_of_beq heq
        exact heq
      | _ => cases heq
    | list items =>
      obtain ⟨others, rfl, hitems⟩ := eq_list.mp heq
      rw [proper_list] at hleft hright
      exact eq_list.mpr ⟨items, rfl, forall₂_symm_of_mem hitems fun item hmem other hother hsame =>
          ih item.depth (depth_lt_of_mem_list hmem) (hleft item hmem) (hright other hother)
            hsame rfl⟩
    | dict entries =>
      obtain ⟨others, rfl, hlength, hentries⟩ := eq_dict.mp heq
      obtain ⟨hnodup, hvalues⟩ := proper_dict.mp hleft
      obtain ⟨hothers, hfounds⟩ := proper_dict.mp hright
      refine eq_dict.mpr ⟨entries, rfl, hlength.symm, fun key found hmem => ?_⟩
      have hsubset : Dict.keyList entries ⊆ Dict.keyList others := by
        intro other hother
        obtain ⟨value, hvalue⟩ := Dict.exists_getItem_of_mem_keyList hother
        obtain ⟨partner, hpartner, -⟩ := hentries other value (Dict.mem_of_getItem hvalue)
        exact Dict.mem_keyList_of_getItem hpartner
      obtain ⟨value, hvalue⟩ := Dict.exists_getItem_of_mem_keyList
        (mem_keyList_of_subset hnodup hlength hsubset (List.mem_map_of_mem hmem))
      have hentry := Dict.mem_of_getItem hvalue
      obtain ⟨other, hother, hsame⟩ := hentries key value hentry
      obtain rfl := Option.some.inj (hother.symm.trans (Dict.getItem_of_mem hothers hmem))
      exact ⟨value, hvalue, ih value.depth (depth_lt_of_mem_dict hentry) (hvalues _ hentry)
        (hfounds _ hmem) hsame rfl⟩

end SignPulse.Foundation.PyValue
