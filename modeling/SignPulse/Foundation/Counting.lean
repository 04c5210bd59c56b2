import Mathlib.Data.List.Basic

/-!
# Counting in a list

How a count changes with one item.
-/

namespace SignPulse.Foundation

variable {β : Type*} {P : β → Bool}

theorem countP_concat (items : List β) (item : β) :
    (items ++ [item]).countP P = items.countP P + (P item).toNat := by
  rw [List.countP_append]
  cases hitem : P item with
  | true => simp [hitem]
  | false => simp [hitem]

theorem countP_set_add {items : List β} {index : ℕ} {item : β}
    (hitem : items[index]? = some item) (changed : β) :
    (items.set index changed).countP P + (P item).toNat = items.countP P + (P changed).toNat := by
  obtain ⟨hlt, hget⟩ := List.getElem?_eq_some_iff.mp hitem
  have hmem : item ∈ items := List.mem_of_getElem? hitem
  rw [List.countP_set hlt, hget]
  cases hbefore : P item with
  | true =>
    have hpos : 0 < items.countP P := List.countP_pos_iff.mpr ⟨item, hmem, hbefore⟩
    cases P changed with
    | true => simp; omega
    | false => simp; omega
  | false =>
    cases P changed with
    | true => simp
    | false => simp

end SignPulse.Foundation
