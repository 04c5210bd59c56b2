import Mathlib.Data.List.Basic

/-!
# Fields joined by a separator

Three fields in one list, with a separator between them.  A list that is joined from fields
without the separator is joined from no others.
-/

namespace SignPulse.Foundation

variable {α : Type*} {sep : α}

def joined (sep : α) (first second third : List α) : List α :=
  first ++ sep :: (second ++ sep :: third)

theorem eq_of_append_separator_of_count [DecidableEq α] {left right rest others : List α}
    (hcount : left.count sep = right.count sep)
    (heq : left ++ sep :: rest = right ++ sep :: others) : left = right ∧ rest = others := by
  obtain ⟨more, hmore, htail⟩ | ⟨more, hmore, htail⟩ := List.append_eq_append_iff.mp heq
  · cases more with
    | nil =>
      rw [List.append_nil] at hmore
      exact ⟨hmore.symm, (List.cons.inj htail).2⟩
    | cons next more =>
      obtain ⟨rfl, -⟩ := List.cons.inj htail
      rw [hmore, List.count_append, List.count_cons_self] at hcount
      omega
  · cases more with
    | nil =>
      rw [List.append_nil] at hmore
      exact ⟨hmore, (List.cons.inj htail).2.symm⟩
    | cons next more =>
      obtain ⟨rfl, -⟩ := List.cons.inj htail
      rw [hmore, List.count_append, List.count_cons_self] at hcount
      omega

/-- The first separator ends the first field. -/
theorem eq_of_append_separator {left right rest others : List α} (hleft : sep ∉ left)
    (hright : sep ∉ right) (heq : left ++ sep :: rest = right ++ sep :: others) :
    left = right ∧ rest = others := by
  classical
  refine eq_of_append_separator_of_count ?_ heq
  rw [List.count_eq_zero.mpr hleft, List.count_eq_zero.mpr hright]

variable [DecidableEq α]

theorem count_joined (first second third : List α) : (joined sep first second third).count sep =
      first.count sep + second.count sep + third.count sep + 2 := by
  rw [joined, List.count_append, List.count_cons_self, List.count_append, List.count_cons_self]
  omega

/-- The other fields have no separator either, for there are only two in the whole list. -/
theorem joined_inj {first second third first' second' third' : List α} (hfirst : sep ∉ first)
    (hsecond : sep ∉ second) (hthird : sep ∉ third)
    (heq : joined sep first' second' third' = joined sep first second third) :
    first' = first ∧ second' = second ∧ third' = third := by
  have hcount := congrArg (List.count sep) heq
  rw [count_joined, count_joined, List.count_eq_zero.mpr hfirst, List.count_eq_zero.mpr hsecond,
    List.count_eq_zero.mpr hthird] at hcount
  have hfirst' : sep ∉ first' := List.count_eq_zero.mp (by omega)
  have hsecond' : sep ∉ second' := List.count_eq_zero.mp (by omega)
  obtain ⟨hsame, hrest⟩ := eq_of_append_separator hfirst' hfirst heq
  exact ⟨hsame, eq_of_append_separator hsecond' hsecond hrest⟩

end SignPulse.Foundation
