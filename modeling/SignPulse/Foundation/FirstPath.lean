import Mathlib.Data.List.Basic

/-!
# First paths

A graph whose nodes list their edges in an order has, for each node that can be
reached, one path to it that is the first: it leaves from the first root and
takes the first edge, each time, from which the node can be reached without
meeting the path again.
-/

namespace SignPulse.Foundation

variable {ν : Type} {skips : ν → Bool} {neighbors : ν → List ν} {roots : List ν} {target : ν}

/-- `Avoids skips neighbors path start target`: edges lead from `start` to
`target` without a node of `path`. -/
inductive Avoids (skips : ν → Bool) (neighbors : ν → List ν) (path : List ν) :
    ν → ν → Prop where
  | here {node : ν} (hlive : skips node = false) (hout : node ∉ path) :
      Avoids skips neighbors path node node
  | step {node next target : ν} (hlive : skips node = false) (hout : node ∉ path)
      (hedge : next ∈ neighbors node)
      (hrest : Avoids skips neighbors path next target) :
      Avoids skips neighbors path node target

/-- The paths on the way to `target`: from the first root that reaches it, each
time along the first edge from which it can still be reached without the path
so far. -/
inductive FirstPath (skips : ν → Bool) (neighbors : ν → List ν) (roots : List ν)
    (target : ν) : List ν → Prop where
  | root {before after : List ν} {node : ν} (hroots : roots = before ++ node :: after)
      (hearlier : ∀ other ∈ before, ¬ Avoids skips neighbors [] other target)
      (hreach : Avoids skips neighbors [] node target) :
      FirstPath skips neighbors roots target [node]
  | step {path before after : List ν} {last node : ν}
      (hpath : FirstPath skips neighbors roots target (path ++ [last]))
      (hedges : neighbors last = before ++ node :: after)
      (hearlier : ∀ other ∈ before, ¬ Avoids skips neighbors (path ++ [last]) other target)
      (hreach : Avoids skips neighbors (path ++ [last]) node target) :
      FirstPath skips neighbors roots target (path ++ [last] ++ [node])

/-- The path is the first one to its last node, from which an edge leads back
to `node` on it. -/
def BackEdge (skips : ν → Bool) (neighbors : ν → List ν) (roots path : List ν) (node : ν) : Prop :=
  ∃ before last, path = before ++ [last] ∧
    FirstPath skips neighbors roots last path ∧ node ∈ neighbors last ∧ node ∈ path

variable {path : List ν} {node : ν}

theorem Avoids.live (havoids : Avoids skips neighbors path node target) : skips node = false := by
  cases havoids <;> assumption

theorem Avoids.target_not_mem (havoids : Avoids skips neighbors path node target) :
    target ∉ path := by
  induction havoids with
  | here _ hout => exact hout
  | step _ _ _ _ ih => exact ih

theorem Avoids.mono {more : List ν} (havoids : Avoids skips neighbors more node target)
    (hsub : path ⊆ more) :
    Avoids skips neighbors path node target := by
  induction havoids with
  | here hlive hout => exact .here hlive fun hmem => hout (hsub hmem)
  | step hlive hout hedge _ ih => exact .step hlive (fun hmem => hout (hsub hmem)) hedge ih

theorem FirstPath.live (hfirst : FirstPath skips neighbors roots target path) :
    ∀ node ∈ path, skips node = false := by
  induction hfirst with
  | root _ _ hreach =>
    intro node hnode
    rw [List.mem_singleton.mp hnode]
    exact hreach.live
  | step _ _ _ hreach ih =>
    intro node hnode
    rcases List.mem_append.mp hnode with hbefore | hlast
    · exact ih node hbefore
    · rw [List.mem_singleton.mp hlast]
      exact hreach.live

theorem FirstPath.reached (hfirst : FirstPath skips neighbors roots target path) :
    ∃ root ∈ roots, Avoids skips neighbors [] root target := by
  induction hfirst with
  | root hroots _ hreach =>
    exact ⟨_, hroots ▸ List.mem_append_right _ List.mem_cons_self, hreach⟩
  | step _ _ _ _ ih => exact ih

theorem first_unique {nodes before after before' after' : List ν} {node' : ν} {P : ν → Prop}
    (hsplit : nodes = before ++ node :: after) (hearlier : ∀ other ∈ before, ¬ P other)
    (hnode : P node) (hsplit' : nodes = before' ++ node' :: after')
    (hearlier' : ∀ other ∈ before', ¬ P other) (hnode' : P node') : node = node' := by
  classical
  have hfind : nodes.find? (fun other => decide (P other)) = some node :=
    List.find?_eq_some_iff_append.mpr
      ⟨by simpa using hnode, before, after, hsplit, by simpa using hearlier⟩
  have hfind' : nodes.find? (fun other => decide (P other)) = some node' :=
    List.find?_eq_some_iff_append.mpr
      ⟨by simpa using hnode', before', after', hsplit', by simpa using hearlier'⟩
  exact Option.some.inj (hfind.symm.trans hfind')

theorem FirstPath.unique_of_length {other : List ν}
    (hpath : FirstPath skips neighbors roots target path)
    (hother : FirstPath skips neighbors roots target other) (hlength : path.length = other.length) :
    path = other := by
  induction hpath generalizing other with
  | root hroots hearlier hreach =>
    cases hother with
    | root hroots' hearlier' hreach' =>
      rw [first_unique hroots hearlier hreach hroots' hearlier' hreach']
    | step _ _ _ _ => simp at hlength
  | step hpath hedges hearlier hreach ih =>
    cases hother with
    | root _ _ _ => simp at hlength
    | step hpath' hedges' hearlier' hreach' =>
      have hsame := ih hpath' (by simpa using hlength)
      obtain ⟨rfl, hlast⟩ := List.append_inj' hsame rfl
      obtain rfl := List.singleton_inj.mp hlast
      rw [first_unique hedges hearlier hreach hedges' hearlier' hreach']

theorem FirstPath.take (hfirst : FirstPath skips neighbors roots target path) :
    ∀ length, 0 < length → length < path.length →
      FirstPath skips neighbors roots target (path.take length) ∧ target ∉ path.take length := by
  induction hfirst with
  | root _ _ _ =>
    intro length hpos hlt
    simp only [List.length_singleton] at hlt
    omega
  | @step path before after last node hpath hedges hearlier hreach ih =>
    intro length hpos hlt
    rcases Nat.lt_or_ge length (path ++ [last]).length with hshort | hlong
    · rw [List.take_append_of_le_length (Nat.le_of_lt hshort)]
      exact ih length hpos hshort
    · have hlength : length = (path ++ [last]).length := by
        simp only [List.length_append, List.length_singleton] at hlt hlong ⊢
        omega
      rw [hlength, List.take_left]
      exact ⟨hpath, hreach.target_not_mem⟩

theorem FirstPath.unique {before other : List ν}
    (hpath : FirstPath skips neighbors roots target (before ++ [target]))
    (hother : FirstPath skips neighbors roots target (other ++ [target])) :
    before = other := by
  have hmem : ∀ nodes : List ν, target ∈ nodes ++ [target] := by simp
  -- a longer path would have met the target before
  have hnotLonger : ∀ {left right : List ν},
      FirstPath skips neighbors roots target (left ++ [target]) →
      FirstPath skips neighbors roots target (right ++ [target]) →
      ¬ (left ++ [target]).length < (right ++ [target]).length := by
    intro left right hleft hright hlt
    obtain ⟨htake, hout⟩ := hright.take _ (by simp) hlt
    have hsame := hleft.unique_of_length htake (by
      rw [List.length_take]
      omega)
    exact hout (hsame ▸ hmem left)
  have hlength : (before ++ [target]).length = (other ++ [target]).length := by
    have := hnotLonger hpath hother
    have := hnotLonger hother hpath
    omega
  exact (List.append_inj' (hpath.unique_of_length hother hlength) rfl).1

end SignPulse.Foundation
