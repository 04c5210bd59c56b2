import Mathlib.Data.List.Basic

/-!
# Histories

A history is the list of what has happened so far, the oldest event first.  `EachAfter`
states of every event what had happened before it.
-/

namespace SignPulse.Foundation

variable {ε : Type*}

/-- Every event of the history satisfies `P` of the events before it. -/
def EachAfter (P : List ε → ε → Prop) (history : List ε) : Prop :=
  ∀ before event after, history = before ++ event :: after → P before event

theorem eachAfter_nil (P : List ε → ε → Prop) : EachAfter P [] := by
  intro before event after hsplit
  cases before with
  | nil => cases hsplit
  | cons head tail => cases hsplit

section

variable {P : List ε → ε → Prop} {history : List ε} (heach : EachAfter P history)

include heach

theorem EachAfter.concat {event : ε} (hevent : P history event) :
    EachAfter P (history ++ [event]) := by
  intro before other after hsplit
  rcases List.eq_nil_or_concat after with rfl | ⟨rest, last, rfl⟩
  · obtain ⟨rfl, hsame⟩ := List.append_inj' hsplit rfl
    obtain rfl := List.cons.inj hsame |>.1
    exact hevent
  · have hshift : history ++ [event] = (before ++ other :: rest) ++ [last] := by
      simpa using hsplit
    obtain ⟨hhistory, -⟩ := List.append_inj' hshift rfl
    exact heach before other rest hhistory

/-- Events that may happen at any time may be added at any time. -/
theorem EachAfter.append {events : List ε} (hevents : ∀ event ∈ events, ∀ before, P before event) :
    EachAfter P (history ++ events) := by
  induction events generalizing history with
  | nil => simpa using heach
  | cons event rest ih =>
    have hcons : history ++ event :: rest = (history ++ [event]) ++ rest := by simp
    rw [hcons]
    apply ih (heach.concat (hevents event List.mem_cons_self history))
    intro other hother
    exact hevents other (List.mem_cons_of_mem _ hother)

end

end SignPulse.Foundation
