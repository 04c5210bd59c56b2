import Mathlib.Logic.Relation
import Mathlib.Order.Basic

/-!
# Linked items

Each item links to at most one other.  The links are acyclic if no item is reached from
itself; an item may be linked anew without making a cycle if its new target does not lead
back to it.
-/

namespace SignPulse.Foundation

open Relation

variable {α : Type*}

/-- `item` links to `target`. -/
def LinksTo (link : α → Option α) (item target : α) : Prop :=
  link item = some target

/-- No item is reached from itself. -/
def AcyclicLinks (link : α → Option α) : Prop :=
  ∀ item, ¬TransGen (LinksTo link) item item

/-- A relation has no circles if its steps increase a measure wherever another step follows. -/
theorem not_transGen_self {β : Type*} [Preorder β] {r : α → α → Prop} {measure : α → β}
    (hincrease : ∀ first second third, r first second → r second third →
      measure first < measure second) (first : α) : ¬ TransGen r first first := by
  have hchain : ∀ last, TransGen r first last → ∀ after, r last after →
      measure first < measure last := by
    intro last hpath
    induction hpath with
    | single hstep => exact fun after hafter => hincrease _ _ _ hstep hafter
    | tail _ hstep ih =>
      exact fun after hafter => (ih _ hstep).trans (hincrease _ _ _ hstep hafter)
  intro hcircle
  obtain ⟨second, hstep, -⟩ := TransGen.head'_iff.1 hcircle
  exact lt_irrefl _ (hchain first hcircle second hstep)

theorem acyclicLinks_none : AcyclicLinks fun _ : α => none := by
  intro item hcycle
  obtain ⟨target, hlink, -⟩ := TransGen.head'_iff.mp hcycle
  cases hlink

theorem AcyclicLinks.mono {link fewer : α → Option α} (hacyclic : AcyclicLinks link)
    (hfewer : ∀ item target, fewer item = some target → link item = some target) :
    AcyclicLinks fewer := by
  intro item hcycle
  exact hacyclic item (TransGen.mono hfewer item item hcycle)

section Relinking

variable {link relinked : α → Option α} {item : α}

section

variable
  (hothers : ∀ other, other ≠ item → ∀ next, relinked other = some next → link other = some next)

include hothers

theorem reaches_of_relinked {start : α} (hpath : ReflTransGen (LinksTo relinked) start item) :
    ReflTransGen (LinksTo link) start item := by
  induction hpath using ReflTransGen.head_induction_on with
  | refl => exact .refl
  | @head first second hfirst _ ih =>
    by_cases hsame : first = item
    · subst hsame
      exact .refl
    · exact .head (hothers first hsame second hfirst) ih

theorem path_of_relinked {start last : α} (hpath : TransGen (LinksTo relinked) start last) :
    TransGen (LinksTo link) start last ∨
      ReflTransGen (LinksTo relinked) start item ∧ TransGen (LinksTo relinked) item last := by
  induction hpath with
  | @single last hlast =>
    by_cases hsame : start = item
    · subst hsame
      exact .inr ⟨.refl, .single hlast⟩
    · exact .inl (.single (hothers start hsame last hlast))
  | @tail middle last hpath hlast ih =>
    rcases ih with hold | ⟨hbefore, hafter⟩
    · by_cases hsame : middle = item
      · subst hsame
        exact .inr ⟨hpath.to_reflTransGen, .single hlast⟩
      · exact .inl (.tail hold (hothers middle hsame last hlast))
    · exact .inr ⟨hbefore, .tail hafter hlast⟩

end

theorem AcyclicLinks.relink (hacyclic : AcyclicLinks link)
    (hothers : ∀ other, other ≠ item → ∀ next, relinked other = some next → link other = some next)
    (htarget : ∀ next, relinked item = some next → ¬ReflTransGen (LinksTo link) next item) :
    AcyclicLinks relinked := by
  intro start hcycle
  rcases path_of_relinked hothers hcycle with hold | ⟨hbefore, hafter⟩
  · exact hacyclic start hold
  · have haround : TransGen (LinksTo relinked) item item := hafter.trans_left hbefore
    obtain ⟨next, hlink, hback⟩ := TransGen.head'_iff.mp haround
    exact htarget next hlink (reaches_of_relinked hothers hback)

end Relinking

end SignPulse.Foundation
