import Mathlib.Data.List.Sort
import Mathlib.Tactic.Linarith
import SignPulse.Semantic.DecisionCache

/-!
# Acceptance of decisions

`semantic/policy.py`: which decisions of the semantic service are acted on.  The margin is that
between the two largest probabilities of the answer, whichever choice the answer selects.
-/

namespace SignPulse.DecisionPolicy

open Foundation
open JevClient

/-! ## The gap below the largest of several numbers -/

section Gap

variable {α : Type*} [LinearOrder α] {value : α} {values rest : List α}

/-- `sorted(values, reverse=True)`. -/
def sortedDown (values : List α) : List α :=
  values.insertionSort (fun left right => right ≤ left)

/-- What the largest value is ahead of the next one. -/
def topGap [Sub α] (values : List α) : Option α :=
  match sortedDown values with
  | first :: second :: _ => some (first - second)
  | _ => none

theorem sortedDown_eq_of_perm (hperm : values.Perm rest) : sortedDown values = sortedDown rest :=
  (List.perm_insertionSort _ values).trans
    (hperm.trans (List.perm_insertionSort _ rest).symm) |>.eq_of_pairwise
      (fun _ _ _ _ hle hge => le_antisymm hge hle)
      (List.pairwise_insertionSort _ values) (List.pairwise_insertionSort _ rest)

/-- The largest value stands first. -/
theorem sortedDown_cons (htop : ∀ other ∈ rest, other ≤ value) :
    sortedDown (value :: rest) = value :: sortedDown rest := by
  have hfirst : ∀ other ∈ sortedDown rest, other ≤ value := fun other hmem =>
    htop other ((List.perm_insertionSort _ rest).mem_iff.mp hmem)
  change (sortedDown rest).orderedInsert _ value = _
  cases hsorted : sortedDown rest with
  | nil => rfl
  | cons second tail =>
    rw [hsorted] at hfirst
    exact List.orderedInsert_cons_of_le _ _ (hfirst second List.mem_cons_self)

theorem le_head_of_sortedDown {second : α} {tail : List α}
    (hsorted : sortedDown rest = second :: tail) : ∀ other ∈ rest, other ≤ second := by
  intro other hmem
  have hpairwise := List.pairwise_insertionSort (fun left right : α => right ≤ left) rest
  have hinside : other ∈ sortedDown rest := (List.perm_insertionSort _ rest).mem_iff.mpr hmem
  change (sortedDown rest).Pairwise _ at hpairwise
  rw [hsorted] at hpairwise hinside
  obtain rfl | htail := List.mem_cons.mp hinside
  · exact le_rfl
  · exact (List.pairwise_cons.mp hpairwise).1 other htail

theorem exists_topGap [Sub α] (htop : ∀ other ∈ rest, other ≤ value) (hrest : rest ≠ [])
    (hperm : values.Perm (value :: rest)) :
    ∃ second, topGap values = some (value - second) ∧ ∀ other ∈ rest, other ≤ second := by
  rw [topGap, sortedDown_eq_of_perm hperm, sortedDown_cons htop]
  cases hsorted : sortedDown rest with
  | nil =>
    have hlength : rest.length = 0 :=
      (List.perm_insertionSort _ rest).length_eq.symm.trans (congrArg List.length hsorted)
    exact absurd (List.length_eq_zero_iff.mp hlength) hrest
  | cons second tail => exact ⟨second, rfl, le_head_of_sortedDown hsorted⟩

end Gap

/-! ## The policies -/

/-- A decision with its probabilities. -/
structure RatedDecision extends Decision where
  probabilities : Dict String ℚ
  nodup : (Dict.keyList probabilities).Nodup

structure ResultPolicy where
  mode : String := "off"
  minProbability : ℚ := 97 / 100
  minMargin : ℚ := 1 / 4

structure TriagePolicy where
  mode : String := "off"
  minProbability : ℚ := 97 / 100
  minMargin : ℚ := 1 / 4

inductive Disposition where
  | unchanged | stop | review | wait | success | failure
  deriving DecidableEq, Repr

/-- `accept_decision`. -/
def acceptDecision (decision : RatedDecision) (minProbability minMargin : ℚ)
    (abstain : List String) : Bool :=
  if decision.truncated then false
  else if decision.status ≠ .ok then false
  else if decision.selected ∈ abstain then false
  else
    match Dict.getItem decision.probabilities decision.selected with
    | none => false
    | some topProb =>
      if topProb < minProbability then false
      else
        match topGap (Dict.valueList decision.probabilities) with
        | some margin => ¬margin < minMargin
        | none => true

/-- `triage_disposition`. -/
def triageDisposition (decision : RatedDecision) (policy : TriagePolicy) (hardFailure : Bool) :
    Disposition :=
  if hardFailure ∨ policy.mode ≠ "assist" then .unchanged
  else if acceptDecision decision policy.minProbability policy.minMargin
      ["unknown", "none", "retryable"] = false then .unchanged
  else if decision.selected = "stop" then .stop
  else if decision.selected = "review" then .review
  else .unchanged

/-- `result_disposition`. -/
def resultDisposition (decision : RatedDecision) (policy : ResultPolicy) (ruleResult : String) :
    Disposition :=
  if policy.mode ≠ "assist" ∨ ruleResult ≠ "unmatched" then .unchanged
  else if acceptDecision decision policy.minProbability policy.minMargin
      ["unknown", "none"] = false then .wait
  else if decision.selected = "success" then .success
  else if decision.selected = "already_done" then .success
  else if decision.selected = "failure" then .failure
  else .wait

/-! ## What is accepted -/

/-- A policy with these thresholds acts on the decision. -/
inductive Accepts (decision : RatedDecision) : (minProbability minMargin : ℚ) → Prop
  | result (policy : ResultPolicy) (ruleResult : String)
      (hacts : resultDisposition decision policy ruleResult ∈ [.success, .failure]) :
      Accepts decision policy.minProbability policy.minMargin
  | triage (policy : TriagePolicy) (hardFailure : Bool)
      (hacts : triageDisposition decision policy hardFailure ∈ [.stop, .review]) :
      Accepts decision policy.minProbability policy.minMargin

/-- The selected choice is as probable as is asked, and by the margin more so than every other. -/
def Clear (decision : RatedDecision) (minProbability minMargin : ℚ) : Prop :=
  ∃ probability, Dict.getItem decision.probabilities decision.selected = some probability ∧
    minProbability ≤ probability ∧
    ∀ choice other, choice ≠ decision.selected →
      Dict.getItem decision.probabilities choice = some other → other + minMargin ≤ probability

/-- No choice is more probable than the selected one. -/
def SelectsTop (decision : RatedDecision) : Prop :=
  ∀ probability, Dict.getItem decision.probabilities decision.selected = some probability →
    ∀ choice other, Dict.getItem decision.probabilities choice = some other → other ≤ probability

section Acceptance

variable {decision : RatedDecision} {minProbability minMargin : ℚ}

theorem of_acceptDecision {abstain : List String}
    (haccepted : acceptDecision decision minProbability minMargin abstain = true) :
    ∃ probability, Dict.getItem decision.probabilities decision.selected = some probability ∧
      minProbability ≤ probability ∧
      ∀ margin ∈ topGap (Dict.valueList decision.probabilities), minMargin ≤ margin := by
  unfold acceptDecision at haccepted
  split_ifs at haccepted
  cases hfound : Dict.getItem decision.probabilities decision.selected with
  | none =>
    rw [hfound] at haccepted
    exact absurd haccepted Bool.false_ne_true
  | some probability =>
    rw [hfound] at haccepted
    dsimp only at haccepted
    split_ifs at haccepted with hlow
    refine ⟨probability, rfl, le_of_not_gt hlow, fun margin hmargin => ?_⟩
    rw [Option.mem_def.mp hmargin] at haccepted
    exact le_of_not_gt (of_decide_eq_true haccepted)

theorem Accepts.acceptDecision (haccepts : Accepts decision minProbability minMargin) :
    ∃ abstain, acceptDecision decision minProbability minMargin abstain = true := by
  cases haccepts with
  | result policy ruleResult hacts =>
    unfold resultDisposition at hacts
    split_ifs at hacts with _ hrefused
    all_goals first
      | exact absurd hacts (by decide)
      | exact ⟨_, Bool.eq_true_of_not_eq_false hrefused⟩
  | triage policy hardFailure hacts =>
    unfold triageDisposition at hacts
    split_ifs at hacts with _ hrefused
    all_goals first
      | exact absurd hacts (by decide)
      | exact ⟨_, Bool.eq_true_of_not_eq_false hrefused⟩

theorem clear_of_selectsTop {probability : ℚ}
    (hfound : Dict.getItem decision.probabilities decision.selected = some probability)
    (hlow : minProbability ≤ probability)
    (hgap : ∀ margin ∈ topGap (Dict.valueList decision.probabilities), minMargin ≤ margin)
    (htop : SelectsTop decision) : Clear decision minProbability minMargin := by
  refine ⟨probability, hfound, hlow, fun choice other hne hother => ?_⟩
  have hperm := (Dict.perm_popItem decision.selected decision.nodup).map Prod.snd
  rw [hfound, Option.map_some, Option.toList_some, List.singleton_append, List.map_cons] at hperm
  have hrest : ∀ value ∈ (Dict.popItem decision.probabilities decision.selected).map Prod.snd,
      value ≤ probability := by
    intro value hvalue
    obtain ⟨⟨key, found⟩, hmem, rfl⟩ := List.mem_map.mp hvalue
    refine htop probability hfound key found (Dict.getItem_of_mem decision.nodup ?_)
    exact List.mem_of_mem_filter hmem
  have hmem : other ∈ (Dict.popItem decision.probabilities decision.selected).map Prod.snd := by
    rw [← Dict.getItem_popItem_of_ne _ hne] at hother
    exact Dict.mem_valueList_of_getItem hother
  obtain ⟨second, hgapEq, hsecond⟩ :=
    exists_topGap hrest (List.ne_nil_of_mem hmem) hperm
  have hmargin : minMargin ≤ probability - second := hgap _ hgapEq
  have hclose : other ≤ second := hsecond other hmem
  linarith

/-- An accepted decision is a clear one if and only if no choice is more probable than the
selected one. -/
theorem clear_iff_selectsTop (haccepts : Accepts decision minProbability minMargin)
    (hmargin : 0 ≤ minMargin) :
    Clear decision minProbability minMargin ↔ SelectsTop decision := by
  obtain ⟨abstain, haccepted⟩ := haccepts.acceptDecision
  obtain ⟨probability, hfound, hlow, hgap⟩ := of_acceptDecision haccepted
  constructor
  · rintro ⟨found, hsame, -, hothers⟩ value hvalue choice other hother
    obtain rfl := Option.some.inj (hsame.symm.trans hvalue)
    by_cases hchoice : choice = decision.selected
    · rw [hchoice] at hother
      exact (Option.some.inj (hother.symm.trans hvalue)).le
    · have hbelow := hothers choice other hchoice hother
      linarith
  · exact clear_of_selectsTop hfound hlow hgap

end Acceptance

/-! ## A selection that is not the most probable choice -/

/-- The choice "success" is selected, the choice "failure" is more probable. -/
def secondChoice : RatedDecision where
  status := .ok
  selected := "success"
  probabilities := [("success", 3 / 5), ("failure", 9 / 10)]
  nodup := by decide

def lenientPolicy : ResultPolicy where
  mode := "assist"
  minProbability := 1 / 2
  minMargin := 1 / 5

theorem accepts_secondChoice : Accepts secondChoice (1 / 2) (1 / 5) :=
  .result lenientPolicy "unmatched" (by decide +kernel)

theorem not_clear_secondChoice : ¬ ∀ (decision : RatedDecision) (minProbability minMargin : ℚ),
      0 ≤ minProbability → minProbability ≤ 1 → 0 ≤ minMargin → minMargin ≤ 1 →
        Accepts decision minProbability minMargin → Clear decision minProbability minMargin := by
  intro hall
  obtain ⟨probability, hfound, -, hothers⟩ := hall secondChoice (1 / 2) (1 / 5)
    (by decide +kernel) (by decide +kernel) (by decide +kernel) (by decide +kernel)
    accepts_secondChoice
  obtain rfl : 3 / 5 = probability := Option.some.inj hfound
  have hbelow : (9 / 10 : ℚ) + 1 / 5 ≤ 3 / 5 := hothers "failure" _ (by decide) rfl
  exact absurd hbelow (by decide +kernel)

theorem clear_iff_secondChoice :
    0 ≤ (1 / 5 : ℚ) ∧ (Clear secondChoice (1 / 2) (1 / 5) ↔ SelectsTop secondChoice) :=
  ⟨by decide +kernel, clear_iff_selectsTop accepts_secondChoice (by decide +kernel)⟩

end SignPulse.DecisionPolicy
