import SignPulse.Flow.FlowModels

/-!
# Edge targets

The two places that turn the text of an edge target into a node id or a
terminal: `PulseFlowEngine._normalize_target`, applied while a run advances,
and `GraphNormalizer._resolve_sentinel_id`, applied when steps are compiled.
-/

namespace SignPulse.TargetAliases

open Foundation
open FlowModels

def completeAliases : List String :=
  ["COMPLETE", "SUCCESS", "DONE", TERMINAL_COMPLETE_ID]

def failAliases : List String :=
  ["FAIL", "FAILED", "ERROR", TERMINAL_FAIL_ID]

/-- The part that both functions share, for a text that is not empty. -/
def resolveAlias (text : String) : String :=
  let t := pyStrip text
  if pyUpper t ∈ completeAliases then TERMINAL_COMPLETE_ID
  else if pyUpper t ∈ failAliases then TERMINAL_FAIL_ID
  else t

/-- `PulseFlowEngine._normalize_target`. -/
def normalizeTarget (targetId : Option String) : String :=
  match targetId with
  | none => TERMINAL_COMPLETE_ID
  | some text => if text = "" then TERMINAL_COMPLETE_ID else resolveAlias text

/-- `GraphNormalizer._resolve_sentinel_id`. -/
def resolveSentinelId (stepId : Option String) : Option String :=
  match stepId with
  | none => none
  | some text => if text = "" then none else some (resolveAlias text)

/-- The target text is read as it stands: no whitespace around it, and not one
of the aliases of a terminal in any spelling. -/
def Plain (text : String) : Prop :=
  pyStrip text = text ∧ pyUpper text ∉ completeAliases ∧ pyUpper text ∉ failAliases

instance (text : String) : Decidable (Plain text) :=
  inferInstanceAs (Decidable (_ ∧ _ ∧ _))

theorem resolveAlias_of_plain {text : String} (hplain : Plain text) : resolveAlias text = text := by
  obtain ⟨hstrip, hcomplete, hfail⟩ := hplain
  simp [resolveAlias, hstrip, hcomplete, hfail]

@[simp]
theorem resolveAlias_complete :
    resolveAlias TERMINAL_COMPLETE_ID = TERMINAL_COMPLETE_ID := by decide

@[simp]
theorem resolveAlias_fail : resolveAlias TERMINAL_FAIL_ID = TERMINAL_FAIL_ID := by
  decide

theorem resolveAlias_cases (text : String) : resolveAlias text = TERMINAL_COMPLETE_ID ∨
      resolveAlias text = TERMINAL_FAIL_ID ∨
      (resolveAlias text = pyStrip text ∧ Plain (pyStrip text)) := by
  unfold resolveAlias
  by_cases hcomplete : pyUpper (pyStrip text) ∈ completeAliases
  · simp [hcomplete]
  · by_cases hfail : pyUpper (pyStrip text) ∈ failAliases
    · simp [hcomplete, hfail]
    · right; right
      simp [hcomplete, hfail, Plain]

theorem resolveAlias_resolveAlias (text : String) :
    resolveAlias (resolveAlias text) = resolveAlias text := by
  rcases resolveAlias_cases text with heq | heq | ⟨heq, hplain⟩
  · rw [heq, resolveAlias_complete]
  · rw [heq, resolveAlias_fail]
  · rw [heq, resolveAlias_of_plain hplain]

theorem normalizeTarget_some {text : String} (htext : text ≠ "") :
    normalizeTarget (some text) = resolveAlias text := by
  simp [normalizeTarget, htext]

theorem resolveAlias_normalizeTarget (target : Option String) :
    resolveAlias (normalizeTarget target) = normalizeTarget target := by
  unfold normalizeTarget
  split
  · exact resolveAlias_complete
  · split
    · exact resolveAlias_complete
    · exact resolveAlias_resolveAlias _

theorem plain_of_resolveAlias_eq {text : String} (heq : resolveAlias text = text)
    (hcomplete : text ≠ TERMINAL_COMPLETE_ID) (hfail : text ≠ TERMINAL_FAIL_ID) :
    Plain text := by
  rcases resolveAlias_cases text with h | h | ⟨h, hplain⟩
  · exact absurd (heq.symm.trans h) hcomplete
  · exact absurd (heq.symm.trans h) hfail
  · rwa [← h, heq] at hplain

end SignPulse.TargetAliases
