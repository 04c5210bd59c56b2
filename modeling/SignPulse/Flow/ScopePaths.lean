import Mathlib.Data.List.Induction
import SignPulse.Flow.ContextData

/-!
# Paths into the scopes

`build_scope_dict` puts every recorded step under its id and under its number, with the variables
that it has extracted beside its output and its status.  `_resolve_path` follows a dotted path.
-/

namespace SignPulse.FlowContext

open Foundation
open FlowModels

/-- `path.split(".")`. -/
def pathTokens (path : String) : List String :=
  (path.toList.splitOn '.').map String.ofList

section Scopes

variable (digits : String → Option ℕ)

/-- One token of a path; `digits` is `int(token)` where `token.isdigit()`. -/
def itemAt : PyValue → String → Option PyValue
  | .dict entries, token => Dict.getItem entries token
  | .list items, token => (digits token).bind fun position => items[position]?
  | _, _ => none

/-- `_resolve_path`. -/
def resolvePath (data : PyValue) (path : String) : PyValue :=
  ((pathTokens path).foldlM (itemAt digits) data).getD .none

end Scopes

/-- What is under the id of a step. -/
def stepObject (outcome : StepOutcome) : Dict String PyValue :=
  Dict.update
    [("output", .str outcome.outputText), ("status", .str outcome.status.value),
      ("matched_terminal", .bool outcome.matchedTerminal)] outcome.extractedVars

/-- A step is put under its id and then under its number. -/
def addStep (steps : Dict String PyValue) (item : StepOutcome × ℕ) : Dict String PyValue :=
  Dict.setItem (Dict.setItem steps item.1.nodeId (.dict (stepObject item.1))) (toString item.2)
    (.dict (stepObject item.1))

/-- `steps_dict`. -/
def stepsDict (outcomes : List StepOutcome) : Dict String PyValue :=
  (outcomes.zipIdx 1).foldl addStep []

/-- `build_scope_dict`, with the entries of the system scope as a dictionary. -/
def ScopedFlowContext.buildScopeDict (ctx : ScopedFlowContext) (system : Dict String PyValue)
    (defaultOutput : String) : Dict String PyValue :=
  let currOutput := if ctx.lastOutput ≠ "" then ctx.lastOutput else defaultOutput
  let steps := stepsDict (Dict.valueList ctx.stepOutcomes)
  [("system", .dict system), ("account", .dict ctx.account), ("vars", .dict ctx.vars),
    ("steps", .dict steps), ("step", .dict steps),
    ("prev", .dict [("output", .str currOutput)]), ("last_output", .str currOutput),
    ("last_received_text", .str ctx.lastReceivedText)]

/-! ## The step under a name -/

/-- The last step that has the name for its id or for its number. -/
def shownFor (outcomes : List StepOutcome) (name : String) : Option StepOutcome :=
  ((outcomes.zipIdx 1).reverse.find? fun item =>
    item.1.nodeId = name || toString item.2 = name).map Prod.fst

theorem stepsDict_concat (outcomes : List StepOutcome) (outcome : StepOutcome) :
    stepsDict (outcomes ++ [outcome]) =
      addStep (stepsDict outcomes) (outcome, 1 + outcomes.length) := by
  rw [stepsDict, List.zipIdx_append, List.foldl_append]
  rfl

theorem getItem_stepsDict (outcomes : List StepOutcome) (name : String) :
    Dict.getItem (stepsDict outcomes) name =
      (shownFor outcomes name).map fun outcome => .dict (stepObject outcome) := by
  induction outcomes using List.reverseRecOn with
  | nil => rfl
  | append_singleton outcomes outcome ih =>
    have hlast : (((outcomes ++ [outcome]).zipIdx 1).reverse) =
        (outcome, 1 + outcomes.length) :: (outcomes.zipIdx 1).reverse := by
      rw [List.zipIdx_append, List.reverse_append]
      rfl
    unfold shownFor at ih ⊢
    rw [stepsDict_concat, hlast, List.find?_cons]
    unfold addStep
    by_cases hnumber : toString (1 + outcomes.length) = name
    · rw [hnumber, Dict.getItem_setItem_self, decide_eq_true rfl, Bool.or_true]
      rfl
    · rw [Dict.getItem_setItem_of_ne _ _ (Ne.symm hnumber), decide_eq_false hnumber, Bool.or_false]
      by_cases hid : outcome.nodeId = name
      · rw [hid, Dict.getItem_setItem_self, decide_eq_true rfl]
        rfl
      · rw [Dict.getItem_setItem_of_ne _ _ (Ne.symm hid), decide_eq_false hid, ih]

/-! ## Recorded steps -/

def ScopedFlowContext.recordAll (ctx : ScopedFlowContext) (outcomes : List StepOutcome) :
    ScopedFlowContext :=
  outcomes.foldl ScopedFlowContext.recordStepOutcome ctx

def latestOf (outcomes : List StepOutcome) (nodeId : String) : Option StepOutcome :=
  outcomes.reverse.find? fun outcome => outcome.nodeId = nodeId

/-- Every outcome is under the id of its node, once. -/
structure UnderIds (ctx : ScopedFlowContext) : Prop where
  nodup : (Dict.keyList ctx.stepOutcomes).Nodup
  ids : ∀ item ∈ ctx.stepOutcomes, item.2.nodeId = item.1

namespace UnderIds

variable {ctx : ScopedFlowContext}

theorem recordStepOutcome (hids : UnderIds ctx) (outcome : StepOutcome) :
    UnderIds (ctx.recordStepOutcome outcome) where
  nodup := Dict.nodup_setItem _ _ hids.nodup
  ids := by
    rintro ⟨nodeId, found⟩ hmem
    rcases Dict.mem_of_mem_setItem hmem with ⟨rfl, rfl⟩ | hold
    · rfl
    · exact hids.ids _ hold

theorem recordAll (hids : UnderIds ctx) (outcomes : List StepOutcome) :
    UnderIds (ctx.recordAll outcomes) := by
  induction outcomes generalizing ctx with
  | nil => exact hids
  | cons outcome rest ih => exact ih (hids.recordStepOutcome outcome)

end UnderIds

theorem getItem_recordAll (ctx : ScopedFlowContext) (outcomes : List StepOutcome)
    (nodeId : String) :
    Dict.getItem (ctx.recordAll outcomes).stepOutcomes nodeId =
      (latestOf outcomes nodeId).or (Dict.getItem ctx.stepOutcomes nodeId) := by
  induction outcomes using List.reverseRecOn with
  | nil => rfl
  | append_singleton outcomes outcome ih =>
    have hrecord : ctx.recordAll (outcomes ++ [outcome]) =
        (ctx.recordAll outcomes).recordStepOutcome outcome := List.foldl_concat ..
    have hlast : latestOf (outcomes ++ [outcome]) nodeId =
        if outcome.nodeId = nodeId then some outcome else latestOf outcomes nodeId := by
      unfold latestOf
      rw [List.reverse_concat, List.find?_cons]
      by_cases hid : outcome.nodeId = nodeId
      · rw [if_pos hid, decide_eq_true hid]
      · rw [if_neg hid, decide_eq_false hid]
    rw [hrecord, ScopedFlowContext.stepOutcomes_recordStepOutcome, hlast]
    split
    · next hid => rw [hid, Dict.getItem_setItem_self, Option.some_or]
    · next hid => rw [Dict.getItem_setItem_of_ne _ _ (Ne.symm hid), ih]

/-! ## What a path finds -/

def fieldOf (outcome : StepOutcome) (name : String) (own : PyValue) : PyValue :=
  (Dict.getItem (Dict.update [] outcome.extractedVars) name).getD own

theorem getItem_stepObject {outcome : StepOutcome} {name : String} {own : PyValue}
    (hown : Dict.getItem
      [("output", PyValue.str outcome.outputText), ("status", .str outcome.status.value),
        ("matched_terminal", .bool outcome.matchedTerminal)] name = some own) :
    Dict.getItem (stepObject outcome) name = some (fieldOf outcome name own) := by
  rw [stepObject, fieldOf, Dict.getItem_update_eq, hown]
  cases Dict.getItem (Dict.update [] outcome.extractedVars) name with
  | none => rfl
  | some value => rfl

theorem pathTokens_steps {nodeId field : String} (hnode : '.' ∉ nodeId.toList)
    (hfield : '.' ∉ field.toList) :
    pathTokens ("steps." ++ nodeId ++ "." ++ field) = ["steps", nodeId, field] := by
  have hsplit : ("steps." ++ nodeId ++ "." ++ field).toList =
      "steps".toList ++ '.' :: (nodeId.toList ++ '.' :: field.toList) := by
    simp [String.toList_append]
  unfold pathTokens
  rw [hsplit, List.splitOn_append_cons_self_of_not_mem (by decide),
    List.splitOn_append_cons_self_of_not_mem hnode, List.splitOn_eq_singleton hfield]
  simp only [List.map_cons, List.map_nil, String.ofList_toList]

theorem resolvePath_steps (digits : String → Option ℕ) (ctx : ScopedFlowContext)
    (system : Dict String PyValue) (defaultOutput : String) {nodeId field : String}
    (hnode : '.' ∉ nodeId.toList) (hfield : '.' ∉ field.toList) :
    resolvePath digits (.dict (ctx.buildScopeDict system defaultOutput))
        ("steps." ++ nodeId ++ "." ++ field) =
      ((shownFor (Dict.valueList ctx.stepOutcomes) nodeId).bind fun outcome =>
        Dict.getItem (stepObject outcome) field).getD .none := by
  have hsteps : itemAt digits (.dict (ctx.buildScopeDict system defaultOutput)) "steps" =
      some (.dict (stepsDict (Dict.valueList ctx.stepOutcomes))) := rfl
  have hnodes : itemAt digits (.dict (stepsDict (Dict.valueList ctx.stepOutcomes))) nodeId =
      (shownFor (Dict.valueList ctx.stepOutcomes) nodeId).map fun outcome =>
        .dict (stepObject outcome) := getItem_stepsDict _ _
  unfold resolvePath
  rw [pathTokens_steps hnode hfield, List.foldlM_cons, hsteps, Option.bind_eq_bind,
    Option.bind_some, List.foldlM_cons, hnodes]
  cases shownFor (Dict.valueList ctx.stepOutcomes) nodeId with
  | none => rfl
  | some outcome =>
    rw [Option.bind_eq_bind, Option.map_some, Option.bind_some, Option.bind_some, List.foldlM_cons]
    change ((Dict.getItem (stepObject outcome) field).bind some).getD _ = _
    rw [Option.bind_fun_some]

theorem exists_shownFor {ctx : ScopedFlowContext} (hids : UnderIds ctx) {nodeId : String}
    {outcome : StepOutcome} (hfound : Dict.getItem ctx.stepOutcomes nodeId = some outcome) :
    ∃ shown, shownFor (Dict.valueList ctx.stepOutcomes) nodeId = some shown := by
  have hmem := Dict.mem_of_getItem hfound
  obtain ⟨index, hindex, hat⟩ := List.mem_iff_getElem.mp (Dict.mem_valueList_of_getItem hfound)
  have hitem : (outcome, 1 + index) ∈ (Dict.valueList ctx.stepOutcomes).zipIdx 1 :=
    List.mk_add_mem_zipIdx_iff_getElem?.mpr ((List.getElem?_eq_getElem hindex).trans (congrArg _ hat))
  have hsome : (((Dict.valueList ctx.stepOutcomes).zipIdx 1).reverse.find? fun item =>
      item.1.nodeId = nodeId || toString item.2 = nodeId).isSome = true := by
    rw [List.find?_isSome]
    refine ⟨_, List.mem_reverse.mpr hitem, ?_⟩
    rw [Bool.or_eq_true, decide_eq_true_eq]
    exact .inl (hids.ids _ hmem)
  obtain ⟨item, hitem⟩ := Option.isSome_iff_exists.mp hsome
  exact ⟨item.1, congrArg (Option.map Prod.fst) hitem⟩

section Runs

variable (system account : Dict String PyValue) (outcomes : List StepOutcome)

/-- A new context after the outcomes. -/
def afterRun : ScopedFlowContext :=
  ({ account } : ScopedFlowContext).recordAll outcomes

variable (digits : String → Option ℕ) (defaultOutput nodeId : String) (latest : StepOutcome)

/-- The paths of a node lead to the output and to the status of its latest outcome. -/
def Resolves : Prop :=
  let scope := PyValue.dict ((afterRun account outcomes).buildScopeDict system defaultOutput)
  resolvePath digits scope ("steps." ++ nodeId ++ "." ++ "output") = .str latest.outputText ∧
    resolvePath digits scope ("steps." ++ nodeId ++ "." ++ "status") = .str latest.status.value

/-- The last node, in the order of the first recordings, that has the id for its own or for its
number has the same output and status, and has extracted no variable `output` or `status` with
another value. -/
def Unhidden : Prop :=
  ∀ shown, shownFor (Dict.valueList (afterRun account outcomes).stepOutcomes) nodeId = some shown →
      fieldOf shown "output" (.str shown.outputText) = .str latest.outputText ∧
        fieldOf shown "status" (.str shown.status.value) = .str latest.status.value

end Runs

theorem underIds_afterRun (account : Dict String PyValue) (outcomes : List StepOutcome) :
    UnderIds (afterRun account outcomes) := by
  have hnew : UnderIds { account } :=
    { nodup := List.nodup_nil, ids := fun _ hmem => absurd hmem List.not_mem_nil }
  exact hnew.recordAll outcomes

theorem getItem_afterRun (account : Dict String PyValue) {outcomes : List StepOutcome}
    {nodeId : String} {latest : StepOutcome} (hlatest : latestOf outcomes nodeId = some latest) :
    Dict.getItem (afterRun account outcomes).stepOutcomes nodeId = some latest := by
  rw [afterRun, getItem_recordAll, hlatest, Option.some_or]

/-- After every sequence of outcomes, the paths of a recorded node lead to its latest outcome
exactly if no other node and no variable hides it. -/
theorem resolves_iff_unhidden (system account : Dict String PyValue)
    (outcomes : List StepOutcome) (digits : String → Option ℕ) (defaultOutput : String)
    {nodeId : String} {latest : StepOutcome} (hnode : '.' ∉ nodeId.toList)
    (hlatest : latestOf outcomes nodeId = some latest) :
    Resolves system account outcomes digits defaultOutput nodeId latest ↔
      Unhidden account outcomes nodeId latest := by
  have hids := underIds_afterRun account outcomes
  have hfound := getItem_afterRun account hlatest
  obtain ⟨shown, hshown⟩ := exists_shownFor hids hfound
  have houtput : Dict.getItem (stepObject shown) "output" =
      some (fieldOf shown "output" (.str shown.outputText)) := getItem_stepObject rfl
  have hstatus : Dict.getItem (stepObject shown) "status" =
      some (fieldOf shown "status" (.str shown.status.value)) := getItem_stepObject rfl
  simp only [Resolves, Unhidden]
  rw [resolvePath_steps digits _ system defaultOutput hnode (by decide),
    resolvePath_steps digits _ system defaultOutput hnode (by decide), hshown, Option.bind_some,
    Option.bind_some, houtput, hstatus, Option.getD_some, Option.getD_some]
  constructor
  · intro hboth other hother
    cases hother
    exact hboth
  · intro hall
    exact hall shown rfl

section Samples

def sampleOutcome (nodeId outputText : String) : StepOutcome where
  nodeId := nodeId
  status := .success
  outputText := outputText

theorem resolves_login :
    Resolves [] [] [sampleOutcome "login" "first", sampleOutcome "check" "second",
      sampleOutcome "login" "third"] (fun _ => none) "" "login" (sampleOutcome "login" "third") :=
  (resolves_iff_unhidden [] [] [sampleOutcome "login" "first", sampleOutcome "check" "second",
      sampleOutcome "login" "third"] (fun _ => none) "" (by decide) rfl).mpr
    (by
      intro shown hshown
      cases hshown
      exact ⟨rfl, rfl⟩)

/-- The node `2` comes first, and the second node takes its place. -/
theorem number_hides_id :
    ¬Resolves [] [] [sampleOutcome "2" "first", sampleOutcome "check" "second"] (fun _ => none) ""
      "2" (sampleOutcome "2" "first") := by
  rintro ⟨houtput, -⟩
  have hshown : resolvePath (fun _ => none)
      (.dict ((afterRun [] [sampleOutcome "2" "first",
        sampleOutcome "check" "second"]).buildScopeDict [] "")) "steps.2.output" =
      .str "second" := rfl
  have hboth := PyValue.str.inj (hshown.symm.trans houtput)
  revert hboth
  decide

end Samples

end SignPulse.FlowContext
