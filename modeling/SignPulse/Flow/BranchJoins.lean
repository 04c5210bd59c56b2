import SignPulse.Foundation.PyEquality
import SignPulse.Flow.EngineLaws

/-!
# Joins of parallel branches

What a parallel node makes of the variables of its branches: `_run_parallel_node` merges the
changed ones, and `record_step_outcome` stores what the outcome extracted, whatever its status.
-/

namespace SignPulse.BranchJoins

open Foundation
open FlowModels
open FlowContext
open RunEnvironment
open NodeRuns
open FlowEngine
open EngineLaws

variable {World Call : Type}

/-! ## The changes of the branches -/

/-- The value under a name, unless it equals that of the parent. -/
def changedVar (ctx : ScopedFlowContext) (vars : Dict String PyValue) (key : String) :
    Option PyValue :=
  (Dict.getItem vars key).filter fun value =>
    !(Dict.getItem ctx.vars key).any fun old => value == old

/-- The values that the successful branches left in place of that of the parent, in the order of
the branches. -/
def changes (ctx : ScopedFlowContext) (replies : List (BranchReply Call)) (key : String) :
    List PyValue :=
  (replies.filter BranchReply.succeeded).filterMap fun reply =>
    changedVar ctx reply.ctx.vars key

/-- One variable of a successful branch is compared with that of the parent. -/
def noteVar (ctx : ScopedFlowContext) (written : Dict String (List PyValue))
    (item : String × PyValue) : Dict String (List PyValue) :=
  if (Dict.getItem ctx.vars item.1).any fun old => item.2 == old then written
  else Dict.setItem written item.1 ((Dict.getItem written item.1).getD [] ++ [item.2])

section Written

variable {ctx : ScopedFlowContext} {replies : List (BranchReply Call)}

theorem writtenValues_eq : writtenValues ctx replies = (replies.filter BranchReply.succeeded).foldl
      (fun written reply => reply.ctx.vars.foldl (noteVar ctx) written) [] := by
  unfold writtenValues
  congr 1
  funext written reply
  congr 1
  funext written item
  unfold noteVar
  obtain ⟨key, value⟩ := item
  dsimp only
  cases Dict.getItem ctx.vars key with
  | none => rfl
  | some old => rfl

/-- The dictionary holds these lists, and no empty one. -/
def Holds (written : Dict String (List PyValue)) (values : String → List PyValue) : Prop :=
  ∀ key, Dict.getItem written key = if (values key).isEmpty then none else some (values key)

theorem Holds.congr {written : Dict String (List PyValue)} {values others : String → List PyValue}
    (hholds : Holds written values) (hsame : ∀ key, values key = others key) :
    Holds written others := by
  intro key
  rw [hholds key, hsame key]

variable {written : Dict String (List PyValue)} {values : String → List PyValue}

theorem Holds.getD (hholds : Holds written values) (key : String) :
    (Dict.getItem written key).getD [] = values key := by
  rw [hholds key]
  split
  · next hempty => exact (List.isEmpty_iff.mp hempty).symm
  · rfl

theorem Holds.noteVar (hholds : Holds written values) (ctx : ScopedFlowContext) (name : String)
    (value : PyValue) :
    Holds (noteVar ctx written (name, value)) fun key =>
      values key ++ (if key = name then
        if (Dict.getItem ctx.vars name).any fun old => value == old then [] else [value]
      else []) := by
  intro key
  simp only [BranchJoins.noteVar]
  split
  · rw [ite_self, List.append_nil]
    exact hholds key
  · by_cases hkey : key = name
    · subst hkey
      rw [Dict.getItem_setItem_self, hholds.getD, if_pos rfl, if_neg (by simp)]
    · rw [Dict.getItem_setItem_of_ne _ _ hkey, if_neg hkey, List.append_nil]
      exact hholds key

theorem changedVar_cons {name key : String} {value : PyValue} {vars : Dict String PyValue}
    (hfresh : name ∉ Dict.keyList vars) :
    (changedVar ctx ((name, value) :: vars) key).toList =
      (if key = name then
        if (Dict.getItem ctx.vars name).any fun old => value == old then [] else [value]
      else []) ++ (changedVar ctx vars key).toList := by
  unfold changedVar
  rw [Dict.getItem_cons]
  by_cases hkey : key = name
  · subst hkey
    have hnone : Dict.getItem vars key = none := by
      by_contra hsome
      obtain ⟨found, hfound⟩ := Option.ne_none_iff_exists'.mp hsome
      exact hfresh (Dict.mem_keyList_of_getItem hfound)
    rw [if_pos rfl, if_pos rfl, hnone, Option.filter_none, Option.toList_none, List.append_nil,
      Option.filter_some]
    cases (Dict.getItem ctx.vars key).any fun old => value == old <;> rfl
  · rw [if_neg (Ne.symm hkey), if_neg hkey, List.nil_append]

theorem Holds.noteVars (hholds : Holds written values) (ctx : ScopedFlowContext)
    {vars : Dict String PyValue} (hnodup : (Dict.keyList vars).Nodup) :
    Holds (vars.foldl (BranchJoins.noteVar ctx) written) fun key =>
      values key ++ (changedVar ctx vars key).toList := by
  induction vars generalizing written values with
  | nil => exact hholds.congr fun key => (List.append_nil _).symm
  | cons item rest ih =>
    obtain ⟨name, value⟩ := item
    obtain ⟨hfresh, hrest⟩ := List.nodup_cons.mp hnodup
    refine (ih (hholds.noteVar ctx name value) hrest).congr fun key => ?_
    rw [changedVar_cons hfresh, List.append_assoc]

theorem holds_writtenValues (hnodup : ∀ reply ∈ replies, (Dict.keyList reply.ctx.vars).Nodup) :
    Holds (writtenValues ctx replies) (changes ctx replies) := by
  rw [writtenValues_eq]
  unfold changes
  have hfold : ∀ (branches : List (BranchReply Call)) (written : Dict String (List PyValue))
      (values : String → List PyValue), Holds written values →
      (∀ reply ∈ branches, (Dict.keyList reply.ctx.vars).Nodup) →
      Holds (branches.foldl (fun written reply => reply.ctx.vars.foldl (noteVar ctx) written)
        written) fun key =>
          values key ++ branches.filterMap fun reply => changedVar ctx reply.ctx.vars key := by
    intro branches
    induction branches with
    | nil =>
      intro written values hholds _
      exact hholds.congr fun key => (List.append_nil _).symm
    | cons reply rest ih =>
      intro written values hholds hbranches
      refine (ih _ _ (hholds.noteVars ctx (hbranches reply List.mem_cons_self))
        fun other hother => hbranches other (List.mem_cons_of_mem _ hother)).congr fun key => ?_
      rw [List.append_assoc, List.filterMap_cons]
      cases changedVar ctx reply.ctx.vars key <;> rfl
  have hempty : Holds [] fun _ => [] := fun key => rfl
  exact (hfold _ _ _ hempty
    (fun reply hreply => hnodup reply (List.mem_of_mem_filter hreply))).congr
      fun key => List.nil_append _

theorem nodup_noteVars (vars : Dict String PyValue) (hnodup : (Dict.keyList written).Nodup) :
    (Dict.keyList (vars.foldl (noteVar ctx) written)).Nodup := by
  induction vars generalizing written with
  | nil => exact hnodup
  | cons item rest ih =>
    refine ih ?_
    unfold noteVar
    split
    · exact hnodup
    · exact Dict.nodup_setItem _ _ hnodup

theorem nodup_writtenValues : (Dict.keyList (writtenValues ctx replies)).Nodup := by
  rw [writtenValues_eq]
  have hfold : ∀ (branches : List (BranchReply Call)) (written : Dict String (List PyValue)),
      (Dict.keyList written).Nodup → (Dict.keyList (branches.foldl
        (fun written reply => reply.ctx.vars.foldl (noteVar ctx) written) written)).Nodup := by
    intro branches
    induction branches with
    | nil => exact fun _ hnodup => hnodup
    | cons reply rest ih => exact fun written hnodup => ih _ (nodup_noteVars _ hnodup)
  exact hfold _ _ List.nodup_nil

/-- Two successful branches left different values for a variable. -/
def Conflict (ctx : ScopedFlowContext) (replies : List (BranchReply Call)) : Prop :=
  ∃ key, conflicting (changes ctx replies key) = true

theorem any_conflicting_iff (hnodup : ∀ reply ∈ replies, (Dict.keyList reply.ctx.vars).Nodup) :
    ((writtenValues ctx replies).any fun item => conflicting item.2) = true ↔
      Conflict ctx replies := by
  have hholds := @holds_writtenValues _ ctx replies hnodup
  rw [List.any_eq_true]
  constructor
  · rintro ⟨⟨key, values⟩, hmem, hconflict⟩
    have hvalues := Dict.getItem_of_mem nodup_writtenValues hmem
    rw [hholds key] at hvalues
    split at hvalues
    · cases hvalues
    · cases hvalues
      exact ⟨key, hconflict⟩
  · rintro ⟨key, hconflict⟩
    have hvalues := hholds key
    rw [if_neg (fun hempty => by
      rw [List.isEmpty_iff.mp hempty] at hconflict
      exact Bool.false_ne_true hconflict)] at hvalues
    exact ⟨(key, _), Dict.mem_of_getItem hvalues, hconflict⟩

/-! ## The variables afterwards -/

def recordedVars (mode : ParallelMode) (joinStrategy : String) (policy : VariableConflictPolicy)
    (ctx : ScopedFlowContext) (replies : List (BranchReply Call)) : Dict String PyValue :=
  let join := joinBranches mode joinStrategy policy ctx replies
  let vars :=
    if join.overallSuccess && joinStrategy == "merge" then Dict.update ctx.vars join.mergedVars
    else ctx.vars
  Dict.update vars join.mergedVars

variable {mode : ParallelMode} {joinStrategy : String} {policy : VariableConflictPolicy}

theorem getItem_mergedVars (hnodup : ∀ reply ∈ replies, (Dict.keyList reply.ctx.vars).Nodup)
    (hmerge : joinStrategy = "merge") (hquiet : Conflict ctx replies → policy ≠ .fail)
    (key : String) :
    Dict.getItem (joinBranches mode joinStrategy policy ctx replies).mergedVars key =
      if (changes ctx replies key).isEmpty then none
      else some (mergedValue policy (changes ctx replies key)) := by
  simp only [joinBranches]
  rw [if_pos hmerge, if_neg]
  · rw [Dict.getItem_map, holds_writtenValues hnodup key]
    split <;> rfl
  · intro hboth
    obtain ⟨hconflict, hfail⟩ := Bool.and_eq_true_iff.mp hboth
    exact hquiet ((any_conflicting_iff hnodup).mp hconflict) (of_decide_eq_true hfail)

theorem nodup_mergedVars :
    (Dict.keyList (joinBranches mode joinStrategy policy ctx replies).mergedVars).Nodup := by
  have hwritten : (Dict.keyList
      (if joinStrategy = "merge" then writtenValues ctx replies else [])).Nodup := by
    split
    · exact nodup_writtenValues
    · exact List.nodup_nil
  simp only [joinBranches]
  generalize (if joinStrategy = "merge" then writtenValues ctx replies else []) = written
    at hwritten
  split
  · exact List.nodup_nil
  · rw [Dict.keyList_map]
    exact hwritten

theorem getItem_recordedVars (key : String) :
    Dict.getItem (recordedVars mode joinStrategy policy ctx replies) key =
      (Dict.getItem (joinBranches mode joinStrategy policy ctx replies).mergedVars key).or
        (Dict.getItem ctx.vars key) := by
  simp only [recordedVars]
  rw [Dict.getItem_update nodup_mergedVars]
  split
  · rw [Dict.getItem_update nodup_mergedVars]
    cases Dict.getItem (joinBranches mode joinStrategy policy ctx replies).mergedVars key <;> rfl
  · rfl

/-! ## Values of the branches -/

/-- The parent and the branches have variables as Python has them. -/
structure ProperJoin (ctx : ScopedFlowContext) (replies : List (BranchReply Call)) : Prop where
  parent : PyValue.Proper (.dict ctx.vars)
  branches : ∀ reply ∈ replies, PyValue.Proper (.dict reply.ctx.vars)

theorem ProperJoin.nodup (hproper : ProperJoin ctx replies) :
    ∀ reply ∈ replies, (Dict.keyList reply.ctx.vars).Nodup :=
  fun reply hreply => (PyValue.proper_dict.mp (hproper.branches reply hreply)).1

theorem mem_changes {key : String} {value : PyValue} : value ∈ changes ctx replies key ↔
      ∃ reply ∈ replies, reply.succeeded = true ∧
        changedVar ctx reply.ctx.vars key = some value := by
  rw [changes, List.mem_filterMap]
  constructor
  · rintro ⟨reply, hreply, hvalue⟩
    obtain ⟨hmem, hsucceeded⟩ := List.mem_filter.mp hreply
    exact ⟨reply, hmem, hsucceeded, hvalue⟩
  · rintro ⟨reply, hmem, hsucceeded, hvalue⟩
    exact ⟨reply, List.mem_filter.mpr ⟨hmem, hsucceeded⟩, hvalue⟩

theorem of_changedVar {vars : Dict String PyValue} {key : String} {value : PyValue}
    (hchanged : changedVar ctx vars key = some value) :
    Dict.getItem vars key = some value ∧
      ∀ old, Dict.getItem ctx.vars key = some old → PyValue.eq value old = false := by
  obtain ⟨hvalue, hdiffers⟩ := Option.filter_eq_some_iff.mp hchanged
  refine ⟨hvalue, fun old hold => ?_⟩
  rw [hold, Option.any_some] at hdiffers
  exact Bool.not_eq_true' _ ▸ hdiffers

theorem ProperJoin.changes (hproper : ProperJoin ctx replies) {key : String} :
    ∀ value ∈ changes ctx replies key, PyValue.Proper value := by
  intro value hvalue
  obtain ⟨reply, hreply, -, hchanged⟩ := mem_changes.mp hvalue
  exact (hproper.branches reply hreply).of_getItem (of_changedVar hchanged).1

/-- Where no later value differs from the first, all are equal. -/
theorem eq_of_not_conflicting {values : List PyValue} (hproper : ∀ value ∈ values, value.Proper)
    (hquiet : conflicting values = false) {value other : PyValue} (hvalue : value ∈ values)
    (hother : other ∈ values) : PyValue.eq value other = true := by
  cases values with
  | nil => exact absurd hvalue List.not_mem_nil
  | cons first rest =>
    have hfirst : ∀ found ∈ first :: rest, PyValue.eq found first = true := by
      intro found hfound
      obtain rfl | hrest := List.mem_cons.mp hfound
      · exact PyValue.eq_refl (hproper found hfound)
      · have hsame : (!PyValue.eq found first) = false :=
          Bool.eq_false_iff.mpr (List.any_eq_false.mp hquiet found hrest)
        simpa using hsame
    exact PyValue.eq_trans (hfirst value hvalue)
      (PyValue.eq_symm (hproper other hother) (hproper first List.mem_cons_self)
        (hfirst other hother))

/-- The variables are the same: equal values under the same names. -/
def SameVars (left right : Dict String PyValue) : Prop :=
  ∀ key, Option.Rel (fun value other => PyValue.eq value other = true)
    (Dict.getItem left key) (Dict.getItem right key)

theorem ProperJoin.getItem_recordedVars (hproper : ProperJoin ctx replies)
    (mode : ParallelMode) (policy : VariableConflictPolicy) (hmerge : joinStrategy = "merge")
    (hquiet : Conflict ctx replies → policy ≠ .fail) (key : String) :
    Dict.getItem (recordedVars mode joinStrategy policy ctx replies) key =
      if (BranchJoins.changes ctx replies key).isEmpty then Dict.getItem ctx.vars key
      else some (mergedValue policy (BranchJoins.changes ctx replies key)) := by
  rw [BranchJoins.getItem_recordedVars, getItem_mergedVars hproper.nodup hmerge hquiet]
  split <;> rfl

/-! ## What a parallel node leaves -/

section Nodes

variable {env : Env World Call} {runSub : SubRun World Call} {nodeId : String}
variable {branches : List ExecutionGraph} {world : World} {outcome : StepOutcome}

theorem recordedVars_nil : recordedVars mode joinStrategy policy ctx
    ([] : List (BranchReply Call)) = ctx.vars := by
  have hwritten : (if joinStrategy = "merge" then
      writtenValues ctx ([] : List (BranchReply Call)) else []) = [] := by
    split <;> rfl
  unfold recordedVars joinBranches
  dsimp only
  rw [hwritten, List.any_nil, Bool.false_and, if_neg Bool.false_ne_true, List.map_nil]
  exact ite_self _

theorem of_runParallelNode
    (hexit : (runParallelNode env runSub nodeId branches mode joinStrategy policy ctx world).exit =
      .returned outcome) :
    ((runParallelNode env runSub nodeId branches mode joinStrategy policy ctx
        world).ctx.recordStepOutcome outcome).vars =
      recordedVars mode joinStrategy policy ctx (runBranches env runSub ctx branches world).1 ∧
    (outcome.status = .success ↔ branches = [] ∨
      (joinBranches mode joinStrategy policy ctx
        (runBranches env runSub ctx branches world).1).overallSuccess = true) ∧
    outcome.signal = .proceed := by
  unfold runParallelNode at hexit ⊢
  cases branches with
  | nil =>
    rw [List.isEmpty_nil, if_pos rfl] at hexit ⊢
    obtain rfl := Exit.returned.inj hexit
    exact ⟨recordedVars_nil.symm, iff_of_true rfl (.inl rfl), rfl⟩
  | cons graph rest =>
    rw [List.isEmpty_cons, if_neg Bool.false_ne_true] at hexit ⊢
    dsimp only at hexit ⊢
    split at hexit
    · cases hexit
    · obtain rfl := Exit.returned.inj hexit
      refine ⟨rfl, ?_, rfl⟩
      rw [or_iff_right (List.cons_ne_nil _ _)]
      dsimp only
      split
      · next hsuccess => exact iff_of_true rfl hsuccess
      · next hfailed => exact iff_of_false (by decide) hfailed

theorem not_conflict_of_success (hnodup : ∀ reply ∈ replies, (Dict.keyList reply.ctx.vars).Nodup)
    (hsuccess : (joinBranches mode "merge" .fail ctx replies).overallSuccess = true) :
    ¬Conflict ctx replies := by
  intro hconflict
  unfold joinBranches at hsuccess
  dsimp only at hsuccess
  rw [if_pos rfl, (any_conflicting_iff hnodup).mpr hconflict] at hsuccess
  exact Bool.false_ne_true hsuccess

variable {key : String} {others : List (BranchReply Call)}

section

variable (hproper : ProperJoin ctx replies) (mode : ParallelMode) (hquiet : ¬Conflict ctx replies)

include hproper hquiet

theorem ProperJoin.lossless {value : PyValue}
    (hvalue : value ∈ BranchJoins.changes ctx replies key) :
    ∃ found ∈ BranchJoins.changes ctx replies key,
      Dict.getItem (recordedVars mode "merge" .fail ctx replies) key = some found ∧
        PyValue.eq found value = true := by
  have hagree : conflicting (BranchJoins.changes ctx replies key) = false :=
    Bool.eq_false_iff.mpr fun hconflict => hquiet ⟨key, hconflict⟩
  have hne := List.ne_nil_of_mem hvalue
  have hmem := List.getLast_mem hne
  have hstored := hproper.getItem_recordedVars mode .fail rfl
    (fun hconflict => absurd hconflict hquiet) key
  rw [if_neg (mt List.isEmpty_iff.mp hne)] at hstored
  refine ⟨_, hmem, hstored.trans (congrArg some ?_),
    eq_of_not_conflicting hproper.changes hagree hmem hvalue⟩
  change (BranchJoins.changes ctx replies key).getLast?.getD .none = _
  rw [List.getLast?_eq_some_getLast hne]
  rfl

theorem ProperJoin.framed (hkept : BranchJoins.changes ctx replies key = []) :
    Dict.getItem (recordedVars mode "merge" .fail ctx replies) key = Dict.getItem ctx.vars key := by
  rw [hproper.getItem_recordedVars mode .fail rfl
    (fun hconflict => absurd hconflict hquiet) key, hkept]
  rfl

end

theorem changes_perm (hperm : others.Perm replies) (key : String) :
    (changes ctx others key).Perm (changes ctx replies key) :=
  (hperm.filter _).filterMap _

theorem of_conflicting {values : List PyValue} (hconflict : conflicting values = true) :
    ∃ value ∈ values, ∃ other ∈ values, PyValue.eq value other = false := by
  cases values with
  | nil => exact absurd hconflict Bool.false_ne_true
  | cons first rest =>
    obtain ⟨value, hvalue, hdiffers⟩ := List.any_eq_true.mp hconflict
    have hfalse : (!PyValue.eq value first) = true := hdiffers
    exact ⟨value, List.mem_cons_of_mem _ hvalue, first, List.mem_cons_self, by simpa using hfalse⟩

theorem not_conflict_of_perm (hproper : ProperJoin ctx replies) (hperm : others.Perm replies)
    (hquiet : ¬Conflict ctx replies) : ¬Conflict ctx others := by
  rintro ⟨key, hconflict⟩
  have hagree : conflicting (changes ctx replies key) = false :=
    Bool.eq_false_iff.mpr fun hconflict => hquiet ⟨key, hconflict⟩
  obtain ⟨value, hvalue, other, hother, hdiffers⟩ := of_conflicting hconflict
  have hsame := eq_of_not_conflicting hproper.changes hagree
    ((changes_perm hperm key).mem_iff.mp hvalue) ((changes_perm hperm key).mem_iff.mp hother)
  exact Bool.false_ne_true (hdiffers.symm.trans hsame)

/-- The order of the branches does not matter. -/
theorem ProperJoin.symmetric (hproper : ProperJoin ctx replies) (mode : ParallelMode)
    (hquiet : ¬Conflict ctx replies) (hperm : others.Perm replies) :
    SameVars (recordedVars mode "merge" .fail ctx replies)
      (recordedVars mode "merge" .fail ctx others) := by
  have hothers : ProperJoin ctx others :=
    ⟨hproper.parent, fun reply hreply => hproper.branches reply (hperm.mem_iff.mp hreply)⟩
  have hquietly := not_conflict_of_perm hproper hperm hquiet
  intro key
  cases hchanges : BranchJoins.changes ctx replies key with
  | nil =>
    have hkept : BranchJoins.changes ctx others key = [] :=
      List.Perm.eq_nil (hchanges ▸ changes_perm hperm key)
    rw [hproper.framed mode hquiet hchanges, hothers.framed mode hquietly hkept]
    cases hold : Dict.getItem ctx.vars key with
    | none => exact .none
    | some old => exact .some (PyValue.eq_refl (hproper.parent.of_getItem hold))
  | cons value rest =>
    have hvalue : value ∈ BranchJoins.changes ctx replies key := by
      rw [hchanges]
      exact List.mem_cons_self
    have hagree : conflicting (BranchJoins.changes ctx replies key) = false :=
      Bool.eq_false_iff.mpr fun hconflict => hquiet ⟨key, hconflict⟩
    obtain ⟨left, hleft, hstored, -⟩ := hproper.lossless mode hquiet hvalue
    obtain ⟨right, hright, hstored', -⟩ := hothers.lossless mode hquietly
      ((changes_perm hperm key).mem_iff.mpr hvalue)
    rw [hstored, hstored']
    exact .some (eq_of_not_conflicting hproper.changes hagree hleft
      ((changes_perm hperm key).mem_iff.mp hright))

/-- What a join with the policy "fail" has to leave: every change of a successful branch, the
other variables as they were, and the same whatever the order of the branches. -/
structure FaithfulJoin (mode : ParallelMode) (ctx : ScopedFlowContext)
    (replies : List (BranchReply Call)) (after : Dict String PyValue) : Prop where
  lossless : ∀ reply ∈ replies, reply.succeeded = true → ∀ key value,
    changedVar ctx reply.ctx.vars key = some value →
      ∃ found, Dict.getItem after key = some found ∧ PyValue.eq found value = true
  framed : ∀ key, (∀ reply ∈ replies, reply.succeeded = true →
    changedVar ctx reply.ctx.vars key = none) → Dict.getItem after key = Dict.getItem ctx.vars key
  symmetric : ∀ others, others.Perm replies →
    SameVars after (recordedVars mode "merge" .fail ctx others)

/-- A parallel node that merges, with the policy "fail", and ends with a success. -/
theorem faithfulJoin_of_success
    (hproper : ProperJoin ctx (runBranches env runSub ctx branches world).1)
    (hexit : (runParallelNode env runSub nodeId branches mode "merge" .fail ctx world).exit =
      .returned outcome) (hsuccess : outcome.status = .success) :
    FaithfulJoin mode ctx (runBranches env runSub ctx branches world).1
      ((runParallelNode env runSub nodeId branches mode "merge" .fail ctx
        world).ctx.recordStepOutcome outcome).vars := by
  obtain ⟨hvars, hstatus, -⟩ := of_runParallelNode hexit
  have hquiet : ¬Conflict ctx (runBranches env runSub ctx branches world).1 := by
    obtain rfl | hjoin := hstatus.mp hsuccess
    · rintro ⟨key, hconflict⟩
      exact absurd hconflict Bool.false_ne_true
    · exact not_conflict_of_success hproper.nodup hjoin
  rw [hvars]
  constructor
  · intro reply hreply hsucceeded key value hchanged
    obtain ⟨found, -, hstored, hsame⟩ := hproper.lossless mode hquiet
      (mem_changes.mpr ⟨reply, hreply, hsucceeded, hchanged⟩)
    exact ⟨found, hstored, hsame⟩
  · intro key hkept
    refine hproper.framed mode hquiet (List.eq_nil_iff_forall_not_mem.mpr fun value hvalue => ?_)
    obtain ⟨reply, hreply, hsucceeded, hchanged⟩ := mem_changes.mp hvalue
    exact absurd (hchanged.symm.trans (hkept reply hreply hsucceeded)) (Option.some_ne_none _)
  · exact fun others hperm => hproper.symmetric mode hquiet hperm

/-! ## Failed joins -/

/-- Recording a failed join changes no variable: nothing is merged, or no successful branch
changed a variable.  Collected values may by chance be the list that the parent has. -/
def Harmless (joinStrategy : String) (policy : VariableConflictPolicy) (ctx : ScopedFlowContext)
    (replies : List (BranchReply Call)) : Prop :=
  joinStrategy = "merge" → (policy = .fail ∧ Conflict ctx replies) ∨
    ∀ key, changes ctx replies key ≠ [] →
      policy = .collect ∧ conflicting (changes ctx replies key) = true ∧
        ∃ old, Dict.getItem ctx.vars key = some old ∧
          PyValue.eq (.list (changes ctx replies key)) old = true

theorem mergedValue_mem {values : List PyValue} (hne : values ≠ [])
    (hsingle : ¬(policy = .collect ∧ conflicting values = true)) :
    mergedValue policy values ∈ values := by
  rw [mergedValue, if_neg (by simpa using hsingle)]
  split
  · rw [List.head?_eq_some_head hne]
    exact List.head_mem hne
  · rw [List.getLast?_eq_some_getLast hne]
    exact List.getLast_mem hne

theorem mergedValue_differs {old : PyValue} (hne : changes ctx replies key ≠ [])
    (hold : Dict.getItem ctx.vars key = some old)
    (hsingle : ¬(policy = .collect ∧ conflicting (changes ctx replies key) = true)) :
    PyValue.eq (mergedValue policy (changes ctx replies key)) old = false := by
  obtain ⟨reply, -, -, hchanged⟩ := mem_changes.mp (mergedValue_mem hne hsingle)
  exact (of_changedVar hchanged).2 old hold

theorem mergedVars_nil (hnodup : ∀ reply ∈ replies, (Dict.keyList reply.ctx.vars).Nodup)
    (hquiet : joinStrategy ≠ "merge" ∨ policy = .fail ∧ Conflict ctx replies) :
    (joinBranches mode joinStrategy policy ctx replies).mergedVars = [] := by
  simp only [joinBranches]
  by_cases hmerge : joinStrategy = "merge"
  · obtain ⟨hpolicy, hconflict⟩ := hquiet.resolve_left (not_not.mpr hmerge)
    rw [if_pos hmerge, (any_conflicting_iff hnodup).mpr hconflict, hpolicy]
    rfl
  · rw [if_neg hmerge]
    rfl

theorem sameVars_refl {vars : Dict String PyValue} (hproper : PyValue.Proper (.dict vars)) :
    SameVars vars vars := by
  intro key
  cases hvalue : Dict.getItem vars key with
  | none => exact .none
  | some value => exact .some (PyValue.eq_refl (hproper.of_getItem hvalue))

theorem ProperJoin.sameVars_iff (hproper : ProperJoin ctx replies) (mode : ParallelMode) :
    SameVars (recordedVars mode joinStrategy policy ctx replies) ctx.vars ↔
      Harmless joinStrategy policy ctx replies := by
  by_cases hnothing : joinStrategy ≠ "merge" ∨ policy = .fail ∧ Conflict ctx replies
  · refine iff_of_true (fun key => ?_) (fun hmerge =>
      .inl (hnothing.resolve_left (not_not.mpr hmerge)))
    rw [BranchJoins.getItem_recordedVars, mergedVars_nil hproper.nodup hnothing]
    exact sameVars_refl hproper.parent key
  · obtain ⟨hmerge, hquiet⟩ := not_or.mp hnothing
    have hstored := hproper.getItem_recordedVars mode policy (not_not.mp hmerge)
      (fun hconflict hfail => hquiet ⟨hfail, hconflict⟩)
    constructor
    · intro hsame _
      refine .inr fun key hne => ?_
      have hkey := hsame key
      rw [hstored key, if_neg (mt List.isEmpty_iff.mp hne)] at hkey
      cases hold : Dict.getItem ctx.vars key with
      | none =>
        rw [hold] at hkey
        cases hkey
      | some old =>
        rw [hold] at hkey
        cases hkey with
        | some hequal =>
          by_cases hcollect :
              policy = .collect ∧ conflicting (BranchJoins.changes ctx replies key) = true
          · refine ⟨hcollect.1, hcollect.2, old, rfl, ?_⟩
            unfold mergedValue at hequal
            rwa [if_pos (by simpa using hcollect)] at hequal
          · exact absurd hequal (Bool.eq_false_iff.mp (mergedValue_differs hne hold hcollect))
    · intro hharmless key
      rw [hstored key]
      by_cases hne : BranchJoins.changes ctx replies key = []
      · rw [if_pos (List.isEmpty_iff.mpr hne)]
        exact sameVars_refl hproper.parent key
      · obtain ⟨hcollect, hconflict, old, hold, hequal⟩ :=
          ((hharmless (not_not.mp hmerge)).resolve_left hquiet) key hne
        rw [if_neg (mt List.isEmpty_iff.mp hne), hold, mergedValue,
          if_pos (by simpa using ⟨hcollect, hconflict⟩)]
        exact .some hequal

def CutOff (replies : List (BranchReply Call)) : Prop :=
  (replies.findSome? BranchReply.cancelLevel).isSome = true

theorem runParallelNode_cases (env : Env World Call) (runSub : SubRun World Call)
    (nodeId : String) (branches : List ExecutionGraph) (mode : ParallelMode)
    (joinStrategy : String) (policy : VariableConflictPolicy) (ctx : ScopedFlowContext)
    (world : World) :
    (¬CutOff (runBranches env runSub ctx branches world).1 ∧ ∃ outcome,
      (runParallelNode env runSub nodeId branches mode joinStrategy policy ctx world).exit =
        .returned outcome) ∨
    (CutOff (runBranches env runSub ctx branches world).1 ∧
      (runParallelNode env runSub nodeId branches mode joinStrategy policy ctx world).ctx = ctx ∧
      ∃ level, (runParallelNode env runSub nodeId branches mode joinStrategy policy ctx
        world).exit = .cancelled level) := by
  unfold runParallelNode CutOff
  cases branches with
  | nil =>
    rw [List.isEmpty_nil, if_pos rfl]
    exact .inl ⟨Bool.false_ne_true, _, rfl⟩
  | cons graph rest =>
    rw [List.isEmpty_cons, if_neg Bool.false_ne_true]
    dsimp only
    cases hcut : (runBranches env runSub ctx (graph :: rest) world).1.findSome?
        BranchReply.cancelLevel with
    | some level => exact .inr ⟨rfl, rfl, level, rfl⟩
    | none => exact .inl ⟨Bool.false_ne_true, _, rfl⟩

/-- What an attempt at a parallel node that is no success leaves in the variables. -/
theorem sameVars_iff_harmless (graph : ExecutionGraph) {node : Node} (isLast : Bool)
    (hkind : node.kind = .parallel branches mode joinStrategy policy)
    (hproper : ProperJoin ctx (runBranches env runSub ctx branches world).1)
    (houtcome : (afterAttempt env node isLast
      (executeNode env runSub graph node ctx world)).1 = some (.returned outcome))
    (hstatus : outcome.status ≠ .success) :
    SameVars ((executeNode env runSub graph node ctx world).ctx.recordStepOutcome outcome).vars
        ctx.vars ↔
      CutOff (runBranches env runSub ctx branches world).1 ∨
        Harmless joinStrategy policy ctx (runBranches env runSub ctx branches world).1 := by
  have hreply : executeNode env runSub graph node ctx world =
      runParallelNode env runSub node.id branches mode joinStrategy policy ctx world := by
    rw [executeNode, hkind]
  rw [hreply] at houtcome ⊢
  obtain ⟨hread, result, hexit⟩ | ⟨hcut, hctx, level, hexit⟩ :=
    runParallelNode_cases env runSub node.id branches mode joinStrategy policy ctx world
  · obtain ⟨hvars, -, hsignal⟩ := of_runParallelNode hexit
    obtain rfl : result = outcome := by
      rw [afterAttempt, hexit] at houtcome
      dsimp only [expire] at houtcome
      rw [if_pos (by rw [hsignal]; decide)] at houtcome
      exact Exit.returned.inj (Option.some.inj houtcome)
    rw [hvars, hproper.sameVars_iff, or_iff_right hread]
  · refine iff_of_true ?_ (.inl hcut)
    obtain ⟨error, rfl⟩ : ∃ error, outcome = failedOutcome node.id error := by
      rw [afterAttempt, hexit] at houtcome
      cases level with
      | zero => exact ⟨_, handleException_returned (Prod.ext houtcome rfl)⟩
      | succ level => cases houtcome
    rw [hctx]
    exact sameVars_refl hproper.parent

end Nodes

end Written

/-! ## A branch that succeeds beside one that fails -/

def tokenExecutor : Node → ScopedFlowContext → Unit → ExecutorReply Unit Unit :=
  fun node ctx world =>
    { exit := .returned
        { nodeId := node.id
          status := if node.id = "fail" then .failed else .success
          extractedVars := if node.id = "store" then [("token", .int 1)] else [] }
      ctx, world }

def oneNode (nodeId : String) : ExecutionGraph where
  entryNodeId := nodeId
  nodes := [(nodeId, { id := nodeId })]

/-- The replies of branches of one node each, under `tokenExecutor`. -/
def tokenReplies (nodeIds : List String) : List (BranchReply Unit) :=
  (runBranches (Env.still tokenExecutor) (run (Env.still tokenExecutor)) {}
    (nodeIds.map oneNode) ()).1

/-- A parallel node over such branches, executed. -/
def tokenJoin (nodeIds : List String) (policy : VariableConflictPolicy) : NodeReply Unit Unit :=
  runParallelNode (Env.still tokenExecutor) (run (Env.still tokenExecutor)) "both"
    (nodeIds.map oneNode) .all "merge" policy {} ()

def bothNode : Node where
  id := "both"
  kind := .parallel (["store", "fail"].map oneNode) .all "merge" .lastWriter

theorem proper_token : PyValue.Proper (.dict [("token", .int 1)]) := by
  simp [PyValue.Proper, PyValue.ProperEntries, Dict.keyList]

theorem proper_empty : PyValue.Proper (.dict []) := by
  simp [PyValue.proper_dict, Dict.keyList]

theorem proper_of_map {replies : List (BranchReply Unit)} {first second : Dict String PyValue}
    (hvars : replies.map (fun reply => reply.ctx.vars) = [first, second])
    (hfirst : PyValue.Proper (.dict first)) (hsecond : PyValue.Proper (.dict second)) :
    ProperJoin {} replies := by
  refine ⟨proper_empty, fun reply hreply => ?_⟩
  have hmem := List.mem_map_of_mem (f := fun reply => reply.ctx.vars) hreply
  rw [hvars] at hmem
  obtain heq | hrest := List.mem_cons.mp hmem
  · exact heq ▸ hfirst
  · exact List.mem_singleton.mp hrest ▸ hsecond

theorem proper_storeFail : ProperJoin {} (tokenReplies ["store", "fail"]) :=
  proper_of_map rfl proper_token proper_empty

theorem proper_storeStore : ProperJoin {} (tokenReplies ["store", "store"]) :=
  proper_of_map rfl proper_token proper_token

theorem exists_outcome (nodeIds : List String) (policy : VariableConflictPolicy)
    (hread : (tokenReplies nodeIds).findSome? BranchReply.cancelLevel = none) :
    ∃ outcome, (tokenJoin nodeIds policy).exit = .returned outcome := by
  obtain ⟨-, hreturned⟩ | ⟨hcut, -⟩ := runParallelNode_cases (Env.still tokenExecutor)
    (run (Env.still tokenExecutor)) "both" (nodeIds.map oneNode) .all "merge" policy {} ()
  · exact hreturned
  · have hnone : (none : Option ℕ).isSome = true := hread ▸ hcut
    exact absurd hnone Bool.false_ne_true

theorem vars_changed_by_failure :
    ¬ ∀ (executor : Node → ScopedFlowContext → Unit → ExecutorReply Unit Unit)
      (branches : List ExecutionGraph) (mode : ParallelMode) (joinStrategy : String)
      (policy : VariableConflictPolicy) (ctx : ScopedFlowContext) (outcome : StepOutcome),
      ProperJoin ctx (runBranches (Env.still executor) (run (Env.still executor)) ctx branches
        ()).1 →
      (runParallelNode (Env.still executor) (run (Env.still executor)) "both" branches mode
        joinStrategy policy ctx ()).exit = .returned outcome → outcome.status ≠ .success →
      SameVars ((runParallelNode (Env.still executor) (run (Env.still executor)) "both" branches
        mode joinStrategy policy ctx ()).ctx.recordStepOutcome outcome).vars ctx.vars := by
  intro hall
  obtain ⟨outcome, hexit⟩ := exists_outcome ["store", "fail"] .lastWriter rfl
  obtain ⟨hvars, hstatus, -⟩ := of_runParallelNode hexit
  have hfailed : outcome.status ≠ .success := fun hsuccess => by
    obtain hnil | hjoin := hstatus.mp hsuccess
    · cases hnil
    · exact absurd hjoin (by decide)
  have hsame := hall tokenExecutor _ .all "merge" .lastWriter {} outcome proper_storeFail hexit
    hfailed "token"
  rw [hvars] at hsame
  have hstored : Dict.getItem (recordedVars .all "merge" .lastWriter {}
      (tokenReplies ["store", "fail"])) "token" = some (.int 1) := rfl
  unfold tokenReplies at hstored
  rw [hstored] at hsame
  cases hsame

theorem sameVars_iff_harmless_bothNode :
    ∃ outcome, (afterAttempt (Env.still tokenExecutor) bothNode true
        (executeNode (Env.still tokenExecutor) (run (Env.still tokenExecutor)) (oneNode "both")
          bothNode {} ())).1 = some (.returned outcome) ∧
      (SameVars ((executeNode (Env.still tokenExecutor) (run (Env.still tokenExecutor))
          (oneNode "both") bothNode {} ()).ctx.recordStepOutcome outcome).vars [] ↔
        CutOff (tokenReplies ["store", "fail"]) ∨
          Harmless "merge" .lastWriter {} (tokenReplies ["store", "fail"])) := by
  refine ⟨_, rfl, sameVars_iff_harmless (oneNode "both") true rfl proper_storeFail rfl ?_⟩
  decide

theorem faithfulJoin_storeStore :
    ∃ outcome, (tokenJoin ["store", "store"] .fail).exit = .returned outcome ∧
      FaithfulJoin .all {} (tokenReplies ["store", "store"])
        ((tokenJoin ["store", "store"] .fail).ctx.recordStepOutcome outcome).vars :=
  ⟨_, rfl, faithfulJoin_of_success proper_storeStore rfl (by decide)⟩

end SignPulse.BranchJoins
