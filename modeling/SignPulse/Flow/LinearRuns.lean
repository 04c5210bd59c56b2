import SignPulse.Flow.ChatCompiler
import SignPulse.Flow.RunLogs
import SignPulse.Flow.StraightRuns

/-!
# Runs of linear actions

The graph that a list of actions is compiled to stands in a row, and a run of it
that succeeds at every node executes the actions in their order.  The graph
keeps the default step limit, so this is so for up to thirty nodes only, while
the validator lets in fifty.
-/

namespace SignPulse.LinearRuns

open Foundation
open FlowModels
open FlowContext
open RunEnvironment
open TargetAliases
open NodeLaws
open FlowEngine
open RunLogs
open GraphNormalizer
open ChatCompiler
open StraightRuns

variable {World Call : Type}

/-! ## The ids of the steps -/

theorem toList_stepId (index : ℕ) :
    (stepId index).toList = "step_".toList ++ Nat.toDigits 10 index := by
  rw [← Nat.toList_repr, ← String.toList_append]
  rfl

theorem toList_waitId (index : ℕ) :
    (waitId index).toList = "step_".toList ++ Nat.toDigits 10 index ++ "_wait".toList := by
  rw [← Nat.toList_repr, ← String.toList_append, ← String.toList_append]
  rfl

theorem stepId_injective {left right : ℕ} (heq : stepId left = stepId right) : left = right := by
  have hlist := congrArg String.toList heq
  rw [toList_stepId, toList_stepId] at hlist
  exact toDigits_injective (List.append_cancel_left hlist)

theorem waitId_injective {left right : ℕ} (heq : waitId left = waitId right) : left = right := by
  have hlist := congrArg String.toList heq
  rw [toList_waitId, toList_waitId] at hlist
  exact toDigits_injective (List.append_cancel_left (List.append_cancel_right hlist))

theorem stepId_ne_waitId (left right : ℕ) : stepId left ≠ waitId right := by
  intro heq
  have hlist := congrArg String.toList heq
  rw [toList_stepId, toList_waitId, List.append_assoc] at hlist
  have hdigits := List.append_cancel_left hlist
  have hmem : 't' ∈ Nat.toDigits 10 left := by
    rw [hdigits]
    exact List.mem_append_right _ (by decide)
  have hdigit := Nat.isDigit_of_mem_toDigits (by decide) (by decide) hmem
  exact absurd hdigit (by decide)

/-- A text that starts like a step id and does not end in whitespace is read as it
stands. -/
theorem plain_of_step {text : String} {body : List Char}
    (htext : text.toList = "step_".toList ++ body)
    (hlast : ∀ c ∈ body.getLast?, isPySpace c = false) : Plain text := by
  have hupper : "STEP_".toList <+: (pyUpper text).toList := by
    have hstep : "step_".toList.flatMap upperChar = "STEP_".toList := by decide
    have hlist : (pyUpper text).toList = text.toList.flatMap upperChar :=
      String.toList_ofList
    rw [hlist, htext, List.flatMap_append, hstep]
    exact List.prefix_append _ _
  have hstrip : pyStrip text = text := by
    rw [pyStrip, trimChars_eq_self, String.ofList_toList]
    · intro c hc
      have hhead : text.toList.head? = some 's' := by
        rw [htext]
        rfl
      obtain rfl : 's' = c := Option.some.inj (hhead.symm.trans hc)
      rfl
    · intro c hc
      rw [htext, List.getLast?_append] at hc
      cases hbody : body.getLast? with
      | none =>
        rw [hbody] at hc
        obtain rfl : '_' = c := Option.some.inj hc
        rfl
      | some last =>
        rw [hbody] at hc
        exact hlast c (hbody.trans hc)
  have haliases : ∀ word ∈ completeAliases ++ failAliases,
      ¬ "STEP_".toList <+: word.toList := by decide
  refine ⟨hstrip, fun hmem => ?_, fun hmem => ?_⟩
  · exact haliases _ (List.mem_append_left _ hmem) hupper
  · exact haliases _ (List.mem_append_right _ hmem) hupper

theorem isPySpace_of_isDigit {c : Char} (hdigit : c.isDigit = true) : isPySpace c = false := by
  have hrange : 48 ≤ c.toNat ∧ c.toNat ≤ 57 := by
    simpa [Char.isDigit, UInt32.le_iff_toNat_le] using hdigit
  simp [isPySpace]
  omega

theorem plain_stepId (index : ℕ) : Plain (stepId index) := by
  refine plain_of_step (toList_stepId index) fun c hc => ?_
  have hmem := List.mem_of_getLast? hc
  exact isPySpace_of_isDigit (Nat.isDigit_of_mem_toDigits (by decide) (by decide) hmem)

theorem plain_waitId (index : ℕ) : Plain (waitId index) := by
  refine plain_of_step ((toList_waitId index).trans (List.append_assoc _ _ _)) fun c hc => ?_
  obtain rfl : 't' = c := by
    simpa [List.getLast?_append] using hc
  decide

theorem stepId_ne_empty (index : ℕ) : stepId index ≠ "" := by
  intro heq
  have hlist := congrArg String.toList heq
  rw [toList_stepId] at hlist
  simp at hlist

theorem waitId_ne_empty (index : ℕ) : waitId index ≠ "" := by
  intro heq
  have hlist := congrArg String.toList heq
  rw [toList_waitId] at hlist
  simp at hlist

/-! ## The row of nodes -/

section Row

variable (settings : Settings) (chat : LinearChat)

def rowOf (item : SignAction × ℕ) : Dict String Node :=
  (stepId item.2, actionNode settings chat.actions.length item.2 item.1) ::
    if item.1.waitForReply then
      [(waitId item.2, waitNode settings chat item.2 item.1)]
    else []

/-- The keys of a part of the row belong to the actions before `start`. -/
def KeysBelow (start : ℕ) (nodes : Dict String Node) : Prop :=
  ∀ key ∈ Dict.keyList nodes, ∃ index < start, key = stepId index ∨ key = waitId index

variable {settings chat}

variable {start : ℕ} {nodes : Dict String Node}

theorem KeysBelow.stepId_fresh (hbelow : KeysBelow start nodes) :
    stepId start ∉ Dict.keyList nodes := by
  intro hmem
  obtain ⟨index, hlt, hstep | hwait⟩ := hbelow _ hmem
  · exact absurd (stepId_injective hstep) hlt.ne'
  · exact stepId_ne_waitId _ _ hwait

theorem KeysBelow.waitId_fresh (hbelow : KeysBelow start nodes) :
    waitId start ∉ Dict.keyList nodes := by
  intro hmem
  obtain ⟨index, hlt, hstep | hwait⟩ := hbelow _ hmem
  · exact stepId_ne_waitId _ _ hstep.symm
  · exact absurd (waitId_injective hwait) hlt.ne'

theorem keysBelow_row (act : SignAction) (hbelow : KeysBelow start nodes) :
    KeysBelow (start + 1) (nodes ++ rowOf settings chat (act, start)) := by
  intro key hkey
  rw [Dict.keyList, List.map_append, List.mem_append] at hkey
  rcases hkey with hold | hnew
  · obtain ⟨index, hlt, hindex⟩ := hbelow key hold
    exact ⟨index, by omega, hindex⟩
  · refine ⟨start, Nat.lt_succ_self start, ?_⟩
    unfold rowOf at hnew
    split at hnew
    · simpa using hnew
    · left
      simpa using hnew

theorem addAction_eq (act : SignAction) (hbelow : KeysBelow start nodes) :
    addAction settings chat nodes (act, start) = nodes ++ rowOf settings chat (act, start) := by
  simp only [addAction, rowOf]
  rw [Dict.setItem_of_not_mem _ hbelow.stepId_fresh]
  split
  · rw [Dict.setItem_of_not_mem]
    · simp
    · simp only [Dict.keyList, List.map_append, List.map_cons, List.map_nil,
        List.mem_append, List.mem_singleton, not_or]
      exact ⟨hbelow.waitId_fresh, (stepId_ne_waitId _ _).symm⟩
  · rfl

theorem foldl_addAction (actions : List SignAction) :
    ∀ (start : ℕ) (nodes : Dict String Node), KeysBelow start nodes →
      (actions.zipIdx start).foldl (addAction settings chat) nodes =
        nodes ++ (actions.zipIdx start).flatMap (rowOf settings chat) := by
  induction actions with
  | nil => simp
  | cons act rest ih =>
    intro start nodes hbelow
    rw [List.zipIdx_cons, List.foldl_cons, addAction_eq act hbelow,
      ih _ _ (keysBelow_row act hbelow), List.flatMap_cons, List.append_assoc]

variable (settings chat) in
theorem linearGraph_nodes : (linearGraph settings chat).nodes =
      chat.actions.zipIdx.flatMap (rowOf settings chat) := by
  have hbelow : KeysBelow 0 ([] : Dict String Node) := by simp [KeysBelow, Dict.keyList]
  exact foldl_addAction chat.actions 0 [] hbelow

theorem nodup_linearGraph : (Dict.keyList (linearGraph settings chat).nodes).Nodup := by
  refine List.foldlRecOn (motive := fun nodes => (Dict.keyList nodes).Nodup)
    chat.actions.zipIdx (addAction settings chat) List.nodup_nil ?_
  intro nodes hnodup item _
  simp only [addAction]
  split
  · exact Dict.nodup_setItem _ _ (Dict.nodup_setItem _ _ hnodup)
  · exact Dict.nodup_setItem _ _ hnodup

theorem inRow_rowOf {item : SignAction × ℕ} :
    ∀ found ∈ rowOf settings chat item, InRow found.1 found.2 := by
  intro found hfound
  unfold rowOf at hfound
  rcases List.mem_cons.mp hfound with rfl | hwait
  · exact
      { named := rfl
        nonempty := stepId_ne_empty _
        plain := plain_stepId _
        once := rfl
        unlooped := rfl }
  · split at hwait
    · rw [List.mem_singleton.mp hwait]
      exact
        { named := rfl
          nonempty := waitId_ne_empty _
          plain := plain_waitId _
          once := rfl
          unlooped := rfl }
    · cases hwait

variable (settings) in
theorem headKey_row (actions : List SignAction) {start : ℕ}
    (htotal : start + 1 + actions.length = chat.actions.length) :
    headKey ((actions.zipIdx (start + 1)).flatMap (rowOf settings chat)) =
      nextActionId chat.actions.length start := by
  cases actions with
  | nil =>
    have hlast : ¬ start + 1 < chat.actions.length := by simp at htotal; omega
    simp [headKey, nextActionId, hlast]
  | cons act rest =>
    have hmore : start + 1 < chat.actions.length := by simp at htotal; omega
    simp [headKey, nextActionId, hmore, List.zipIdx_cons, rowOf]

theorem leads_row (actions : List SignAction) :
    ∀ start, start + actions.length = chat.actions.length →
      Leads ((actions.zipIdx start).flatMap (rowOf settings chat)) := by
  induction actions with
  | nil => exact fun _ _ => trivial
  | cons act rest ih =>
    intro start htotal
    have hnext : start + 1 + rest.length = chat.actions.length := by
      simp at htotal
      omega
    have hhead := headKey_row settings rest hnext
    have hrest := ih (start + 1) hnext
    rw [List.zipIdx_cons, List.flatMap_cons]
    cases hwait : act.waitForReply with
    | true =>
      rw [show rowOf settings chat (act, start) =
        [(stepId start, actionNode settings chat.actions.length start act),
          (waitId start, waitNode settings chat start act)] by simp [rowOf, hwait]]
      refine ⟨?_, ?_, hrest⟩
      · simp [actionNode, effectiveNextId, hwait, headKey]
      · exact congrArg some hhead.symm
    | false =>
      rw [show rowOf settings chat (act, start) =
        [(stepId start, actionNode settings chat.actions.length start act)] by
          simp [rowOf, hwait]]
      refine ⟨?_, hrest⟩
      simp only [actionNode, effectiveNextId, hwait, Bool.false_eq_true, if_false]
      exact congrArg some hhead.symm

theorem straight_linearGraph (hsome : chat.actions ≠ []) :
    Straight (linearGraph settings chat) where
  distinct := nodup_linearGraph
  entry := by
    rw [linearGraph_nodes]
    obtain ⟨act, rest, hactions⟩ := List.exists_cons_of_ne_nil hsome
    simp [hactions, headKey, rowOf, linearGraph]
  unresumed := rfl
  unbroken := rfl
  inRow := by
    rw [linearGraph_nodes]
    intro item hitem
    obtain ⟨source, -, hrow⟩ := List.mem_flatMap.mp hitem
    exact inRow_rowOf item hrow
  leads := by
    rw [linearGraph_nodes]
    exact leads_row chat.actions 0 (Nat.zero_add _)

/-- How many nodes a list of actions is compiled to. -/
def nodeCount (chat : LinearChat) : ℕ :=
  chat.actions.length + chat.actions.countP SignAction.waitForReply

theorem length_linearGraph : (linearGraph settings chat).nodes.length = nodeCount chat := by
  have hcount : ∀ (actions : List SignAction) (start : ℕ),
      ((actions.zipIdx start).flatMap (rowOf settings chat)).length =
        actions.length + actions.countP SignAction.waitForReply := by
    intro actions
    induction actions with
    | nil => simp
    | cons act rest ih =>
      intro start
      rw [List.zipIdx_cons, List.flatMap_cons, List.length_append, ih]
      cases hwait : act.waitForReply <;> simp [rowOf, hwait] <;> omega
  rw [linearGraph_nodes]
  exact hcount chat.actions 0

end Row

/-! ## Executed actions -/

def actionOf (node : Node) : Option (String × SignAction) :=
  match node.kind with
  | .action (some act) => some (node.id, act)
  | _ => none

def executed (visits : List (Visit Call (RunLog Call))) : List (String × SignAction) :=
  visits.flatMap fun visit =>
    (actionOf visit.node).toList.flatMap (List.replicate visit.attempts.length)

def steps (chat : LinearChat) : List (String × SignAction) :=
  chat.actions.zipIdx.map fun item => (stepId item.2, item.1)

/-- Every action is executed exactly once and in the order of the list, no wait
sends anything again, and the run ends in success. -/
structure ExecutesAll (chat : LinearChat) (log : RunLog Call) : Prop where
  actions : executed log.visits = steps chat
  silent : ∀ visit ∈ log.visits, isWaitEvent visit.node = true →
    ∀ attempt ∈ visit.attempts, attempt.calls = []
  success : ∃ result, log.exit = .returned result ∧ result.success = true

/-- When an action that has to succeed fails, or the wait for a reply does, nothing
more is executed and the run fails. -/
def StopsAtFailure (log : RunLog Call) : Prop :=
  ∀ earlier visit later, log.visits = earlier ++ visit :: later → Fails visit →
    (∀ action ∈ actionOf visit.node, action.2.continueOnError = false) →
    later = [] ∧ ∃ result, log.exit = .returned result ∧ result.success = false

theorem executed_of_once {visits : List (Visit Call (RunLog Call))}
    (honce : ∀ visit ∈ visits, visit.attempts.length = 1) :
    executed visits = (visits.map visitedItem).filterMap fun item => actionOf item.2 := by
  induction visits with
  | nil => rfl
  | cons visit rest ih =>
    have hrest := ih fun other hother => honce other (List.mem_cons_of_mem _ hother)
    have hvisit := honce visit List.mem_cons_self
    unfold executed at hrest ⊢
    rw [List.flatMap_cons, hrest, hvisit, List.map_cons, List.filterMap_cons]
    cases haction : actionOf visit.node <;> simp [visitedItem, haction]

theorem actions_linearGraph (settings : Settings) (chat : LinearChat) :
    (linearGraph settings chat).nodes.filterMap (fun item => actionOf item.2) = steps chat := by
  rw [linearGraph_nodes, List.filterMap_flatMap, steps, List.map_eq_flatMap]
  congr 1
  funext item
  unfold rowOf
  split <;> rfl

/-! ## Runs of the compiled graph -/

section Runs

variable {settings : Settings} {chat : LinearChat} {env : Env World Call}

variable {visit : Visit Call (RunLog Call)}

variable (hvisit : VisitIn env (linearGraph settings chat) visit)

include hvisit

theorem found_in_row :
    ∃ item ∈ chat.actions.zipIdx, visitedItem visit ∈ rowOf settings chat item := by
  have hmem := Dict.mem_of_getItem hvisit.1
  rw [linearGraph_nodes] at hmem
  exact List.mem_flatMap.mp hmem

theorem waits_silent (hwait : isWaitEvent visit.node = true) :
    ∀ attempt ∈ visit.attempts, attempt.calls = [] := by
  intro attempt hattempt
  obtain ⟨start, begun, rfl⟩ := hvisit.attempt hattempt
  obtain ⟨item, -, hrow⟩ := found_in_row hvisit
  have hnode : visit.node = waitNode settings chat item.2 item.1 := by
    unfold rowOf at hrow
    rcases List.mem_cons.mp hrow with heq | hrest
    · have hkind := congrArg Prod.snd heq
      simp only [visitedItem] at hkind
      simp [hkind, isWaitEvent, actionNode] at hwait
    · split at hrest
      · exact congrArg Prod.snd (List.mem_singleton.mp hrest)
      · cases hrest
  refine List.eq_nil_iff_forall_not_mem.mpr fun call hcall => ?_
  rw [hnode] at hcall
  obtain ⟨hentry, -⟩ := runWaitEventNode_calls _ _ call hcall
  simp [truthy, stepId_ne_empty] at hentry

theorem final_of_fails (hfails : Fails visit)
    (hneeded : ∀ action ∈ actionOf visit.node, action.2.continueOnError = false) :
    FailsFinally visit := by
  refine ⟨hfails, ?_⟩
  obtain ⟨item, -, hrow⟩ := found_in_row hvisit
  unfold rowOf at hrow
  rcases List.mem_cons.mp hrow with heq | hrest
  · have hnode : visit.node = actionNode settings chat.actions.length item.2 item.1 :=
      congrArg Prod.snd heq
    have hcontinue := hneeded (stepId item.2, item.1) (by rw [hnode]; rfl)
    rw [hnode]
    simp [actionNode, show item.1.continueOnError = false from hcontinue]
  · split at hrest
    · have hnode : visit.node = waitNode settings chat item.2 item.1 :=
        congrArg Prod.snd (List.mem_singleton.mp hrest)
      rw [hnode]
      rfl
    · cases hrest

omit hvisit

end Runs

section

variable {settings : Settings} {chat : LinearChat}

theorem compiled_of_ok {ledger after : Ledger} {graph : ExecutionGraph}
    (haccepted : fromLinearActions settings chat ledger = .ok (graph, after)) :
    chat.actions ≠ [] ∧ graph = linearGraph settings chat := by
  unfold fromLinearActions at haccepted
  split at haccepted
  · cases haccepted
  · next hsome =>
    refine ⟨by simpa using hsome, ?_⟩
    cases hvalid : validateGraph (linearGraph settings chat) 1 ledger with
    | error text => simp [hvalid, bind, Except.bind] at haccepted
    | ok found =>
      simp only [hvalid, bind, Except.bind, pure, Except.pure] at haccepted
      exact (congrArg Prod.fst (Except.ok.inj haccepted)).symm

theorem ok_of_isOk {ledger : Ledger} (hok : (fromLinearActions settings chat ledger).isOk = true) :
    ∃ after, fromLinearActions settings chat ledger = .ok (linearGraph settings chat, after) := by
  cases hcompile : fromLinearActions settings chat ledger with
  | error text => simp [hcompile, Except.isOk, Except.toBool] at hok
  | ok found =>
    obtain ⟨graph, after⟩ := found
    exact ⟨after, by rw [(compiled_of_ok hcompile).2]⟩

/-- The runs of a compiled list of actions.  One in which every node succeeds
executes the whole list, each action once, exactly where the list is compiled to at
most thirty nodes; and no run goes on after an action that has to succeed. -/
theorem linear_run_executes_iff {ledger after : Ledger} {graph : ExecutionGraph}
    (haccepted : fromLinearActions settings chat ledger = .ok (graph, after))
    (env : Env World Call) (ctx : ScopedFlowContext) (world : World) :
    StopsAtFailure (run env graph ctx world).log ∧
      (AllSucceed (run env graph ctx world).log.visits →
        (ExecutesAll chat (run env graph ctx world).log ↔ nodeCount chat ≤ 30)) := by
  obtain ⟨hsome, rfl⟩ := compiled_of_ok haccepted
  have hvisits : ∀ visit ∈ (run env (linearGraph settings chat) ctx world).log.visits,
      VisitIn env (linearGraph settings chat) visit := run_visitIn
  refine ⟨?_, fun hall => ?_⟩
  · intro earlier visit later hsplit hfails hneeded
    have hvisit := hvisits visit (by simp [hsplit])
    exact final_failure_is_last hsplit (final_of_fails hvisit hfails hneeded)
  · obtain ⟨result, hexit, hsuccess, hrow⟩ :=
      straight_run (straight_linearGraph hsome) env ctx world hall
    have hlimit : (linearGraph settings chat).maxTotalSteps.toNat = 30 := rfl
    rw [length_linearGraph, hlimit] at hsuccess
    rw [← hsuccess]
    constructor
    · intro hexecutes
      obtain ⟨other, hother, hok⟩ := hexecutes.success
      obtain rfl := Exit.returned.inj (hexit.symm.trans hother)
      exact hok
    · intro hok
      obtain ⟨hitems, honce⟩ := hrow hok
      exact
        { actions := by
            rw [executed_of_once honce, hitems, actions_linearGraph]
          silent := fun visit hvisit hwait =>
            waits_silent (hvisits visit hvisit) hwait
          success := ⟨result, hexit, hok⟩ }

end

/-! ## Two lists -/

/-- An executor that succeeds at every node. -/
def succeedingEnv : Env Unit Unit :=
  Env.still fun node ctx world =>
    { exit := .returned { nodeId := node.id, status := .success }, ctx, world, calls := [()] }

def sends (count : ℕ) : LinearChat where
  chatId := 1
  actions := List.replicate count {}

def sendsLog (count : ℕ) : RunLog Unit :=
  (run succeedingEnv (linearGraph {} (sends count)) {} ()).log

def succeeded (log : RunLog Call) : Bool :=
  match log.exit with
  | .returned result => result.success
  | _ => false

/-- The validator lets thirty-one actions in, each of them succeeds, and the run
fails all the same. -/
theorem long_list_cut_short :
    (∃ after, fromLinearActions {} (sends 31) {} = .ok (linearGraph {} (sends 31), after)) ∧
      AllSucceed (sendsLog 31).visits ∧ ¬ ExecutesAll (sends 31) (sendsLog 31) := by
  refine ⟨ok_of_isOk (by decide), by decide, fun hexecutes => ?_⟩
  obtain ⟨result, hexit, hok⟩ := hexecutes.success
  have hfailed : succeeded (sendsLog 31) = false := by decide
  rw [succeeded, hexit] at hfailed
  exact absurd (hok.symm.trans hfailed) (by decide)

theorem short_list_executed : StopsAtFailure (sendsLog 2) ∧ ExecutesAll (sends 2) (sendsLog 2) := by
  obtain ⟨after, haccepted⟩ :=
    ok_of_isOk (by decide : (fromLinearActions {} (sends 2) {}).isOk = true)
  have hruns := linear_run_executes_iff haccepted succeedingEnv {} ()
  exact ⟨hruns.1, (hruns.2 (by decide)).mpr (by decide)⟩

end SignPulse.LinearRuns
