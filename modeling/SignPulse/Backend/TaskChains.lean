import SignPulse.Foundation.Links
import SignPulse.Backend.EditHistories

/-!
# Task chains

The links of `next_task_on_success` between the tasks of an account.  `_validate_task_chain`
follows them from a new target, for at most twenty turns, and only for the accounts that a
call names.
-/

namespace SignPulse.TaskConfigs

open Relation
open Foundation
open FlowModels (PyError)
open ChainedRuns (Config getEntry isTrue)

/-! ## Links -/

/-- The task that a configuration names as its next one. -/
def Environment.nextOf (env : Environment) (config : Config) : Option String :=
  let next := env.toText (getEntry config "next_task_on_success")
  if next = "" then none else some next

namespace Service

variable (service : Service) (env : Environment)

def nextTask (account task : String) : Option String :=
  match service.readJson (.nested account task) with
  | .dict config => env.nextOf config
  | _ => none

def taskLink (account task : String) : Option String :=
  (service.nextTask env account task).filter fun next =>
    service.configExists (.nested account next)

/-- The walk of `_validate_task_chain` comes to its end within so many turns. -/
def chainEnds (account : String) : ℕ → String → Bool
  | 0, curr => curr == ""
  | turns + 1, curr =>
    curr == "" || match service.nextTask env account curr with
      | none => true
      | some next => chainEnds account turns next

/-- The check of `_validate_task_chain` for one account passes, and is not cut short. -/
def ChainChecked (situation : Situation) (account taskName next : String) : Prop :=
  service.walkTaskChain env situation account 20 [taskName] next = .ok () ∧
    service.chainEnds env account 20 next = true

end Service

section Walking

variable {env : Environment} {situation : Situation} {service : Service}

theorem pyStrip_toText (value : PyValue) : pyStrip (env.toText value) = env.toText value := by
  unfold Environment.toText
  split
  · exact pyStrip_pyStrip _
  · decide

section

variable (htidy : Tidy env service)

include htidy

theorem Tidy.nextTask_empty (account : String) : service.nextTask env account "" = none := by
  unfold Service.nextTask
  split
  · next config hconfig =>
    obtain ⟨-, -, htask, -⟩ := htidy.of_readJson hconfig
    exact absurd rfl (storageName_eq_ok htask).2
  · rfl

/-- What the check of a chain sees of a task is its file. -/
theorem Tidy.nextTask_of_getTask {account task : String}
    {found : Option TaskInfo} (haccount : IsAccount env account)
    (htask : pyStrip task = task)
    (hfound : service.getTask env situation task (some account) = .ok found) :
    service.nextTask env account task = found.elim none fun info =>
      if info.nextTaskOnSuccess = "" then none else some info.nextTaskOnSuccess := by
  obtain ⟨cleaned, hcleaned, hfile⟩ := htidy.of_getTask haccount hfound
  obtain ⟨rfl, -⟩ := storageName_eq_ok hcleaned
  rw [htask] at hfile
  unfold Service.nextTask Service.readJson
  rcases hfile with ⟨rfl, hnone⟩ | ⟨info, config, rfl, hconfig, hnext⟩
  · rw [hnone]
    rfl
  · rw [hconfig, Option.elim_some, hnext]
    rfl

theorem chain_of_empty {account node : String}
    (hpath : ReflTransGen (LinksTo (service.nextTask env account)) "" node) : node = "" := by
  rcases ReflTransGen.cases_head hpath with rfl | ⟨next, hlink, -⟩
  · rfl
  · rw [LinksTo, htidy.nextTask_empty account] at hlink
    cases hlink

theorem not_reaches_of_walk {account : String}
    (haccount : IsAccount env account) {turns : ℕ} {visited : List String} {curr : String}
    (hvisited : "" ∉ visited) (hcurr : pyStrip curr = curr)
    (hwalk : service.walkTaskChain env situation account turns visited curr = .ok ())
    (hends : service.chainEnds env account turns curr = true) :
    ∀ node ∈ visited, ¬ReflTransGen (LinksTo (service.nextTask env account)) curr node := by
  induction turns generalizing visited curr with
  | zero =>
    intro node hnode hpath
    obtain rfl : curr = "" := by simpa [Service.chainEnds] using hends
    exact hvisited (chain_of_empty htidy hpath ▸ hnode)
  | succ turns ih =>
    intro node hnode hpath
    unfold Service.walkTaskChain at hwalk
    split at hwalk
    · next hempty =>
      subst hempty
      exact hvisited (chain_of_empty htidy hpath ▸ hnode)
    next hnonempty =>
      split at hwalk
      · cases hwalk
      next hfresh =>
        rcases ReflTransGen.cases_head hpath with rfl | ⟨next, hlink, hrest⟩
        · exact hfresh hnode
        · -- The walk follows the same link, having visited one task more.
          split at hwalk
          · cases hwalk
          · next hfound =>
            have hnone := htidy.nextTask_of_getTask haccount hcurr hfound
            rw [LinksTo, hnone] at hlink
            cases hlink
          · next info hfound =>
            have hnext := htidy.nextTask_of_getTask haccount hcurr hfound
            rw [LinksTo, hnext] at hlink
            have hsame : info.nextTaskOnSuccess = next := by
              rw [Option.elim_some] at hlink
              split at hlink
              · cases hlink
              · exact Option.some.inj hlink
            subst hsame
            have hstripped : pyStrip info.nextTaskOnSuccess = info.nextTaskOnSuccess := by
              obtain ⟨_, -, hfile⟩ := htidy.of_getTask haccount hfound
              rcases hfile with ⟨hnone, -⟩ | ⟨other, config, hother, -, htext⟩
              · cases hnone
              · cases hother
                rw [htext]
                exact pyStrip_toText _
            rw [hstripped] at hwalk
            have hends' : service.chainEnds env account turns info.nextTaskOnSuccess = true := by
              rw [Service.chainEnds, hnext, hlink] at hends
              simpa [hnonempty] using hends
            apply ih _ hstripped hwalk hends' node (List.mem_append_left _ hnode) hrest
            intro hmem
            rcases List.mem_append.mp hmem with hold | hnew
            · exact hvisited hold
            · exact hnonempty (List.mem_singleton.mp hnew).symm

end

end Walking

/-! ## Relinking -/

/-- Compared to an earlier state, links are missing at most, but for those of one task that
is linked to `next` for some accounts. -/
def Relinked (env : Environment) (task next : String) (accounts : List String)
    (before after : Service) : Prop :=
  ∀ account other, after.nextTask env account other = before.nextTask env account other ∨
    after.nextTask env account other = none ∨
    other = task ∧ account ∈ accounts ∧ after.nextTask env account other = some next

section Relinking

variable {env : Environment} {task next : String} {accounts : List String}
variable {before after state : Service}

theorem relinked_of_files (hfiles : after.files = before.files) :
    Relinked env task next accounts before after := by
  intro account other
  rw [Service.nextTask, Service.readJson_of_files hfiles]
  exact .inl rfl

theorem relinked_bookKeeping : Service.BookKeeping (Relinked env task next accounts before) := by
  apply Service.bookKeeping_of_files
  intro state other hfiles hrelinked account name
  rcases @relinked_of_files env task next [] state other hfiles account name with
    hsame | hnone | ⟨-, hmem, -⟩
  · rw [hsame]
    exact hrelinked account name
  · exact .inr (.inl hnone)
  · cases hmem

theorem nextTask_writeConfig (dir : TaskDir) (config : Config) (account other : String) :
    (state.writeConfig dir config).nextTask env account other =
      if TaskDir.nested account other = dir then env.nextOf config
      else state.nextTask env account other := by
  unfold Service.nextTask
  rw [Service.readJson_writeConfig]
  by_cases hsame : TaskDir.nested account other = dir
  · rw [if_pos hsame, if_pos hsame]
  · rw [if_neg hsame, if_neg hsame]

theorem nextTask_rmtree (dir : TaskDir) (account other : String) :
    (state.rmtree dir).nextTask env account other = state.nextTask env account other ∨
      (state.rmtree dir).nextTask env account other = none := by
  rw [Service.nextTask, Service.readJson_rmtree]
  by_cases hcovered : dir.covers (.nested account other) = true
  · rw [if_pos hcovered]
    exact .inr rfl
  · rw [if_neg hcovered]
    exact .inl rfl

theorem Relinked.rmtree (hrelinked : Relinked env task next accounts before state)
    (dir : TaskDir) : Relinked env task next accounts before (state.rmtree dir) := by
  intro account other
  rcases @nextTask_rmtree env state dir account other with hsame | hnone
  · rw [hsame]
    exact hrelinked account other
  · exact .inr (.inl hnone)

/-- A write drops the link of a copy, keeps it, or makes the one link that is made. -/
theorem Relinked.write {account : String} {config : Config}
    (hrelinked : Relinked env task next accounts before state)
    (hconfig : env.nextOf config = none ∨ env.nextOf config = state.nextTask env account task ∨
      account ∈ accounts ∧ env.nextOf config = some next) :
    Relinked env task next accounts before (state.writeConfig (.nested account task) config) := by
  intro owner other
  rw [nextTask_writeConfig]
  split
  · next hsame =>
    obtain ⟨rfl, rfl⟩ := TaskDir.nested.inj hsame
    rcases hconfig with hnone | hkept | ⟨hmem, hnext⟩
    · exact .inr (.inl hnone)
    · rw [hkept]
      exact hrelinked owner other
    · exact .inr (.inr ⟨rfl, hmem, hnext⟩)
  · exact hrelinked owner other

/-- New links that do not lead back to the task that has them make no cycle. -/
theorem Relinked.acyclic {account : String}
    (hrelinked : Relinked env task next accounts before after)
    (hacyclic : AcyclicLinks (before.nextTask env account))
    (hnext : account ∈ accounts → ¬ReflTransGen (LinksTo (before.nextTask env account)) next task) :
    AcyclicLinks (after.nextTask env account) := by
  apply @AcyclicLinks.relink _ _ _ task hacyclic
  · intro other hother target hlink
    rcases hrelinked account other with hsame | hnone | ⟨hsame, -, -⟩
    · rwa [← hsame]
    · rw [hnone] at hlink
      cases hlink
    · exact absurd hsame hother
  · intro target hlink
    rcases hrelinked account task with hsame | hnone | ⟨-, hmem, hnew⟩
    · intro hback
      rw [hsame] at hlink
      exact hacyclic task (.head' hlink hback)
    · rw [hnone] at hlink
      cases hlink
    · rw [hnew] at hlink
      cases hlink
      exact hnext hmem

end Relinking

/-! ## Links that operations make -/

section Making

variable {env : Environment} {situation : Situation} {service : Service}
variable {database : String → Bool} {drawn taskName : String}

theorem toText_str (text : String) : env.toText (.str (pyStrip text)) = pyStrip text := by
  unfold Environment.toText
  by_cases hempty : pyStrip text = ""
  · rw [hempty]
    rfl
  · have htrue : isTrue (PyValue.str (pyStrip text)) = true := bne_iff_ne.mpr hempty
    rw [if_pos htrue]
    exact pyStrip_pyStrip text

variable {config : Config} {account : String} {existing : TaskInfo} {plan : UpdatePlan}

theorem nextOf_of_text {text : String}
    (hentry : getEntry config "next_task_on_success" = .str (pyStrip text)) :
    env.nextOf config = if pyStrip text = "" then none else some (pyStrip text) := by
  rw [Environment.nextOf, hentry, toText_str]

theorem nextEntry_of_built {groupId : String} {accountNames : List String} {fields : FieldValues}
    {lastRun : PyValue}
    (hbuilt : buildSignTaskConfig account accountNames groupId fields lastRun = .ok config) :
    getEntry config "next_task_on_success" = .str (pyStrip (fields.nextTaskOnSuccess.getD "")) := by
  unfold buildSignTaskConfig at hbuilt
  obtain ⟨tags, -, hbuilt⟩ := bind_eq_ok.mp hbuilt
  obtain ⟨engine, -, hbuilt⟩ := bind_eq_ok.mp hbuilt
  cases lastRun with
  | none =>
    cases hbuilt
    rfl
  | _ =>
    cases hbuilt
    rfl

/-- `create_task` links its task to the next one for the accounts that it writes to. -/
theorem relinked_of_createTask {args : CreateArgs} {plan : CreatePlan}
    (hplan : service.planCreate env situation taskName args = .ok plan) :
    Relinked env plan.taskName (pyStrip (args.nextTaskOnSuccess.getD "")) plan.targetAccounts
      service (service.createTask env situation database drawn taskName args).2 := by
  apply Service.createTask_keeps relinked_bookKeeping _ (relinked_of_files rfl)
  intro other hother account haccount config hconfig state hstate
  obtain rfl := Except.ok.inj (hplan.symm.trans hother)
  unfold Service.createdConfig at hconfig
  obtain ⟨signInterval, -, hconfig⟩ := bind_eq_ok.mp hconfig
  apply hstate.write
  rw [nextOf_of_text (nextEntry_of_built hconfig)]
  split
  · exact .inl rfl
  · exact .inr (.inr ⟨haccount, rfl⟩)

theorem nextEntry_of_resolved {args : FieldArgs} {values : FieldValues}
    (hvalues : env.resolveUpdateFieldValues existing args = .ok values) :
    values.nextTaskOnSuccess =
      some (pyStrip (args.nextTaskOnSuccess.getD existing.nextTaskOnSuccess)) := by
  unfold Environment.resolveUpdateFieldValues at hvalues
  obtain ⟨randomSeconds, -, hvalues⟩ := bind_eq_ok.mp hvalues
  obtain ⟨signInterval, -, hvalues⟩ := bind_eq_ok.mp hvalues
  obtain ⟨chats, -, hvalues⟩ := bind_eq_ok.mp hvalues
  obtain ⟨tags, -, hvalues⟩ := bind_eq_ok.mp hvalues
  obtain ⟨engine, -, hvalues⟩ := bind_eq_ok.mp hvalues
  cases hvalues
  rfl

theorem nextOf_of_planned {call : UpdateCall} {values : FieldValues} {lastRun : PyValue}
    (hvalues : env.resolveUpdateFieldValues existing call.args = .ok values)
    (hfields : plan.fields = call.clearFields values)
    (hbuilt : buildSignTaskConfig account plan.storedAccountNames plan.groupId plan.fields
      lastRun = .ok config) :
    env.nextOf config = none ∨ env.nextOf config =
      some (pyStrip (call.args.nextTaskOnSuccess.getD existing.nextTaskOnSuccess)) := by
  have hentry := nextEntry_of_built hbuilt
  have hnext : plan.fields.nextTaskOnSuccess = some "" ∨ plan.fields.nextTaskOnSuccess =
      some (pyStrip (call.args.nextTaskOnSuccess.getD existing.nextTaskOnSuccess)) := by
    rw [hfields, ← nextEntry_of_resolved hvalues]
    simp only [UpdateCall.clearFields]
    split
    · exact .inl rfl
    · exact .inr rfl
  rw [nextOf_of_text hentry]
  split
  · exact .inl rfl
  · next hnonempty =>
    rcases hnext with hnone | hnext
    · rw [hnone] at hnonempty
      exact absurd (by decide) hnonempty
    · rw [hnext, Option.getD_some, pyStrip_pyStrip]
      exact .inr rfl

/-- What an update writes over a copy has the next task of the copy, or a new one. -/
theorem nextOf_of_merged {mask : Option (List String)} {merged previous : Config}
    (hnodup : (Dict.keyList config).Nodup)
    (hentry : (Dict.getItem config "next_task_on_success").isSome)
    (hsource : ∃ source, plan.sourceConfig = .dict source)
    (hmerged : Service.mergedConfig mask plan config (.dict previous) = .ok merged) :
    env.nextOf merged = env.nextOf config ∨ env.nextOf merged = env.nextOf previous := by
  have hnext : ∀ left right : Config, Dict.getItem left "next_task_on_success" =
      Dict.getItem right "next_task_on_success" → env.nextOf left = env.nextOf right := by
    intro left right hsame
    unfold Environment.nextOf getEntry
    rw [hsame]
  have hover : ∀ under : Config, env.nextOf (Dict.update under config) = env.nextOf config := by
    intro under
    apply hnext
    obtain ⟨value, hvalue⟩ := Option.isSome_iff_exists.mp hentry
    rw [Dict.getItem_update hnodup, hvalue, Option.some_or]
  obtain ⟨source, hsource⟩ := hsource
  cases previous with
  | nil =>
    simp only [Service.mergedConfig] at hmerged
    rw [hsource] at hmerged
    cases hmerged
    exact .inl (hover source)
  | cons entry rest =>
    unfold Service.mergedConfig at hmerged
    cases mask with
    | none =>
      cases hmerged
      exact .inl (hover (entry :: rest))
    | some mask =>
      have hmasked : env.nextOf (Dict.update (entry :: rest)
          (mask.filterMap fun key => (Dict.getItem config key).map (Prod.mk key))) =
            env.nextOf config ∨ env.nextOf (Dict.update (entry :: rest)
          (mask.filterMap fun key => (Dict.getItem config key).map (Prod.mk key))) =
            env.nextOf (entry :: rest) := by
        rcases @Dict.getItem_update_or _ _ _ (entry :: rest)
          (mask.filterMap fun key => (Dict.getItem config key).map (Prod.mk key))
          "next_task_on_success" with hkept | ⟨value, hvalue, hget⟩
        · exact .inr (hnext _ _ hkept)
        · obtain ⟨field, -, hfield⟩ := List.mem_filterMap.mp hvalue
          obtain ⟨found, hfound, hsame⟩ := Option.map_eq_some_iff.mp hfield
          obtain ⟨rfl, rfl⟩ := Prod.mk.inj hsame
          exact .inl (hnext _ _ (hget.trans hfound.symm))
      cases hmerged
      split
      · rw [hnext _ _ (Dict.getItem_setItem_of_ne _ _ (by decide))]
        exact hmasked
      · exact hmasked

theorem nextTask_of_readJson {task : String}
    (hconfig : service.readJson (.nested account task) (.dict []) = .dict config) :
    service.nextTask env account task = env.nextOf config := by
  unfold Service.nextTask
  unfold Service.readJson at hconfig ⊢
  cases hcontent : (service.files.select (.nested account task)).join with
  | none =>
    rw [hcontent] at hconfig
    obtain rfl : [] = config := PyValue.dict.inj hconfig
    rfl
  | some value =>
    rw [hcontent] at hconfig
    obtain rfl : value = .dict config := hconfig
    rfl

/-- `_update_task_impl` links its task to the next one that it has checked. -/
theorem updateRelinks {call : UpdateCall} {before : Service} (hservice : Stored env service)
    (hregistered : Registered env situation)
    (htask : env.storageName call.taskName "task_name" = .ok call.taskName)
    (hfound : service.existingTask env situation call = .ok (some existing))
    (hplan : service.planUpdate env situation drawn call = .ok plan) :
    Service.UpdateKeeps (fun state => Stored env state ∧ Relinked env call.taskName
      (pyStrip (call.args.nextTaskOnSuccess.getD existing.nextTaskOnSuccess))
      plan.targetAccounts before state) call plan := by
  have hkeeps := hservice.updateKeeps hregistered htask hplan
  obtain ⟨other, ownAccounts, values, hother, -, -, -, -, hvalues, hfields, -, -, -, dir, -,
    hsourceConfig⟩ := Service.of_planUpdate hplan
  obtain rfl := Option.some.inj (Except.ok.inj (hfound.symm.trans hother))
  have hsource : ∃ source, plan.sourceConfig = .dict source := by
    rw [hsourceConfig]
    cases dir with
    | none => exact ⟨[], rfl⟩
    | some dir =>
      obtain ⟨source, hread, -⟩ := hservice.readJson_dict dir
      exact ⟨source, hread⟩
  constructor
  · intro account haccount dir hdir state hstate
    exact ⟨hkeeps.remove account haccount dir hdir state hstate.1, hstate.2.rmtree dir⟩
  · intro account haccount config merged state hbuilt hmerged hstate
    refine ⟨hkeeps.write account haccount config merged state hbuilt hmerged hstate.1, ?_⟩
    apply hstate.2.write
    obtain ⟨hnodup, hkeys⟩ := nodup_of_built hbuilt
    have hentry : (Dict.getItem config "next_task_on_success").isSome := by
      obtain ⟨value, hvalue⟩ :=
        Dict.exists_getItem_of_mem_keyList (hkeys "next_task_on_success" (by decide))
      rw [hvalue]
      rfl
    obtain ⟨previous, hprevious, -⟩ :=
      hstate.1.readJson_dict (.nested account call.taskName)
    rw [hprevious] at hmerged
    rcases nextOf_of_merged hnodup hentry hsource hmerged with hnew | hkept
    · rw [hnew]
      rcases nextOf_of_planned hvalues hfields hbuilt with hnone | hnext
      · exact .inl hnone
      · exact .inr (.inr ⟨haccount, hnext⟩)
    · rw [hkept, nextTask_of_readJson hprevious]
      exact .inr (.inl rfl)
  · intro account haccount dir hdir hmoved state hstate
    exact ⟨hkeeps.move account haccount dir hdir hmoved state hstate.1, hstate.2.rmtree dir⟩

/-- `delete_task` makes no links. -/
theorem relinked_of_deleteTask {jobsRemain : Bool} {accountName : Option String} {name : String}
    (hname : env.storageName taskName "task_name" = .ok name) :
    Relinked env name "" [] service
      (service.deleteTask env situation database jobsRemain taskName accountName).2 := by
  apply Service.deleteTask_keeps relinked_bookKeeping _ (relinked_of_files rfl)
  intro other hother copies hcopies
  obtain rfl := Except.ok.inj (hname.symm.trans hother)
  constructor
  · intro copy _ state hstate
    exact hstate.rmtree copy.2
  · intro account _ _ state _ _ _ hstate
    exact hstate.rmtree _
  · intro account _ config stored state hconfig _ _ hstate
    apply hstate.write
    refine .inr (.inl ?_)
    have hread : state.nextTask env account name = env.nextOf config := by
      unfold Service.nextTask
      rw [hconfig]
    rw [hread]
    unfold Environment.nextOf getEntry
    rw [Dict.getItem_setItem_of_ne _ _ (by decide)]

theorem relinked_of_writeWildcardCopy {removed : List Tombstone} {copy : WildcardCopy} :
    Relinked env copy.taskName (env.toText (getEntry copy.base "next_task_on_success"))
      [copy.account] service (Service.writeWildcardCopy removed service copy) := by
  apply @Service.writeWildcardCopy_keeps _ (Relinked env copy.taskName
    (env.toText (getEntry copy.base "next_task_on_success")) [copy.account] service) removed
    copy _ (relinked_of_files rfl)
  intro _ _
  apply (relinked_of_files rfl).write
  have hbase : env.nextOf copy.config = env.nextOf copy.base := by
    unfold Environment.nextOf getEntry WildcardCopy.config
    rw [Dict.getItem_setItem_of_ne _ _ (by decide)]
  rw [hbase]
  simp only [Environment.nextOf]
  split
  · exact .inl rfl
  · exact .inr (.inr ⟨List.mem_singleton_self _, rfl⟩)

end Making

/-! ## Edit histories -/

namespace Chains

open Edits

/-- If the check of a call passes for the accounts that it names, it passes for those that
it writes to, and no chain is longer than the check follows it. -/
def CheckCovers (service : Service) (env : Environment) (situation : Situation)
    (named written : List String) (taskName : String) (next : Option String) : Prop :=
  service.validateTaskChain env situation named taskName next = .ok () →
    ∀ account ∈ written, account ≠ "*" →
      service.ChainChecked env situation account taskName (pyStrip (next.getD ""))

def CreateCovered (service : Service) (env : Environment) (situation : Situation)
    (taskName : String) (args : CreateArgs) : Prop :=
  ∀ names, env.normalizeAccountNames (args.accountNames.getD []) (some args.accountName) =
      .ok names →
    CheckCovers service env situation names (Service.expandAccountNames situation names)
      (pyStrip taskName) args.nextTaskOnSuccess

def UpdateCovered (service : Service) (env : Environment) (situation : Situation)
    (call : UpdateCall) : Prop :=
  ∀ existing, service.existingTask env situation call = .ok (some existing) →
    ∀ own, env.normalizeAccountNames existing.accountNames (some existing.accountName) = .ok own →
      ∀ accounts, Service.givenAccounts env call own = .ok accounts →
        CheckCovers service env situation (Service.expandAccountNames situation accounts)
          (Service.expandAccountNames situation accounts) call.taskName
          (some (call.args.nextTaskOnSuccess.getD existing.nextTaskOnSuccess))

def ExpansionCovered (env : Environment) (situation : Situation) (removed : List Tombstone) :
    Service → List WildcardCopy → Prop
  | _, [] => True
  | service, copy :: rest =>
    ((copy.account, copy.taskName) ∉ removed → service.configExists copy.dir = false →
      copy.account ≠ "*" →
      service.ChainChecked env situation copy.account copy.taskName
        (env.toText (getEntry copy.base "next_task_on_success"))) ∧
    ExpansionCovered env situation removed (Service.writeWildcardCopy removed service copy) rest

/-- The check of `_validate_task_chain` covers every link that the step makes. -/
def Covered (env : Environment) (service : Service) : Action → Prop
  | .create situation _ _ taskName args =>
    CreateCovered service env situation taskName args
  | .clone situation _ _ taskName newName accountName =>
    ∀ source, service.getTask env situation taskName accountName = .ok (some source) →
      CreateCovered (service.loadTasksCache env situation) env situation newName
        (Service.cloneArgs env source accountName)
  | .update situation _ _ call =>
    ∀ checked, call.prepare env = .ok checked →
      UpdateCovered (service.loadTasksCache env situation) env situation checked
  | .delete _ _ _ _ _ => True
  | .expand situation available =>
    ExpansionCovered env situation (service.wildcardRemoved available).2
      (service.wildcardRemoved available).1 (service.wildcardCopies situation)
  | .restart => True
  | .relist _ => True

/-- A tidy store whose accounts have no cycle of tasks. -/
structure Acyclic (env : Environment) (service : Service) : Prop where
  tidy : Tidy env service
  links : ∀ account, account ≠ "*" → AcyclicLinks (service.nextTask env account)

section Keeping

variable {env : Environment} {situation : Situation} {service : Service}
variable {database : String → Bool} {drawn taskName : String}

theorem acyclic_empty (env : Environment) : Acyclic env {} where
  tidy := tidy_empty env
  links := fun _ _ => acyclicLinks_none

theorem not_reaches_of_checked {account next : String} (htidy : Tidy env service)
    (haccount : IsAccount env account) (hname : env.storageName taskName "task_name" = .ok taskName)
    (hnext : pyStrip next = next)
    (hchecked : service.ChainChecked env situation account taskName next) :
    ¬ReflTransGen (LinksTo (service.nextTask env account)) next taskName := by
  obtain ⟨hwalk, hends⟩ := hchecked
  apply not_reaches_of_walk htidy haccount _ hnext hwalk hends taskName List.mem_cons_self
  intro hempty
  exact (storageName_eq_ok hname).2 (List.mem_singleton.mp hempty).symm

theorem acyclic_of_files {other : Service} (hacyclic : Acyclic env service)
    (htidy : Tidy env other) (hfiles : other.files = service.files) : Acyclic env other where
  tidy := htidy
  links := by
    intro account haccount
    apply @Relinked.acyclic env "" "" [] service other account (relinked_of_files hfiles)
      (hacyclic.links account haccount)
    intro hmem
    cases hmem

theorem acyclic_of_create {args : CreateArgs} (hacyclic : Acyclic env service)
    (hregistered : Registered env situation)
    (hcovered : CreateCovered service env situation taskName args) :
    Acyclic env (service.createTask env situation database drawn taskName args).2 := by
  have htidy := @Tidy.createTask env situation service database drawn taskName args
    hacyclic.tidy hregistered
  cases hplan : service.planCreate env situation taskName args with
  | error error =>
    apply acyclic_of_files hacyclic htidy
    rw [Service.createTask, hplan]
  | ok plan =>
    refine ⟨htidy, ?_⟩
    intro account haccount
    apply (relinked_of_createTask hplan).acyclic (hacyclic.links account haccount)
    intro hmem
    obtain ⟨hname, hnames, hchain, htargets⟩ := Service.of_planCreate hplan
    rw [htargets] at hmem
    have hchecked := hcovered plan.storedAccountNames hnames
    rw [← (storageName_eq_ok hname).1] at hchecked
    exact not_reaches_of_checked hacyclic.tidy
      (isAccount_of_expanded hregistered (isAccount_of_normalized hnames) account hmem)
      (storageName_checked hname _) (pyStrip_pyStrip _)
      (hchecked hchain account hmem haccount)

theorem acyclic_of_load (hacyclic : Acyclic env service) :
    Acyclic env (service.loadTasksCache env situation) :=
  acyclic_of_files hacyclic (Tidy.bookKeeping.load env situation hacyclic.tidy)
    Service.files_loadTasksCache

theorem acyclic_of_clone {newName : String} {accountName : Option String}
    (hacyclic : Acyclic env service) (hregistered : Registered env situation)
    (hcovered : ∀ source, service.getTask env situation taskName accountName =
      .ok (some source) → CreateCovered (service.loadTasksCache env situation) env situation
        newName (Service.cloneArgs env source accountName)) :
    Acyclic env
      (service.cloneTask env situation database drawn taskName newName accountName).2 := by
  have hlisted := @acyclic_of_load env situation service hacyclic
  rcases @Service.cloneTask_eq env situation service database drawn taskName newName
    accountName with hsame | hsame | ⟨cleaned, source, hname, hsource, hsame⟩
  · rwa [hsame]
  · rwa [hsame]
  · rw [hsame]
    apply acyclic_of_create hlisted hregistered
    obtain ⟨rfl, -⟩ := storageName_eq_ok hname
    intro names hnames
    rw [pyStrip_pyStrip]
    exact hcovered source hsource names hnames

theorem acyclic_of_update {call : UpdateCall} (hacyclic : Acyclic env service)
    (hregistered : Registered env situation)
    (hcovered : ∀ checked, call.prepare env = .ok checked →
      UpdateCovered (service.loadTasksCache env situation) env situation checked) :
    Acyclic env (service.updateTask env situation database drawn call).2 := by
  have hlisted := @acyclic_of_load env situation service hacyclic
  have htidy := @Tidy.updateTask env situation service database drawn call hacyclic.tidy hregistered
  have hunchanged : (∀ checked, call.prepare env = .ok checked → ∀ plan,
      (service.loadTasksCache env situation).planUpdate env situation drawn checked ≠
        .ok plan) → Acyclic env (service.updateTask env situation database drawn call).2 := by
    intro hnone
    apply acyclic_of_files hacyclic htidy
    refine @Service.updateTask_keeps env situation service database drawn call
      (fun state => state.files = service.files)
      (Service.bookKeeping_of_files fun state other hother hstate => hother.trans hstate) ?_ rfl
    intro checked hchecked plan hplan
    exact absurd hplan (hnone checked hchecked plan)
  cases hchecked : call.prepare env with
  | error error =>
    apply hunchanged
    intro checked hother
    rw [hchecked] at hother
    cases hother
  | ok checked =>
    cases hplan : (service.loadTasksCache env situation).planUpdate env situation drawn checked with
    | error error =>
      apply hunchanged
      intro other hother plan hplanned
      obtain rfl := Except.ok.inj (hchecked.symm.trans hother)
      rw [hplan] at hplanned
      cases hplanned
    | ok plan =>
      obtain ⟨existing, own, values, hfound, hown, haccounts, htargets, hchain, -⟩ :=
        Service.of_planUpdate hplan
      have hname := (taskName_of_prepare hchecked).1
      have hrelinked := @Service.updateTask_keeps env situation service database drawn call
        _ (Stored.bookKeeping.and relinked_bookKeeping) (by
          intro other hother planned hplanned
          obtain rfl := Except.ok.inj (hchecked.symm.trans hother)
          obtain rfl := Except.ok.inj (hplan.symm.trans hplanned)
          exact updateRelinks hlisted.tidy.toStored hregistered hname hfound hplan)
        ⟨hacyclic.tidy.toStored, relinked_of_files rfl⟩
      refine ⟨htidy, ?_⟩
      intro account haccount
      apply hrelinked.2.acyclic (hacyclic.links account haccount)
      intro hmem
      rw [htargets] at hmem hchain
      have hlinks : (service.loadTasksCache env situation).nextTask env account =
          service.nextTask env account := by
        funext other
        unfold Service.nextTask
        rw [Service.readJson_of_files Service.files_loadTasksCache]
      rw [← hlinks]
      have hvalid := isAccount_of_given (isAccount_of_normalized hown) haccounts
      exact not_reaches_of_checked hlisted.tidy
        (isAccount_of_expanded hregistered hvalid account hmem) hname (pyStrip_pyStrip _)
        (hcovered checked hchecked existing hfound own hown _ haccounts hchain account hmem
          haccount)

theorem acyclic_of_delete {jobsRemain : Bool} {accountName : Option String}
    (hacyclic : Acyclic env service) :
    Acyclic env (service.deleteTask env situation database jobsRemain taskName accountName).2 := by
  have htidy := @Tidy.deleteTask env situation service database taskName jobsRemain accountName
    hacyclic.tidy
  cases hname : env.storageName taskName "task_name" with
  | error error =>
    apply acyclic_of_files hacyclic htidy
    rw [Service.deleteTask, hname]
  | ok name =>
    refine ⟨htidy, ?_⟩
    intro account haccount
    apply (relinked_of_deleteTask hname).acyclic (hacyclic.links account haccount)
    intro hmem
    cases hmem

theorem acyclic_of_writeWildcardCopy {removed : List Tombstone} {copy : WildcardCopy}
    (hacyclic : Acyclic env service) (haccount : IsAccount env copy.account)
    (htask : env.storageName copy.taskName "task_name" = .ok copy.taskName)
    (hbase : ∃ owner, Readable env owner copy.base)
    (hcovered : (copy.account, copy.taskName) ∉ removed →
      service.configExists copy.dir = false → copy.account ≠ "*" →
      service.ChainChecked env situation copy.account copy.taskName
        (env.toText (getEntry copy.base "next_task_on_success"))) :
    Acyclic env (Service.writeWildcardCopy removed service copy) := by
  have htidy : Tidy env (Service.writeWildcardCopy removed service copy) :=
    ⟨hacyclic.tidy.toStored.writeWildcardCopy haccount htask hbase,
      Service.writeWildcardCopy_keeps (fun _ _ => hacyclic.tidy.nested.write) hacyclic.tidy.nested⟩
  by_cases hwritten : (copy.account, copy.taskName) ∉ removed ∧
      service.configExists copy.dir = false
  · refine ⟨htidy, ?_⟩
    intro account hother
    apply relinked_of_writeWildcardCopy.acyclic (hacyclic.links account hother)
    intro hmem
    obtain rfl := List.mem_singleton.mp hmem
    exact not_reaches_of_checked hacyclic.tidy haccount htask (pyStrip_toText _)
      (hcovered hwritten.1 hwritten.2 hother)
  · apply acyclic_of_files hacyclic htidy
    refine @Service.writeWildcardCopy_keeps service
      (fun state => state.files = service.files) removed copy ?_ rfl
    intro hkept hmissing
    exact absurd ⟨hkept, hmissing⟩ hwritten

theorem acyclic_of_copies {removed : List Tombstone} {copies : List WildcardCopy}
    (hcopies : ∀ copy ∈ copies, IsAccount env copy.account ∧
      env.storageName copy.taskName "task_name" = .ok copy.taskName ∧
      ∃ owner, Readable env owner copy.base)
    (hacyclic : Acyclic env service)
    (hcovered : ExpansionCovered env situation removed service copies) :
    Acyclic env (copies.foldl (Service.writeWildcardCopy removed) service) := by
  induction copies generalizing service with
  | nil => exact hacyclic
  | cons copy rest ih =>
    obtain ⟨hcopy, hrest⟩ := hcovered
    obtain ⟨haccount, htask, hbase⟩ := hcopies copy List.mem_cons_self
    rw [List.foldl_cons]
    exact ih (fun other hother => hcopies other (List.mem_cons_of_mem _ hother))
      (acyclic_of_writeWildcardCopy hacyclic haccount htask hbase hcopy) hrest

theorem acyclic_of_expand {available : Bool} (hacyclic : Acyclic env service)
    (hregistered : Registered env situation)
    (hcovered : ExpansionCovered env situation (service.wildcardRemoved available).2
      (service.wildcardRemoved available).1 (service.wildcardCopies situation)) :
    Acyclic env (service.expandWildcardTasks env situation available) := by
  unfold Service.expandWildcardTasks
  split
  · exact hacyclic
  · have hread : Acyclic env (service.wildcardRemoved available).1 :=
      acyclic_of_files hacyclic (Tidy.bookKeeping.reload service available hacyclic.tidy)
        (Service.files_wildcardRemoved available)
    have hwritten := acyclic_of_copies
      (fun copy hcopy => hacyclic.tidy.toStored.of_mem_wildcardCopies hregistered hcopy) hread hcovered
    exact acyclic_of_files hwritten (Tidy.bookKeeping.refresh _ env situation hwritten.tidy) rfl

theorem acyclic_of_relist {files : Files} (hacyclic : Acyclic env service)
    (hperm : files.rows.Perm service.files.rows) :
    Acyclic env { service with files } := by
  have hselect : ∀ dir, files.select dir = service.files.select dir :=
    KeyedTable.select_eq_of_perm hperm
  constructor
  · constructor
    · constructor
      · intro dir content hcontent
        exact hacyclic.tidy.file dir content ((hselect dir).symm.trans hcontent)
      · exact hacyclic.tidy.listed
    · intro task
      exact (hselect _).trans (hacyclic.tidy.nested task)
  · intro account haccount
    have hlinks : ({ service with files } : Service).nextTask env account =
        service.nextTask env account := by
      funext other
      simp only [Service.nextTask, Service.readJson]
      rw [hselect]
    rw [hlinks]
    exact hacyclic.links account haccount

end Keeping

/-- A step keeps the chains of every account free of cycles, where the check covers what it
links. -/
theorem acyclic_of_step {env : Environment} {service next : Service} {action : Action}
    (hacyclic : Acyclic env service) (hpossible : Possible env service action)
    (hcovered : Covered env service action) (hstep : step env service action = some next) :
    Acyclic env next := by
  cases action with
  | create situation database drawn taskName args =>
    cases hstep
    exact acyclic_of_create hacyclic hpossible hcovered
  | clone situation database drawn taskName newName accountName =>
    cases hstep
    exact acyclic_of_clone hacyclic hpossible hcovered
  | update situation database drawn call =>
    cases hstep
    exact acyclic_of_update hacyclic hpossible hcovered
  | delete situation database jobsRemain taskName accountName =>
    cases hstep
    exact acyclic_of_delete hacyclic
  | expand situation available =>
    cases hstep
    exact acyclic_of_expand hacyclic hpossible hcovered
  | restart =>
    cases hstep
    exact acyclic_of_files hacyclic ⟨hacyclic.tidy.toStored.restart, hacyclic.tidy.nested⟩ rfl
  | relist files =>
    cases hstep
    exact acyclic_of_relist hacyclic hpossible

/-- In every history from an empty store whose links are all covered by the check, the
links between the existing tasks of an account have no cycle. -/
theorem taskLinks_acyclic {env : Environment} {actions : List Action} {last : Service}
    (hrun : StepRun (step env)
      (fun service action => Possible env service action ∧ Covered env service action)
      {} actions last) {account : String} (haccount : account ≠ "*") :
    AcyclicLinks (last.taskLink env account) := by
  have hacyclic := hrun.invariant (Acyclic env)
    (fun service action next hacyclic hallowed hstep =>
      acyclic_of_step hacyclic hallowed.1 hallowed.2 hstep) (acyclic_empty env)
  apply (hacyclic.links account haccount).mono
  intro task next hlink
  exact Option.eq_some_of_filter_eq_some hlink

def createLinked (accountName taskName next : String) : Action :=
  .create { accounts := ["a", "b"] } (fun _ => true) "g" taskName
    { accountName, nextTaskOnSuccess := some next }

theorem covered_createLinked (service : Service) (taskName next : String)
    (hchecked : service.ChainChecked plainEnvironment { accounts := ["a", "b"] } "a"
      (pyStrip taskName) (pyStrip next)) :
    Covered plainEnvironment service (createLinked "a" taskName next) := by
  intro names hnames _ account haccount _
  have hsame : plainEnvironment.normalizeAccountNames [] (some "a") = .ok ["a"] := by
    decide
  obtain rfl := Except.ok.inj (hsame.symm.trans hnames)
  have hwritten : Service.expandAccountNames { accounts := ["a", "b"] } ["a"] = ["a"] := by
    decide
  rw [hwritten] at haccount
  obtain rfl := List.mem_singleton.mp haccount
  exact hchecked

/-- Two tasks of an account, the first linked to the second. -/
theorem taskLinks_acyclic_linked : ∃ last : Service, StepRun (step plainEnvironment)
      (fun service action => Possible plainEnvironment service action ∧
        Covered plainEnvironment service action) {}
      [createLinked "a" "A" "B", createLinked "a" "B" "C"] last ∧
      last.taskLink plainEnvironment "a" "A" = some "B" ∧
      AcyclicLinks (last.taskLink plainEnvironment "a") := by
  have hrun : ∃ last : Service, StepRun (step plainEnvironment)
      (fun service action => Possible plainEnvironment service action ∧
        Covered plainEnvironment service action) {}
      [createLinked "a" "A" "B", createLinked "a" "B" "C"] last ∧
      last.taskLink plainEnvironment "a" "A" = some "B" := by
    refine ⟨_, .act ⟨?_, covered_createLinked _ _ _ ?_⟩ rfl
      (.act ⟨?_, covered_createLinked _ _ _ ?_⟩ rfl (.done _)), ?_⟩
    · unfold createLinked Possible Registered
      decide
    · constructor
      · rfl
      · decide
    · unfold createLinked Possible Registered
      decide
    · constructor
      · rfl
      · decide
    · decide
  obtain ⟨last, hlast, hlink⟩ := hrun
  exact ⟨last, hlast, hlink, taskLinks_acyclic hlast (by decide)⟩

/-- The check skips the wildcard, and the accounts that it stands for get the copies. -/
theorem wildcard_makes_cycle : ∃ (actions : List Action) (last : Service),
      StepRun (step plainEnvironment) (Possible plainEnvironment) {} actions last ∧
        ¬AcyclicLinks (last.taskLink plainEnvironment "a") := by
  refine ⟨[createLinked "*" "A" "B", createLinked "*" "B" "A"], _,
    .act ?_ rfl (.act ?_ rfl (.done _)), ?_⟩
  · unfold createLinked Possible Registered
    decide
  · unfold createLinked Possible Registered
    decide
  · intro hacyclic
    apply hacyclic "A"
    apply TransGen.tail (b := "B")
    · apply TransGen.single
      unfold LinksTo
      decide
    · unfold LinksTo
      decide

end Chains

end SignPulse.TaskConfigs
