import SignPulse.Backend.ListedTasks

/-!
# Updated copies

What `update_task` does from its first write on, where the files that it writes over can be
read: each account has a readable copy with the values of the call, and the other
directories stay.
-/

namespace SignPulse.TaskConfigs

open Foundation
open FlowModels (PyError)
open ChainedRuns (Config getEntry isTrue)

namespace Service

/-- What `update_task` makes sure of before its first write, once the list of tasks is on
hand. -/
def admitUpdate (service : Service) (env : Environment) (situation : Situation)
    (drawn : String) (call : UpdateCall) : Except PyError UpdatePlan := do
  let _ ← service.findRelatedTaskInfos env call.taskName call.accountName
  let _ ← env.normalizeAccountNames (call.accountNames.getD [])
  service.compareRevision env situation call
  service.planUpdate env situation drawn call

/-- `update_task` from its first write on. -/
def carryOut (service : Service) (env : Environment) (situation : Situation)
    (database : String → Bool) (call : UpdateCall) (plan : UpdatePlan) : Outcome TaskInfo :=
  match writeUpdated database call plan plan.targetAccounts (service.removeCopies plan) with
  | (.error error, written) => (.error error, written)
  | (.ok _, written) =>
    let refreshed := written.refreshTasksCache env situation
    (refreshed.pickTaskWriteResponse env situation call.taskName plan.targetAccounts
        ("任务 " ++ call.taskName ++ " 更新后无法读取"),
      refreshed)

section

variable {service : Service} {env : Environment} {situation : Situation}

/-- `update_task` is refused before its first write, or carries out its plan. -/
theorem updateTask_eq {database : String → Bool} {drawn : String} {call : UpdateCall} :
    service.updateTask env situation database drawn call = match call.prepare env with
      | .error error => (.error error, service)
      | .ok checked =>
        match (service.loadTasksCache env situation).admitUpdate env situation drawn checked with
        | .error error => (.error error, service.loadTasksCache env situation)
        | .ok plan =>
          (service.loadTasksCache env situation).carryOut env situation database checked plan := by
  unfold updateTask
  cases hchecked : call.prepare env with
  | error error => rfl
  | ok checked =>
    dsimp only
    unfold admitUpdate
    cases hrelated : (service.loadTasksCache env situation).findRelatedTaskInfos env
      checked.taskName checked.accountName with
    | error error => rfl
    | ok related =>
      cases hnames : env.normalizeAccountNames (checked.accountNames.getD []) with
      | error error => rfl
      | ok names =>
        cases hrevision : (service.loadTasksCache env situation).compareRevision env
          situation checked with
        | error error => rfl
        | ok _ =>
          dsimp only [bind, Except.bind]
          unfold updateTaskImpl
          cases (service.loadTasksCache env situation).planUpdate env situation drawn checked with
          | error error => rfl
          | ok plan => rfl

theorem planUpdate_of_admitted {drawn : String} {call : UpdateCall} {plan : UpdatePlan}
    (hplan : service.admitUpdate env situation drawn call = .ok plan) :
    service.planUpdate env situation drawn call = .ok plan := by
  unfold admitUpdate at hplan
  obtain ⟨_, -, hplan⟩ := bind_eq_ok.mp hplan
  obtain ⟨_, -, hplan⟩ := bind_eq_ok.mp hplan
  obtain ⟨_, -, hplan⟩ := bind_eq_ok.mp hplan
  exact hplan

end

end Service

/-! ## Values -/

def UpdateCall.setFields (call : UpdateCall) : List String :=
  call.fieldMask.getD builtKeys

/-- A configuration has the values that a call sets for an account. -/
def Carries (call : UpdateCall) (plan : UpdatePlan) (account : String) (config : Config) : Prop :=
  ∃ built, buildSignTaskConfig account plan.storedAccountNames plan.groupId plan.fields
      (lastRunFromRelated plan.related account) = .ok built ∧
    ∀ key ∈ call.setFields, Dict.getItem config key = Dict.getItem built key

section Values

variable {env : Environment} {call : UpdateCall} {plan : UpdatePlan} {account : String}

/-- The fields that a mask may name. -/
def MaskAllowed (call : UpdateCall) : Prop :=
  ∀ mask ∈ call.fieldMask, ∀ key ∈ mask, key ∈ builtKeys ∧ key ≠ "task_group_id"

theorem maskAllowed_of_checked {checked : UpdateCall} (hchecked : call.checked = .ok checked) :
    MaskAllowed checked := by
  have hkeys : ∀ field ∈ "account_names" :: Dict.keyList (FieldArgs.given {}),
      field ∈ builtKeys ∧ field ≠ "task_group_id" := by decide
  unfold UpdateCall.checked at hchecked
  split at hchecked
  · next hmask =>
    cases hchecked
    intro mask hsome
    rw [hmask] at hsome
    cases hsome
  · next mask hmask =>
    dsimp only at hchecked
    split at hchecked
    · cases hchecked
    next hallowed =>
      split at hchecked
      · cases hchecked
      split at hchecked
      · cases hchecked
      cases hchecked
      intro other hother key hkey
      obtain rfl := Option.some.inj (hmask.symm.trans hother)
      apply hkeys
      have hgiven : Dict.hasKey (("account_names", call.accountNames.isSome) ::
          call.args.given) key = true := by
        by_contra hmissing
        exact hallowed (List.any_eq_true.mpr ⟨key, hkey, by simpa using hmissing⟩)
      exact (Dict.hasKey_iff_mem_keyList _ key).mp hgiven

theorem maskAllowed_of_prepare {checked : UpdateCall}
    (hchecked : call.prepare env = .ok checked) : MaskAllowed checked := by
  unfold UpdateCall.prepare at hchecked
  split at hchecked
  · cases hchecked
  · exact maskAllowed_of_checked hchecked

theorem exists_built {existing : TaskInfo} {values : FieldValues}
    (hvalues : env.resolveUpdateFieldValues existing call.args = .ok values)
    (hfields : plan.fields = call.clearFields values) (groupId : String) (lastRun : PyValue) :
    ∃ config, buildSignTaskConfig account plan.storedAccountNames groupId plan.fields
      lastRun = .ok config := by
  unfold Environment.resolveUpdateFieldValues at hvalues
  obtain ⟨_, -, hvalues⟩ := bind_eq_ok.mp hvalues
  obtain ⟨_, -, hvalues⟩ := bind_eq_ok.mp hvalues
  obtain ⟨_, -, hvalues⟩ := bind_eq_ok.mp hvalues
  obtain ⟨tags, htags, hvalues⟩ := bind_eq_ok.mp hvalues
  obtain ⟨engine, hengine, hvalues⟩ := bind_eq_ok.mp hvalues
  cases hvalues
  rw [buildSignTaskConfig, hfields]
  simp only [UpdateCall.clearFields]
  rw [normalizeTaskTags_normalized htags, normalizeExecutionEngine_normalized hengine]
  dsimp only [bind, Except.bind]
  split
  · exact ⟨_, rfl⟩
  · exact ⟨_, rfl⟩

end Values

/-! ## Copies -/

/-- What a call starts from and hands on can be read, and the copies that it writes over. -/
structure Writable (env : Environment) (service : Service) (call : UpdateCall)
    (plan : UpdatePlan) : Prop where
  source : ∃ source, plan.sourceConfig = .dict source ∧ RunReadable source
  lastRun : ∀ account ∈ plan.targetAccounts,
    isTrue (lastRunFromRelated plan.related account) = true →
      ∃ entry, lastRunFromRelated plan.related account = .dict entry
  previous : ∀ account ∈ plan.targetAccounts, ∀ config,
    service.readJson (.nested account call.taskName) (.dict []) = .dict config →
      config = [] ∨ Readable env account config

/-- The copy of an account is readable and has what the call sets. -/
def Holds (env : Environment) (service : Service) (call : UpdateCall) (plan : UpdatePlan)
    (account : String) : Prop :=
  ∃ config, service.files.select (.nested account call.taskName) = some (some (.dict config)) ∧
    Readable env account config ∧ Carries call plan account config

section Copies

variable {env : Environment} {service : Service} {call : UpdateCall} {plan : UpdatePlan}
variable {account : String} {config : Config}

/-- What is written over a configuration has what the call sets. -/
theorem carries_of_merged {previous merged : Config} (hallowed : MaskAllowed call)
    (hbuilt : buildSignTaskConfig account plan.storedAccountNames plan.groupId plan.fields
      (lastRunFromRelated plan.related account) = .ok config)
    (hmerged : Service.mergedConfig call.fieldMask plan config (.dict previous) = .ok merged) :
    Carries call plan account merged := by
  obtain ⟨hnodup, hall⟩ := nodup_of_built hbuilt
  have hset : ∀ key ∈ call.setFields, ∃ value, Dict.getItem config key = some value := by
    intro key hkey
    apply Dict.exists_getItem_of_mem_keyList
    apply hall
    unfold UpdateCall.setFields at hkey
    cases hmask : call.fieldMask with
    | none => rwa [hmask] at hkey
    | some mask =>
      rw [hmask] at hkey
      exact (hallowed mask hmask key hkey).1
  have hover : ∀ base : Config, ∀ key ∈ call.setFields,
      Dict.getItem (Dict.update base config) key = Dict.getItem config key := by
    intro base key hkey
    obtain ⟨value, hvalue⟩ := hset key hkey
    rw [Dict.getItem_update hnodup, hvalue, Option.some_or]
  refine ⟨config, hbuilt, ?_⟩
  unfold Service.mergedConfig at hmerged
  split at hmerged
  · next entry rest mask hprevious hmask =>
    cases hmerged
    intro key hkey
    have hfield : key ∈ mask := by
      unfold UpdateCall.setFields at hkey
      rwa [hmask] at hkey
    obtain ⟨value, hvalue⟩ := hset key hkey
    have hitem : (key, value) ∈
        mask.filterMap fun key => (Dict.getItem config key).map (Prod.mk key) :=
      List.mem_filterMap.mpr ⟨key, hfield, by rw [hvalue]; rfl⟩
    obtain ⟨found, hfound, hget⟩ := @Dict.exists_getItem_update _ _ _ (entry :: rest) _ key
      (List.mem_map_of_mem hitem)
    obtain ⟨other, -, hother⟩ := List.mem_filterMap.mp hfound
    obtain ⟨value', hvalue', hsame⟩ := Option.map_eq_some_iff.mp hother
    obtain ⟨rfl, rfl⟩ := Prod.mk.inj hsame
    split
    · rw [Dict.getItem_setItem_of_ne _ _ (hallowed mask hmask other hfield).2, hget, hvalue']
    · rw [hget, hvalue']
  · next hprevious _ =>
    split at hmerged
    · next source _ =>
      cases hmerged
      exact hover source
    · cases hmerged
  · next found hfound _ _ =>
    cases hmerged
    exact hover found
  · cases hmerged
    exact fun _ _ => rfl

/-- What is certain of a plan that `update_task` carries out. -/
structure Planned (env : Environment) (service : Service) (call : UpdateCall)
    (plan : UpdatePlan) : Prop where
  task : env.storageName call.taskName "task_name" = .ok call.taskName
  allowed : MaskAllowed call
  stored : ∀ account ∈ plan.storedAccountNames, IsAccount env account
  target : ∀ account ∈ plan.targetAccounts, IsAccount env account
  nonempty : plan.targetAccounts ≠ []
  built : ∀ account, ∃ config,
    buildSignTaskConfig account plan.storedAccountNames plan.groupId plan.fields
      (lastRunFromRelated plan.related account) = .ok config
  dir : ∀ account found, Dict.getItem plan.existingDirs account = some found →
    found = .nested account call.taskName ∨
      found = .legacy call.taskName ∧ (service.files.select (.legacy call.taskName)).isSome

variable {state : Service} {done : List String}

theorem exists_merged (hplanned : Planned env service call plan)
    (hwritable : Writable env state call plan) (haccount : account ∈ plan.targetAccounts) :
    ∃ config merged, buildSignTaskConfig account plan.storedAccountNames plan.groupId plan.fields
        (lastRunFromRelated plan.related account) = .ok config ∧
      Service.mergedConfig call.fieldMask plan config
        (state.readJson (.nested account call.taskName) (.dict [])) = .ok merged ∧
      Readable env account merged ∧ Carries call plan account merged := by
  obtain ⟨config, hbuilt⟩ := hplanned.built account
  obtain ⟨source, hsource, hrun⟩ := hwritable.source
  have hconfig := readable_of_built (hplanned.target account haccount) hplanned.stored
    (hwritable.lastRun account haccount) hbuilt
  refine ⟨config, ?_⟩
  have hdict : ∀ previous : Config, (previous = [] ∨ Readable env account previous) →
      ∃ merged, buildSignTaskConfig account plan.storedAccountNames plan.groupId plan.fields
          (lastRunFromRelated plan.related account) = .ok config ∧
        Service.mergedConfig call.fieldMask plan config (.dict previous) = .ok merged ∧
        Readable env account merged ∧ Carries call plan account merged := by
    intro previous hprevious
    have hmerged : ∃ merged,
        Service.mergedConfig call.fieldMask plan config (.dict previous) = .ok merged := by
      unfold Service.mergedConfig
      rw [hsource]
      split
      · exact ⟨_, rfl⟩
      · exact ⟨_, rfl⟩
      · exact ⟨_, rfl⟩
      · exact ⟨_, rfl⟩
    obtain ⟨merged, hmerged⟩ := hmerged
    exact ⟨merged, hbuilt, hmerged,
      Stored.mergedConfig hbuilt hconfig hprevious hsource hrun hmerged,
      carries_of_merged hplanned.allowed hbuilt hmerged⟩
  cases hprevious : state.readJson (.nested account call.taskName) (.dict []) with
  | dict previous =>
    apply hdict
    exact hwritable.previous account haccount previous hprevious
  | _ => exact ⟨config, hbuilt, rfl, hconfig, config, hbuilt, fun _ _ => rfl⟩

/-- Nothing of the old layout is in the way of the copies. -/
def Apart (service : Service) (call : UpdateCall) (plan : UpdatePlan) : Prop :=
  call.taskName ∈ plan.targetAccounts → service.files.select (.legacy call.taskName) = none

theorem not_covers_copy {owner : String} {dir : TaskDir}
    (hplanned : Planned env service call plan) (hapart : Apart service call plan)
    (hdir : Dict.getItem plan.existingDirs owner = some dir)
    (haccount : account ∈ plan.targetAccounts)
    (hother : dir ≠ .nested account call.taskName) :
    dir.covers (.nested account call.taskName) = false := by
  rcases hplanned.dir owner dir hdir with rfl | ⟨rfl, hlegacy⟩
  · rw [Bool.eq_false_iff]
    intro hcovers
    exact hother ((Service.covers_nested _ _ _).mp hcovers).symm
  · rw [Bool.eq_false_iff]
    intro hcovers
    have hsame : account = call.taskName := eq_of_beq hcovers
    rw [hapart (hsame ▸ haccount)] at hlegacy
    cases hlegacy

/-- The copies that are there, and those that are written over, stay readable. -/
structure Progress (env : Environment) (call : UpdateCall) (plan : UpdatePlan)
    (done : List String) (state : Service) : Prop where
  writable : Writable env state call plan
  holds : ∀ account ∈ done, account ∈ plan.targetAccounts ∧ Holds env state call plan account

theorem Progress.bookKeeping : Service.BookKeeping (Progress env call plan done) := by
  apply Service.bookKeeping_of_files
  intro state other hfiles hstate
  constructor
  · constructor
    · exact hstate.writable.source
    · exact hstate.writable.lastRun
    · intro account haccount config hconfig
      rw [Service.readJson_of_files hfiles] at hconfig
      exact hstate.writable.previous account haccount config hconfig
  · intro account haccount
    rw [Holds, hfiles]
    exact hstate.holds account haccount

theorem Progress.rmtree {dir : TaskDir} (hstate : Progress env call plan done state)
    (hapart : ∀ account ∈ done, dir.covers (.nested account call.taskName) = false) :
    Progress env call plan done (state.rmtree dir) := by
  constructor
  · constructor
    · exact hstate.writable.source
    · exact hstate.writable.lastRun
    · intro account haccount config hconfig
      rw [Service.readJson_rmtree] at hconfig
      split at hconfig
      · obtain rfl := PyValue.dict.inj hconfig
        exact .inl rfl
      · exact hstate.writable.previous account haccount config hconfig
  · intro account haccount
    obtain ⟨htarget, config, hconfig, hrest⟩ := hstate.holds account haccount
    refine ⟨htarget, config, ?_, hrest⟩
    rw [Service.select_rmtree, hapart account haccount]
    exact hconfig

theorem Progress.write {merged : Config} (hstate : Progress env call plan done state)
    (haccount : account ∈ plan.targetAccounts) (hreadable : Readable env account merged)
    (hcarries : Carries call plan account merged) :
    Progress env call plan (account :: done)
      (state.writeConfig (.nested account call.taskName) merged) := by
  constructor
  · constructor
    · exact hstate.writable.source
    · exact hstate.writable.lastRun
    · intro other hother config hconfig
      rw [Service.readJson_writeConfig] at hconfig
      split at hconfig
      · next hsame =>
        obtain ⟨rfl, -⟩ := TaskDir.nested.inj hsame
        obtain rfl := PyValue.dict.inj hconfig
        exact .inr hreadable
      · exact hstate.writable.previous other hother config hconfig
  · intro other hother
    by_cases hsame : other = account
    · subst hsame
      refine ⟨haccount, merged, ?_, hreadable, hcarries⟩
      rw [Service.select_writeConfig, if_pos rfl]
    · have hdone := (List.mem_cons.mp hother).resolve_left hsame
      obtain ⟨htarget, config, hconfig, hrest⟩ := hstate.holds other hdone
      refine ⟨htarget, config, ?_, hrest⟩
      rw [Service.select_writeConfig, if_neg]
      · exact hconfig
      · intro hdir
        exact hsame (TaskDir.nested.inj hdir).1

section

variable {database : String → Bool}

theorem Progress.turn {done : List String} {state : Service}
    (hplanned : Planned env service call plan) (hapart : Apart service call plan)
    (hstate : Progress env call plan done state) (haccount : account ∈ plan.targetAccounts) :
    ∃ written, state.writeUpdatedCopy database call plan account = (.ok (), written) ∧
      Progress env call plan (account :: done) written := by
  obtain ⟨config, merged, hbuilt, hmerged, hreadable, hcarries⟩ :=
    exists_merged hplanned hstate.writable haccount
  have hwritten := Progress.bookKeeping.clear _ (database account) account call.taskName
    (hstate.write haccount hreadable hcarries)
  rw [Service.writeUpdatedCopy, hbuilt]
  dsimp only [bind, Except.bind]
  rw [hmerged]
  dsimp only
  split
  · next previous hprevious =>
    refine ⟨_, rfl, ?_⟩
    split
    · exact hwritten
    · next hmoved =>
      apply hwritten.rmtree
      intro other hother
      apply not_covers_copy hplanned hapart hprevious (hwritten.holds other hother).1
      intro hsame
      rcases hplanned.dir account previous hprevious with hown | ⟨hlegacy, -⟩
      · exact hmoved hown
      · rw [hlegacy] at hsame
        cases hsame
  · exact ⟨_, rfl, hwritten⟩

theorem Progress.run {done accounts : List String}
    {state : Service} (hplanned : Planned env service call plan)
    (hapart : Apart service call plan) (hstate : Progress env call plan done state)
    (haccounts : accounts ⊆ plan.targetAccounts) :
    ∃ written, Service.writeUpdated database call plan accounts state = (.ok (), written) ∧
      Progress env call plan (accounts.reverse ++ done) written := by
  induction accounts generalizing state done with
  | nil => exact ⟨state, rfl, hstate⟩
  | cons account rest ih =>
    obtain ⟨next, hturn, hnext⟩ :=
      @Progress.turn env service call plan account database done state hplanned hapart hstate
        (haccounts List.mem_cons_self)
    obtain ⟨written, hrun, hwritten⟩ := ih hnext (List.subset_of_cons_subset haccounts)
    refine ⟨written, ?_, ?_⟩
    · rw [Service.writeUpdated, hturn]
      exact hrun
    · rw [List.reverse_cons, List.append_assoc]
      exact hwritten

theorem exists_written (hplanned : Planned env service call plan)
    (hwritable : Writable env service call plan) (hapart : Apart service call plan) :
    ∃ written, Service.writeUpdated database call plan plan.targetAccounts
        (service.removeCopies plan) = (.ok (), written) ∧
      ∀ account ∈ plan.targetAccounts, Holds env written call plan account := by
  have hstart : Progress env call plan [] (service.removeCopies plan) := by
    unfold Service.removeCopies
    apply List.foldlRecOn (motive := Progress env call plan [])
    · exact ⟨hwritable, fun account hnone => absurd hnone List.not_mem_nil⟩
    · intro state hstate dir _
      exact hstate.rmtree fun account hnone => absurd hnone List.not_mem_nil
  obtain ⟨written, hrun, hwritten⟩ := @Progress.run env service call plan database []
    plan.targetAccounts _ hplanned hapart hstart (List.Subset.refl _)
  refine ⟨written, hrun, ?_⟩
  intro account haccount
  exact (hwritten.holds account (by simpa using haccount)).2

/-- Directories other than the copies are as before, or were given up with those of the old
layout. -/
theorem select_of_written {dir : TaskDir} (hplanned : Planned env service call plan)
    (hdir : ∀ account, dir ≠ .nested account call.taskName) :
    (Service.writeUpdated database call plan plan.targetAccounts
        (service.removeCopies plan)).2.files.select dir = service.files.select dir ∨
      (Service.writeUpdated database call plan plan.targetAccounts
          (service.removeCopies plan)).2.files.select dir = none ∧
        (service.files.select (.legacy call.taskName)).isSome := by
  have hgiven : ∀ owner found, Dict.getItem plan.existingDirs owner = some found →
      ∀ state : Service, (state.files.select dir = service.files.select dir ∨
          state.files.select dir = none ∧ (service.files.select (.legacy call.taskName)).isSome) →
        (state.rmtree found).files.select dir = service.files.select dir ∨
          (state.rmtree found).files.select dir = none ∧
            (service.files.select (.legacy call.taskName)).isSome := by
    intro owner found hfound state hstate
    rw [Service.select_rmtree]
    rcases hplanned.dir owner found hfound with rfl | ⟨-, hlegacy⟩
    · rw [if_neg]
      · exact hstate
      · intro hcovers
        exact hdir owner ((Service.covers_nested _ _ _).mp hcovers)
    · split
      · exact .inr ⟨rfl, hlegacy⟩
      · exact hstate
  have hkeeps : Service.UpdateKeeps (fun state : Service =>
      state.files.select dir = service.files.select dir ∨ state.files.select dir = none ∧
          (service.files.select (.legacy call.taskName)).isSome) call plan := by
    constructor
    · intro owner _ found hfound
      exact hgiven owner found hfound
    · intro account _ config merged state _ _ hstate
      rwa [Service.select_writeConfig, if_neg (hdir account)]
    · intro owner _ found hfound _
      exact hgiven owner found hfound
  apply Service.writeUpdated_keeps _ hkeeps (List.Subset.refl _)
  · exact Service.removeCopies_keeps hkeeps (.inl rfl)
  · apply Service.bookKeeping_of_files
    intro state other hfiles hstate
    rwa [hfiles]

end

end Copies

section Plans

variable {env : Environment} {situation : Situation} {service : Service} {drawn : String}
variable {call : UpdateCall} {plan : UpdatePlan}

theorem targets_of_planUpdate (hplan : service.planUpdate env situation drawn call = .ok plan) :
    plan.targetAccounts ≠ [] := by
  unfold Service.planUpdate at hplan
  obtain ⟨_, -, hplan⟩ := bind_eq_ok.mp hplan
  obtain ⟨found, -, hplan⟩ := bind_eq_ok.mp hplan
  obtain ⟨related, -, hplan⟩ := bind_eq_ok.mp hplan
  split at hplan
  · unfold Service.planExisting at hplan
    obtain ⟨dir, -, hplan⟩ := bind_eq_ok.mp hplan
    obtain ⟨ownAccounts, -, hplan⟩ := bind_eq_ok.mp hplan
    obtain ⟨accounts, -, hplan⟩ := bind_eq_ok.mp hplan
    obtain ⟨_, -, hplan⟩ := bind_eq_ok.mp hplan
    obtain ⟨_, htargets, hplan⟩ := bind_eq_ok.mp hplan
    obtain ⟨_, -, hplan⟩ := bind_eq_ok.mp hplan
    obtain ⟨values, -, hplan⟩ := bind_eq_ok.mp hplan
    obtain ⟨_, -, hplan⟩ := bind_eq_ok.mp hplan
    obtain ⟨names, -, hplan⟩ := bind_eq_ok.mp hplan
    obtain ⟨dirs, -, hplan⟩ := bind_eq_ok.mp hplan
    cases hplan
    intro hempty
    rw [Service.atLeastOne, if_pos hempty] at htargets
    cases htargets
  · cases hplan

theorem planned_of_planUpdate (hregistered : Registered env situation)
    (htask : env.storageName call.taskName "task_name" = .ok call.taskName)
    (hallowed : MaskAllowed call)
    (hplan : service.planUpdate env situation drawn call = .ok plan) :
    Planned env service call plan := by
  obtain ⟨existing, ownAccounts, values, -, hown, haccounts, htargets, -, hvalues, hfields, -,
    ⟨names, hnames, hdirs⟩, -⟩ := Service.of_planUpdate hplan
  have hstored := isAccount_of_given (isAccount_of_normalized hown) haccounts
  constructor
  · exact htask
  · exact hallowed
  · exact hstored
  · rw [htargets]
    exact isAccount_of_expanded hregistered hstored
  · exact targets_of_planUpdate hplan
  · intro account
    exact exists_built hvalues hfields plan.groupId _
  · intro account found hfound
    exact of_iterTaskDirs (isAccount_of_normalized hnames) htask hdirs (account, found)
      (Dict.mem_of_getItem hfound)

/-- In a store whose files can be read, what is written over can be read. -/
theorem Stored.writable (hservice : Stored env service)
    (hplan : service.planUpdate env situation drawn call = .ok plan) :
    Writable env service call plan := by
  obtain ⟨existing, ownAccounts, values, -, -, -, -, -, -, -, hrelated, -, -, dir, -,
    hsourceConfig⟩ := Service.of_planUpdate hplan
  constructor
  · rw [hsourceConfig]
    cases dir with
    | none => exact ⟨[], rfl, runReadable_nil⟩
    | some dir => exact hservice.readJson_dict dir
  · intro account _
    exact hservice.lastRunFromRelated (subset_of_filterRelated hrelated) account
  · intro account _ config hconfig
    rcases hservice.readJson_nested account call.taskName with hnone | ⟨found, hfound, -, hread⟩
    · exact .inl (PyValue.dict.inj (hconfig.symm.trans hnone))
    · obtain rfl := PyValue.dict.inj (hconfig.symm.trans hfound)
      exact .inr hread

end Plans

end SignPulse.TaskConfigs
