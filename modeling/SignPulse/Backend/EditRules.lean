import SignPulse.Backend.TaskEdits
import SignPulse.Foundation.Raising

/-!
# Rules for edits

What the single writes and removals of an operation keep, the operation keeps, if it does
not depend on the records that the service keeps besides the files.
-/

namespace SignPulse.TaskConfigs

open Foundation
open FlowModels (PyError)
open ChainedRuns (Config getEntry isTrue)

abbrev Files := KeyedTable TaskDir (Option PyValue)

namespace Service

variable {env : Environment} {situation : Situation} {service : Service}

/-! ## Files -/

@[simp]
theorem files_loadTasksCache : (service.loadTasksCache env situation).files = service.files := by
  unfold loadTasksCache
  split
  · rfl
  · rfl

@[simp]
theorem files_wildcardRemoved (available : Bool) :
    (service.wildcardRemoved available).1.files = service.files := by
  cases available with
  | true => rfl
  | false => rfl

@[simp]
theorem files_recordWildcardRemoved (available : Bool) (account task : String) :
    (service.recordWildcardRemoved available account task).files = service.files := by
  unfold recordWildcardRemoved
  split
  · rfl
  · rfl

@[simp]
theorem files_clearWildcardRemoved (available : Bool) (account task : String) :
    (service.clearWildcardRemoved available account task).files = service.files := by
  simp only [clearWildcardRemoved]
  split
  · rfl
  · rfl

section

variable (dir other : TaskDir)

@[simp]
theorem select_writeConfig (config : Config) : (service.writeConfig dir config).files.select other =
      if other = dir then some (some (.dict config)) else service.files.select other :=
  service.files.select_insert dir other _

@[simp]
theorem select_rmtree : (service.rmtree dir).files.select other =
      if dir.covers other then none else service.files.select other := by
  rw [rmtree, KeyedTable.select_restrict]
  cases dir.covers other with
  | true => rfl
  | false => rfl

theorem readJson_writeConfig (config : Config) (default : PyValue) :
    (service.writeConfig dir config).readJson other default =
      if other = dir then .dict config else service.readJson other default := by
  unfold readJson
  rw [select_writeConfig]
  by_cases hsame : other = dir
  · rw [if_pos hsame, if_pos hsame]
    rfl
  · rw [if_neg hsame, if_neg hsame]

theorem readJson_rmtree (default : PyValue) : (service.rmtree dir).readJson other default =
      if dir.covers other then default else service.readJson other default := by
  unfold readJson
  rw [select_rmtree]
  by_cases hcovered : dir.covers other = true
  · rw [if_pos hcovered, if_pos hcovered]
    rfl
  · rw [if_neg hcovered, if_neg hcovered]

end

theorem readJson_of_files {other : Service} (hfiles : other.files = service.files)
    (dir : TaskDir) (default : PyValue) :
    other.readJson dir default = service.readJson dir default := by
  unfold readJson
  rw [hfiles]

theorem covers_nested (account task : String) (other : TaskDir) :
    (TaskDir.nested account task).covers other = true ↔ other = .nested account task := by
  unfold TaskDir.covers
  exact beq_iff_eq

/-! ## Records -/

/-- Changes of the records that are kept besides the files keep `Inv`. -/
structure BookKeeping (Inv : Service → Prop) : Prop where
  refresh : ∀ (state : Service) (env : Environment) (situation : Situation),
    Inv state → Inv (state.refreshTasksCache env situation)
  reload : ∀ (state : Service) (available : Bool),
    Inv state → Inv (state.wildcardRemoved available).1
  record : ∀ (state : Service) (available : Bool) (account task : String),
    Inv state → Inv (state.recordWildcardRemoved available account task)
  clear : ∀ (state : Service) (available : Bool) (account task : String),
    Inv state → Inv (state.clearWildcardRemoved available account task)

theorem BookKeeping.load {Inv : Service → Prop} (hrecords : BookKeeping Inv)
    (env : Environment) (situation : Situation) (hinv : Inv service) :
    Inv (service.loadTasksCache env situation) := by
  unfold loadTasksCache
  split
  · exact hinv
  · exact hrecords.refresh service env situation hinv

theorem BookKeeping.and {Inv Also : Service → Prop} (hinv : BookKeeping Inv)
    (halso : BookKeeping Also) : BookKeeping fun state => Inv state ∧ Also state where
  refresh := fun state env situation hboth =>
    ⟨hinv.refresh state env situation hboth.1, halso.refresh state env situation hboth.2⟩
  reload := fun state available hboth =>
    ⟨hinv.reload state available hboth.1, halso.reload state available hboth.2⟩
  record := fun state available account task hboth =>
    ⟨hinv.record state available account task hboth.1,
      halso.record state available account task hboth.2⟩
  clear := fun state available account task hboth =>
    ⟨hinv.clear state available account task hboth.1,
      halso.clear state available account task hboth.2⟩

/-- A property of the files does not depend on the other records. -/
theorem bookKeeping_of_files {Inv : Service → Prop}
    (hfiles : ∀ state other : Service, other.files = state.files → Inv state → Inv other) :
    BookKeeping Inv where
  refresh := fun state _ _ => hfiles state _ rfl
  reload := fun state available => hfiles state _ (files_wildcardRemoved available)
  record := fun state available account task =>
    hfiles state _ (files_recordWildcardRemoved available account task)
  clear := fun state available account task =>
    hfiles state _ (files_clearWildcardRemoved available account task)

/-! ## Creating -/

section Creating

variable {database : String → Bool} {drawn taskName : String} {args : CreateArgs}
variable {Inv : Service → Prop}

theorem of_planCreate {plan : CreatePlan}
    (hplan : service.planCreate env situation taskName args = .ok plan) :
    env.storageName taskName "task_name" = .ok plan.taskName ∧
      env.normalizeAccountNames (args.accountNames.getD []) (some args.accountName) =
        .ok plan.storedAccountNames ∧
      service.validateTaskChain env situation plan.storedAccountNames plan.taskName
        args.nextTaskOnSuccess = .ok () ∧
      plan.targetAccounts = expandAccountNames situation plan.storedAccountNames := by
  unfold planCreate at hplan
  obtain ⟨name, hname, hplan⟩ := bind_eq_ok.mp hplan
  obtain ⟨_, -, hplan⟩ := bind_eq_ok.mp hplan
  obtain ⟨_, -, hplan⟩ := bind_eq_ok.mp hplan
  obtain ⟨accounts, haccounts, hplan⟩ := bind_eq_ok.mp hplan
  dsimp only at hplan
  split at hplan
  · cases hplan
  obtain ⟨_, hchain, hplan⟩ := bind_eq_ok.mp hplan
  split at hplan
  · cases hplan
  obtain ⟨tags, -, hplan⟩ := bind_eq_ok.mp hplan
  cases hplan
  exact ⟨hname, haccounts, hchain, rfl⟩

theorem writeCreated_keeps {plan : CreatePlan} {groupId : String} {accounts : List String}
    (hrecords : BookKeeping Inv)
    (hwrite : ∀ account ∈ accounts, ∀ config,
      createdConfig env args plan groupId account = .ok config → ∀ state : Service,
        Inv state → Inv (state.writeConfig (.nested account plan.taskName) config))
    (hinv : Inv service) :
    Inv (writeCreated env database args plan groupId accounts service).2 := by
  induction accounts generalizing service with
  | nil => exact hinv
  | cons account rest ih =>
    unfold writeCreated
    cases hconfig : createdConfig env args plan groupId account with
    | error error => exact hinv
    | ok config =>
      apply ih (fun other hother => hwrite other (List.mem_cons_of_mem _ hother))
      apply hrecords.clear
      exact hwrite account List.mem_cons_self config hconfig service hinv

theorem createTask_keeps (hrecords : BookKeeping Inv)
    (hwrite : ∀ plan, service.planCreate env situation taskName args = .ok plan →
      ∀ account ∈ plan.targetAccounts, ∀ config,
        createdConfig env args plan (createTaskGroupId plan.targetAccounts.length drawn)
          account = .ok config → ∀ state : Service, Inv state →
            Inv (state.writeConfig (.nested account plan.taskName) config))
    (hinv : Inv service) :
    Inv (service.createTask env situation database drawn taskName args).2 := by
  unfold createTask
  cases hplan : service.planCreate env situation taskName args with
  | error error => exact hinv
  | ok plan =>
    have hwritten := @writeCreated_keeps env service database args Inv plan
      (createTaskGroupId plan.targetAccounts.length drawn) plan.targetAccounts hrecords
      (hwrite plan hplan) hinv
    dsimp only
    split
    · next hresult => simpa [hresult] using hwritten
    · next hresult =>
      apply hrecords.refresh
      simpa [hresult] using hwritten

/-- `clone_task` creates a task with the arguments of its source, or writes nothing. -/
theorem cloneTask_eq {newName : String} {accountName : Option String} :
    (service.cloneTask env situation database drawn taskName newName accountName).2 = service ∨
      (service.cloneTask env situation database drawn taskName newName accountName).2 =
        service.loadTasksCache env situation ∨
      ∃ cleaned source, env.storageName newName "new_name" = .ok cleaned ∧
        service.getTask env situation taskName accountName = .ok (some source) ∧
        service.cloneTask env situation database drawn taskName newName accountName =
          (service.loadTasksCache env situation).createTask env situation database drawn
            cleaned (cloneArgs env source accountName) := by
  unfold cloneTask
  cases hname : env.storageName newName "new_name" with
  | error error => exact .inl rfl
  | ok cleaned =>
    dsimp only
    cases hsource : service.getTask env situation taskName accountName with
    | error error => exact .inl rfl
    | ok found =>
      cases found with
      | none => exact .inl rfl
      | some source =>
        dsimp only
        split
        · exact .inr (.inl rfl)
        · exact .inr (.inl rfl)
        · split
          · exact .inr (.inl rfl)
          · exact .inr (.inr ⟨cleaned, source, rfl, rfl, rfl⟩)

end Creating

/-! ## Updating -/

section Updating

variable {database : String → Bool} {drawn : String} {call : UpdateCall}
variable {Inv : Service → Prop}

theorem of_planUpdate {plan : UpdatePlan}
    (hplan : service.planUpdate env situation drawn call = .ok plan) :
    ∃ existing ownAccounts values, service.existingTask env situation call = .ok (some existing) ∧
      env.normalizeAccountNames existing.accountNames (some existing.accountName) =
        .ok ownAccounts ∧
      givenAccounts env call ownAccounts = .ok plan.storedAccountNames ∧
      plan.targetAccounts = expandAccountNames situation plan.storedAccountNames ∧
      service.validateTaskChain env situation plan.targetAccounts call.taskName
        (some (call.args.nextTaskOnSuccess.getD existing.nextTaskOnSuccess)) = .ok () ∧
      env.resolveUpdateFieldValues existing call.args = .ok values ∧
      plan.fields = call.clearFields values ∧
      service.findRelatedTaskInfos env call.taskName call.accountName = .ok plan.related ∧
      (∃ names, env.normalizeAccountNames (expandAccountNames situation ownAccounts) = .ok names ∧
        service.iterTaskDirs env situation call.taskName names = .ok plan.existingDirs) ∧
      plan.removedAccounts =
        removedAccountsDiff (expandAccountNames situation ownAccounts) plan.targetAccounts ∧
      ∃ dir, service.resolveTaskDir env situation call.taskName call.accountName = .ok dir ∧
        plan.sourceConfig = dir.elim (.dict []) fun dir => service.readJson dir (.dict []) := by
  unfold planUpdate at hplan
  obtain ⟨_, -, hplan⟩ := bind_eq_ok.mp hplan
  obtain ⟨found, hfound, hplan⟩ := bind_eq_ok.mp hplan
  obtain ⟨related, hrelated, hplan⟩ := bind_eq_ok.mp hplan
  split at hplan
  · next existing _ _ _ =>
    unfold planExisting at hplan
    obtain ⟨dir, hdir, hplan⟩ := bind_eq_ok.mp hplan
    obtain ⟨ownAccounts, hown, hplan⟩ := bind_eq_ok.mp hplan
    obtain ⟨accounts, haccounts, hplan⟩ := bind_eq_ok.mp hplan
    obtain ⟨_, -, hplan⟩ := bind_eq_ok.mp hplan
    obtain ⟨_, -, hplan⟩ := bind_eq_ok.mp hplan
    obtain ⟨_, hchain, hplan⟩ := bind_eq_ok.mp hplan
    obtain ⟨values, hvalues, hplan⟩ := bind_eq_ok.mp hplan
    obtain ⟨_, -, hplan⟩ := bind_eq_ok.mp hplan
    obtain ⟨names, hnames, hplan⟩ := bind_eq_ok.mp hplan
    obtain ⟨dirs, hdirs, hplan⟩ := bind_eq_ok.mp hplan
    cases hplan
    exact ⟨existing, ownAccounts, values, hfound, hown, haccounts, rfl, hchain, hvalues, rfl,
      hrelated, ⟨names, hnames, hdirs⟩, rfl, dir, hdir, rfl⟩
  · cases hplan

/-- The writes and removals of `_update_task_impl` keep `Inv`. -/
structure UpdateKeeps (Inv : Service → Prop) (call : UpdateCall) (plan : UpdatePlan) :
    Prop where
  remove : ∀ account ∈ plan.removedAccounts, ∀ dir,
    Dict.getItem plan.existingDirs account = some dir → ∀ state : Service,
      Inv state → Inv (state.rmtree dir)
  write : ∀ account ∈ plan.targetAccounts, ∀ config merged, ∀ state : Service,
    buildSignTaskConfig account plan.storedAccountNames plan.groupId plan.fields
      (lastRunFromRelated plan.related account) = .ok config →
    mergedConfig call.fieldMask plan config
      (state.readJson (.nested account call.taskName) (.dict [])) = .ok merged →
    Inv state → Inv (state.writeConfig (.nested account call.taskName) merged)
  move : ∀ account ∈ plan.targetAccounts, ∀ dir, Dict.getItem plan.existingDirs account = some dir →
      dir ≠ .nested account call.taskName → ∀ state : Service, Inv state → Inv (state.rmtree dir)

theorem removeCopies_keeps {plan : UpdatePlan} (hkeeps : UpdateKeeps Inv call plan)
    (hinv : Inv service) : Inv (service.removeCopies plan) := by
  unfold removeCopies
  apply List.foldlRecOn (motive := fun state : Service => Inv state) _ _ hinv
  intro state hstate dir hdir
  obtain ⟨account, haccount, hget⟩ := List.mem_filterMap.mp hdir
  exact hkeeps.remove account haccount dir hget state hstate

theorem writeUpdatedCopy_keeps {plan : UpdatePlan} (hrecords : BookKeeping Inv)
    (hkeeps : UpdateKeeps Inv call plan)
    {account : String} (haccount : account ∈ plan.targetAccounts)
    (hinv : Inv service) :
    Inv (service.writeUpdatedCopy database call plan account).2 := by
  simp only [writeUpdatedCopy]
  split
  · exact hinv
  · next merged hmerged =>
    obtain ⟨config, hconfig, hmerged⟩ := bind_eq_ok.mp hmerged
    have hwritten := hkeeps.write account haccount config merged service hconfig hmerged hinv
    split
    · next previous hprevious =>
      split
      · exact hrecords.clear _ _ _ _ hwritten
      · next hmoved =>
        apply hkeeps.move account haccount previous hprevious hmoved
        exact hrecords.clear _ _ _ _ hwritten
    · exact hrecords.clear _ _ _ _ hwritten

theorem writeUpdated_keeps {plan : UpdatePlan} (hrecords : BookKeeping Inv)
    (hkeeps : UpdateKeeps Inv call plan)
    {accounts : List String} (haccounts : accounts ⊆ plan.targetAccounts)
    (hinv : Inv service) :
    Inv (writeUpdated database call plan accounts service).2 := by
  induction accounts generalizing service with
  | nil => exact hinv
  | cons account rest ih =>
    have hwritten := @writeUpdatedCopy_keeps service database call Inv plan hrecords hkeeps
      account (haccounts List.mem_cons_self) hinv
    unfold writeUpdated
    split
    · next hresult => simpa [hresult] using hwritten
    · next hresult =>
      apply ih (List.subset_of_cons_subset haccounts)
      simpa [hresult] using hwritten

theorem updateTask_keeps (hrecords : BookKeeping Inv)
    (hkeeps : ∀ checked, call.prepare env = .ok checked → ∀ plan,
      (service.loadTasksCache env situation).planUpdate env situation drawn checked =
        .ok plan → UpdateKeeps Inv checked plan)
    (hinv : Inv service) :
    Inv (service.updateTask env situation database drawn call).2 := by
  have hlisted : Inv (service.loadTasksCache env situation) :=
    hrecords.load env situation hinv
  unfold updateTask
  split
  · exact hinv
  · next checked hchecked =>
    dsimp only
    split
    · exact hlisted
    · unfold updateTaskImpl
      split
      · exact hlisted
      · next plan hplan =>
        have hplanned := hkeeps checked hchecked plan hplan
        have hwritten := @writeUpdated_keeps _ database checked Inv plan hrecords hplanned
          plan.targetAccounts (List.Subset.refl _)
          (@removeCopies_keeps _ checked Inv plan hplanned hlisted)
        split
        · next hresult => simpa [hresult] using hwritten
        · next hresult =>
          apply hrecords.refresh
          simpa [hresult] using hwritten

end Updating

/-! ## Deleting -/

section Deleting

variable {database : String → Bool} {jobsRemain : Bool} {taskName : String}
variable {accountName : Option String} {Inv : Service → Prop}

/-- The removals and the writes of `delete_task` keep `Inv`. -/
structure DeleteKeeps (env : Environment) (Inv : Service → Prop) (taskName : String)
    (copies : List (String × TaskDir)) : Prop where
  remove : ∀ copy ∈ copies, ∀ state : Service, Inv state → Inv (state.rmtree copy.2)
  drop : ∀ account, ∀ config stored, ∀ state : Service,
    state.readJson (.nested account taskName) = .dict config →
    wildcardNames config = some stored → realNames env stored = [] →
    Inv state → Inv (state.rmtree (.nested account taskName))
  strip : ∀ account ∉ copies.map Prod.fst, ∀ config stored, ∀ state : Service,
    state.readJson (.nested account taskName) = .dict config →
    wildcardNames config = some stored → realNames env stored ≠ [] →
    Inv state →
    Inv (state.writeConfig (.nested account taskName)
      (Dict.setItem config "account_names" (.list ((realNames env stored).map .str))))

theorem stripCopy_keeps {copies : List (String × TaskDir)} {account : String}
    (hkeeps : DeleteKeeps env Inv taskName copies) (hinv : Inv service) :
    Inv (stripCopy env taskName (copies.map Prod.fst) service account) := by
  simp only [stripCopy]
  split
  · exact hinv
  · next hother =>
    split
    · next config hconfig =>
      split
      · exact hinv
      · next stored hstored =>
        split
        · next hnone =>
          exact hkeeps.drop account config stored service hconfig hstored hnone hinv
        · next hreal =>
          exact hkeeps.strip account (fun hkept => hother (.inr hkept)) config stored
            service hconfig hstored hreal hinv
    · exact hinv

/-- The state in which `delete_task` looks for what is left. -/
def afterRemoval (service : Service) (env : Environment) (database : String → Bool)
    (taskName : String) (copies : List (String × TaskDir)) : Service :=
  (copies.foldl (removeCopy taskName database) service).stripWildcardMarker env taskName
    (copies.map Prod.fst)

theorem afterRemoval_keeps {copies : List (String × TaskDir)} (hrecords : BookKeeping Inv)
    (hkeeps : DeleteKeeps env Inv taskName copies) (hinv : Inv service) :
    Inv (service.afterRemoval env database taskName copies) := by
  unfold afterRemoval stripWildcardMarker
  apply List.foldlRecOn (motive := fun state : Service => Inv state)
  · apply List.foldlRecOn (motive := fun state : Service => Inv state) _ _ hinv
    intro state hstate copy hcopy
    unfold removeCopy
    apply hrecords.record
    exact hkeeps.remove copy hcopy state hstate
  · intro state hstate account _
    exact stripCopy_keeps hkeeps hstate

theorem deleteTask_keeps (hrecords : BookKeeping Inv)
    (hkeeps : ∀ name, env.storageName taskName "task_name" = .ok name → ∀ copies,
      (service.loadTasksCache env situation).planDelete env situation name accountName =
        .ok copies → DeleteKeeps env Inv name copies)
    (hinv : Inv service) :
    Inv (service.deleteTask env situation database jobsRemain taskName accountName).2 := by
  have hlisted : Inv (service.loadTasksCache env situation) :=
    hrecords.load env situation hinv
  unfold deleteTask
  split
  · exact hinv
  · next name hname =>
    dsimp only
    split
    · exact hlisted
    · exact hlisted
    · next copies _ hcopies =>
      have hremoved := @afterRemoval_keeps env _ database name Inv copies hrecords
        (hkeeps name hname copies hcopies) hlisted
      unfold afterRemoval at hremoved
      split
      · exact hrecords.refresh _ env situation hremoved
      · exact hremoved

end Deleting

/-! ## Expanding wildcards -/

section Expanding

variable {Inv : Service → Prop}

theorem writeWildcardCopy_keeps {removed : List Tombstone} {copy : WildcardCopy}
    (hwrite : (copy.account, copy.taskName) ∉ removed → service.configExists copy.dir = false →
      Inv (service.writeConfig copy.dir copy.config))
    (hinv : Inv service) : Inv (writeWildcardCopy removed service copy) := by
  unfold writeWildcardCopy
  split
  · exact hinv
  · next hkept =>
    split
    · exact hinv
    · next hmissing => exact hwrite hkept (Bool.eq_false_iff.mpr hmissing)

/-- What `_expand_wildcard_tasks` copies are wildcard configurations, for accounts. -/
theorem of_mem_wildcardCopies {copy : WildcardCopy}
    (hcopy : copy ∈ service.wildcardCopies situation) :
    copy.account ∈ situation.accounts ∧ ∃ owner stored,
      service.readJson (.nested owner copy.taskName) = .dict copy.base ∧
      wildcardNames copy.base = some stored := by
  unfold wildcardCopies at hcopy
  obtain ⟨⟨task, base⟩, htask, hcopy⟩ := List.mem_flatMap.mp hcopy
  obtain ⟨account, haccount, rfl⟩ := List.mem_map.mp hcopy
  refine ⟨haccount, ?_⟩
  obtain ⟨dir, -, hdir⟩ := List.mem_filterMap.mp htask
  split at hdir
  · next owner name config hconfig =>
    obtain ⟨stored, hstored, hsame⟩ := Option.map_eq_some_iff.mp hdir
    obtain ⟨rfl, rfl⟩ := Prod.mk.inj hsame
    exact ⟨owner, stored, hconfig, hstored⟩
  · cases hdir

theorem expandWildcardTasks_keeps {available : Bool} (hrecords : BookKeeping Inv)
    (hwrite : ∀ copy ∈ service.wildcardCopies situation,
      (copy.account, copy.taskName) ∉ (service.wildcardRemoved available).2 →
      ∀ state : Service, state.configExists copy.dir = false → Inv state →
        Inv (state.writeConfig copy.dir copy.config))
    (hinv : Inv service) :
    Inv (service.expandWildcardTasks env situation available) := by
  unfold expandWildcardTasks
  split
  · exact hinv
  · apply hrecords.refresh
    apply List.foldlRecOn (motive := fun state : Service => Inv state)
    · exact hrecords.reload service available hinv
    · intro state hstate copy hcopy
      exact writeWildcardCopy_keeps
        (fun hkept hmissing => hwrite copy hcopy hkept state hmissing hstate) hstate

end Expanding

end Service

end SignPulse.TaskConfigs
