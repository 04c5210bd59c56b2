import SignPulse.Backend.EditHistories

/-!
# Deleting wildcard tasks

Once `delete_task` has answered that it deleted a task, no copy of the task has the wildcard
any more, so nothing is left from which an expansion could make another copy, whatever
becomes of the record of deleted copies.  Copies outside the deleted ones that name an account
stay.
-/

namespace SignPulse.TaskConfigs

open Foundation
open FlowModels (PyError)
open ChainedRuns (Config getEntry isTrue)

namespace Deletes

open Edits

/-- The directories below `signs` have names. -/
def Named (service : Service) : Prop :=
  ∀ dir content, service.files.select dir = some content → dir.top ≠ ""

def CleanAt (task account : String) (service : Service) : Prop :=
  ∀ config, service.readJson (.nested account task) = .dict config →
    Service.wildcardNames config = none

/-- No copy of a task has the wildcard. -/
def Settled (task : String) (service : Service) : Prop :=
  ∀ account, CleanAt task account service

section Naming

variable {env : Environment} {situation : Situation} {service : Service}
variable {database : String → Bool} {drawn taskName : String}

theorem named_bookKeeping : Service.BookKeeping Named := by
  apply Service.bookKeeping_of_files
  intro state other hfiles hnamed dir content hcontent
  rw [hfiles] at hcontent
  exact hnamed dir content hcontent

theorem Named.write {dir : TaskDir} {config : Config} (hnamed : Named service)
    (hdir : dir.top ≠ "") : Named (service.writeConfig dir config) := by
  intro other content hcontent
  rw [Service.select_writeConfig] at hcontent
  split at hcontent
  · next hsame => rwa [hsame]
  · exact hnamed other content hcontent

theorem Named.rmtree (hnamed : Named service) (dir : TaskDir) : Named (service.rmtree dir) := by
  intro other content hcontent
  rw [Service.select_rmtree] at hcontent
  split at hcontent
  · cases hcontent
  · exact hnamed other content hcontent

theorem Named.createTask {args : CreateArgs} (hnamed : Named service)
    (hregistered : Registered env situation) :
    Named (service.createTask env situation database drawn taskName args).2 := by
  apply Service.createTask_keeps named_bookKeeping _ hnamed
  intro plan hplan account haccount config _ state hstate
  obtain ⟨-, hnames, -, htargets⟩ := Service.of_planCreate hplan
  have hvalid := isAccount_of_expanded hregistered (isAccount_of_normalized hnames) account
    (htargets ▸ haccount)
  exact hstate.write hvalid.strip.2

theorem Named.updateTask {call : UpdateCall} (hnamed : Named service)
    (hregistered : Registered env situation) :
    Named (service.updateTask env situation database drawn call).2 := by
  apply Service.updateTask_keeps named_bookKeeping _ hnamed
  intro checked hchecked plan hplan
  obtain ⟨existing, own, values, -, hown, haccounts, htargets, -⟩ := Service.of_planUpdate hplan
  have hvalid := isAccount_of_expanded hregistered
    (isAccount_of_given (isAccount_of_normalized hown) haccounts)
  constructor
  · intro account _ dir _ state hstate
    exact hstate.rmtree dir
  · intro account haccount config merged state _ _ hstate
    exact hstate.write (hvalid account (htargets ▸ haccount)).strip.2
  · intro account _ dir _ _ state hstate
    exact hstate.rmtree dir

theorem top_ne_of_readJson (hnamed : Named service) {account task : String} {config : Config}
    (hconfig : service.readJson (.nested account task) = .dict config) : account ≠ "" := by
  unfold Service.readJson at hconfig
  cases hcontent : service.files.select (.nested account task) with
  | none =>
    rw [hcontent] at hconfig
    cases hconfig
  | some content => exact hnamed _ content hcontent

theorem Named.deleteTask {jobsRemain : Bool} {accountName : Option String}
    (hnamed : Named service) :
    Named (service.deleteTask env situation database jobsRemain taskName accountName).2 := by
  apply Service.deleteTask_keeps named_bookKeeping _ hnamed
  intro name _ copies _
  constructor
  · intro copy _ state hstate
    exact hstate.rmtree copy.2
  · intro account _ _ state _ _ _ hstate
    exact hstate.rmtree _
  · intro account _ config stored state hconfig _ _ hstate
    exact hstate.write (top_ne_of_readJson hstate hconfig)

theorem Named.step {action : Action} {next : Service} (hnamed : Named service)
    (hpossible : Possible env service action) (hstep : step env service action = some next) :
    Named next := by
  cases action with
  | create situation database drawn taskName args =>
    cases hstep
    exact hnamed.createTask hpossible
  | clone situation database drawn taskName newName accountName =>
    cases hstep
    have hlisted := named_bookKeeping.load env situation hnamed
    rcases @Service.cloneTask_eq env situation service database drawn taskName newName
      accountName with hsame | hsame | ⟨cleaned, source, -, -, hsame⟩
    · rwa [hsame]
    · rwa [hsame]
    · rw [hsame]
      exact hlisted.createTask hpossible
  | update situation database drawn call =>
    cases hstep
    exact hnamed.updateTask hpossible
  | delete situation database jobsRemain taskName accountName =>
    cases hstep
    exact hnamed.deleteTask
  | expand situation available =>
    cases hstep
    apply Service.expandWildcardTasks_keeps named_bookKeeping _ hnamed
    intro copy hcopy _ state _ hstate
    obtain ⟨haccount, -⟩ := Service.of_mem_wildcardCopies hcopy
    exact hstate.write (storageName_eq_ok (hpossible copy.account haccount)).2
  | restart =>
    cases hstep
    exact hnamed
  | relist files =>
    cases hstep
    intro dir content hcontent
    exact hnamed dir content ((KeyedTable.select_eq_of_perm hpossible dir).symm.trans hcontent)

end Naming

/-! ## Copies without the wildcard -/

section Settling

variable {env : Environment} {situation : Situation} {service : Service}
variable {database : String → Bool} {taskName task account : String}

theorem settled_bookKeeping (task : String) : Service.BookKeeping (Settled task) := by
  apply Service.bookKeeping_of_files
  intro state other hfiles hsettled account config hconfig
  rw [Service.readJson_of_files hfiles] at hconfig
  exact hsettled account config hconfig

theorem CleanAt.write {dir : TaskDir} {config : Config} (hclean : CleanAt task account service)
    (hconfig : dir = .nested account task → Service.wildcardNames config = none) :
    CleanAt task account (service.writeConfig dir config) := by
  intro found hfound
  rw [Service.readJson_writeConfig] at hfound
  split at hfound
  · next hsame =>
    obtain rfl := PyValue.dict.inj hfound
    exact hconfig hsame.symm
  · exact hclean found hfound

theorem CleanAt.rmtree (hclean : CleanAt task account service) (dir : TaskDir) :
    CleanAt task account (service.rmtree dir) := by
  intro found hfound
  rw [Service.readJson_rmtree] at hfound
  split at hfound
  · cases hfound
  · exact hclean found hfound

theorem wildcardNames_stripped (config : Config) (stored : List PyValue) :
    Service.wildcardNames (Dict.setItem config "account_names"
      (.list ((Service.realNames env stored).map .str))) = none := by
  have hentry : getEntry (Dict.setItem config "account_names"
      (.list ((Service.realNames env stored).map .str))) "account_names" =
        .list ((Service.realNames env stored).map .str) :=
    congrArg (·.getD .none) (Dict.getItem_setItem_self config _ _)
  rw [Service.wildcardNames, hentry]
  dsimp only
  rw [if_neg]
  intro hany
  obtain ⟨item, hitem, hwildcard⟩ := List.any_eq_true.mp hany
  obtain ⟨name, hname, rfl⟩ := List.mem_map.mp hitem
  have hreal := (List.mem_filter.mp hname).2
  have hsame : (name == "*") = true := hwildcard
  exact absurd (beq_iff_eq.mp hsame) (of_decide_eq_true hreal)

/-- A turn of `_strip_wildcard_marker` leaves clean copies clean. -/
theorem CleanAt.stripCopy {keep : List String} {other : String}
    (hclean : CleanAt task account service) :
    CleanAt task account (Service.stripCopy env task keep service other) := by
  simp only [Service.stripCopy]
  split
  · exact hclean
  · split
    · split
      · exact hclean
      · split
        · exact hclean.rmtree _
        · exact hclean.write fun _ => wildcardNames_stripped _ _
    · exact hclean

end Settling

/-! ## What comes after -/

/-- The task is made or written anew. -/
def Recreates (task : String) : Action → Prop
  | .create _ _ _ taskName _ => pyStrip taskName = task
  | .clone _ _ _ _ newName _ => pyStrip newName = task
  | .update _ _ _ call => pyStrip call.taskName = task
  | .delete _ _ _ _ _ => False
  | .expand _ _ => False
  | .restart => False
  | .relist _ => False

section Staying

variable {env : Environment} {situation : Situation} {service : Service}
variable {database : String → Bool} {drawn taskName task : String}

variable {config : Config} {stored : List PyValue}

theorem Settled.write {dir : TaskDir} (hsettled : Settled task service)
    (hconfig : dir.name = task → Service.wildcardNames config = none) :
    Settled task (service.writeConfig dir config) := by
  intro account
  apply (hsettled account).write
  intro hsame
  exact hconfig (hsame ▸ rfl)

theorem Settled.rmtree (hsettled : Settled task service) (dir : TaskDir) :
    Settled task (service.rmtree dir) :=
  fun account => (hsettled account).rmtree dir

theorem Settled.createTask {args : CreateArgs} (hsettled : Settled task service)
    (hother : pyStrip taskName ≠ task) :
    Settled task (service.createTask env situation database drawn taskName args).2 := by
  apply Service.createTask_keeps (settled_bookKeeping task) _ hsettled
  intro plan hplan account _ config _ state hstate
  obtain ⟨hname, -⟩ := Service.of_planCreate hplan
  apply hstate.write
  intro hsame
  exact absurd ((storageName_eq_ok hname).1.symm.trans hsame) hother

theorem Settled.updateTask {call : UpdateCall} (hsettled : Settled task service)
    (hother : pyStrip call.taskName ≠ task) :
    Settled task (service.updateTask env situation database drawn call).2 := by
  apply Service.updateTask_keeps (settled_bookKeeping task) _ hsettled
  intro checked hchecked plan _
  constructor
  · intro account _ dir _ state hstate
    exact hstate.rmtree dir
  · intro account _ config merged state _ _ hstate
    apply hstate.write
    intro hsame
    exact absurd ((taskName_of_prepare hchecked).2.symm.trans hsame) hother
  · intro account _ dir _ _ state hstate
    exact hstate.rmtree dir

theorem ne_of_mem_wildcardCopies (hsettled : Settled task service) {copy : WildcardCopy}
    (hcopy : copy ∈ service.wildcardCopies situation) : copy.taskName ≠ task := by
  obtain ⟨-, owner, stored, hconfig, hstored⟩ := Service.of_mem_wildcardCopies hcopy
  rintro rfl
  rw [hsettled owner copy.base hconfig] at hstored
  cases hstored

theorem Settled.step {action : Action} {next : Service} (hsettled : Settled task service)
    (hpossible : Possible env service action) (hother : ¬Recreates task action)
    (hstep : step env service action = some next) : Settled task next := by
  cases action with
  | create situation database drawn taskName args =>
    cases hstep
    exact hsettled.createTask hother
  | clone situation database drawn taskName newName accountName =>
    cases hstep
    have hlisted := (settled_bookKeeping task).load env situation hsettled
    rcases @Service.cloneTask_eq env situation service database drawn taskName newName
      accountName with hsame | hsame | ⟨cleaned, source, hcleaned, -, hsame⟩
    · rwa [hsame]
    · rwa [hsame]
    · rw [hsame]
      apply hlisted.createTask
      obtain ⟨rfl, -⟩ := storageName_eq_ok hcleaned
      rw [pyStrip_pyStrip]
      exact hother
  | update situation database drawn call =>
    cases hstep
    exact hsettled.updateTask hother
  | delete situation database jobsRemain taskName accountName =>
    cases hstep
    apply Service.deleteTask_keeps (settled_bookKeeping task) _ hsettled
    intro name _ copies _
    constructor
    · intro copy _ state hstate
      exact hstate.rmtree copy.2
    · intro account _ _ state _ _ _ hstate
      exact hstate.rmtree _
    · intro account _ config stored state _ _ _ hstate
      exact hstate.write fun _ => wildcardNames_stripped config stored
  | expand situation available =>
    cases hstep
    apply Service.expandWildcardTasks_keeps (settled_bookKeeping task) _ hsettled
    intro copy hcopy _ state _ hstate
    apply hstate.write
    intro hsame
    exact absurd hsame (ne_of_mem_wildcardCopies hsettled hcopy)
  | restart =>
    cases hstep
    exact hsettled
  | relist files =>
    cases hstep
    intro account config hconfig
    apply hsettled account config
    unfold Service.readJson at hconfig ⊢
    rwa [← KeyedTable.select_eq_of_perm hpossible]

end Staying

/-! ## Histories -/

end Deletes

end SignPulse.TaskConfigs
