import SignPulse.Backend.LockScopes

/-!
# The names that a context records as held

`account_lock_held_by_current_task` looks at a context variable, which an inner scope overwrites
and a child task copies.
-/

namespace SignPulse.AccountLocks

open Foundation

/-- What the context records is what the scopes would have recorded one after another, none of
them over another one. -/
def Agrees : List Scope → List String → Prop
  | [], held => held = []
  | .multi names before :: rest, held => held = names ∧ before = [] ∧ Agrees rest []
  | .lock _ :: rest, held => Agrees rest held
  | .reentered name :: rest, held => name ∈ held ∧ Agrees rest held

/-- The task is in a scope of `acquire_multi_account_locks` over the account. -/
def Task.InScope (task : Task) (name : String) : Prop :=
  ∃ names before, Scope.multi names before ∈ task.scopes ∧ name ∈ names

/-- The task runs inside a scope that relies on the lock of the account. -/
def Task.InBody (task : Task) (name : String) : Prop :=
  ∃ scope ∈ task.scopes, name ∈ scope.accounts

/-- The record of a task agrees with its scopes, and it is about to acquire no lock that one of
them holds. -/
structure Task.Recorded (task : Task) : Prop where
  agrees : Agrees task.scopes task.held
  apart : ∀ entering, task.entering = some entering →
    ∀ name ∈ entering.acquired ++ entering.remaining, name ∉ task.scopes.flatMap Scope.locks

section Records

variable {task : Task} {scopes : List Scope} {held : List String} {name : String}

theorem Agrees.mem_iff (hagrees : Agrees scopes held) :
    name ∈ held ↔ ∃ names before, Scope.multi names before ∈ scopes ∧ name ∈ names := by
  induction scopes generalizing held with
  | nil =>
    rw [show held = [] from hagrees]
    exact ⟨nofun, fun ⟨_, _, hmem, _⟩ => absurd hmem List.not_mem_nil⟩
  | cons scope rest ih =>
    cases scope with
    | multi names before =>
      obtain ⟨rfl, rfl, hrest⟩ := hagrees
      refine ⟨fun hname => ⟨held, [], List.mem_cons_self, hname⟩, ?_⟩
      rintro ⟨names, before, hmem, hname⟩
      rcases List.mem_cons.1 hmem with heq | hmem
      · obtain ⟨rfl, rfl⟩ := Scope.multi.inj heq
        exact hname
      · exact absurd ((ih hrest).2 ⟨names, before, hmem, hname⟩) List.not_mem_nil
    | lock other =>
      refine (ih hagrees).trans (exists_congr fun names => exists_congr fun before => ?_)
      exact and_congr_left fun _ => by simp
    | reentered other =>
      refine (ih hagrees.2).trans (exists_congr fun names => exists_congr fun before => ?_)
      exact and_congr_left fun _ => by simp

theorem Agrees.mem_locks_of_accounts (hagrees : Agrees scopes held) {scope : Scope}
    (hscope : scope ∈ scopes) (hname : name ∈ scope.accounts) :
    name ∈ scopes.flatMap Scope.locks := by
  induction scopes generalizing held with
  | nil => exact absurd hscope List.not_mem_nil
  | cons first rest ih =>
    rw [List.flatMap_cons, List.mem_append]
    rcases List.mem_cons.1 hscope with rfl | hrest
    · cases scope with
      | multi names before => exact .inl hname
      | lock other => exact .inl hname
      | reentered other =>
        obtain ⟨hheld, hinner⟩ := hagrees
        obtain rfl := List.mem_singleton.1 hname
        obtain ⟨names, before, hmem, hin⟩ := hinner.mem_iff.1 hheld
        exact .inr (List.mem_flatMap.2 ⟨_, hmem, hin⟩)
    · right
      cases first with
      | multi names before => exact ih hagrees.2.2 hrest
      | lock other => exact ih hagrees hrest
      | reentered other => exact ih hagrees.2 hrest

theorem Task.Recorded.held_iff (hrecorded : task.Recorded) (name : String) :
    task.accountLockHeld name = true ↔ task.InScope name := by
  rw [Task.accountLockHeld, List.contains_iff_mem]
  exact hrecorded.agrees.mem_iff

theorem Task.Recorded.mem_locks (hrecorded : task.Recorded) (hbody : task.InBody name) :
    name ∈ task.locks := by
  obtain ⟨scope, hscope, hname⟩ := hbody
  exact List.mem_append_left _ (hrecorded.agrees.mem_locks_of_accounts hscope hname)

theorem Task.Recorded.not_mem_locks (hrecorded : task.Recorded)
    (hheld : task.accountLockHeld name = false) (hlock : Scope.lock name ∉ task.scopes) :
    name ∉ task.scopes.flatMap Scope.locks := by
  intro hmem
  obtain ⟨scope, hscope, hname⟩ := List.mem_flatMap.1 hmem
  cases scope with
  | multi names before =>
    rw [(hrecorded.held_iff name).2 ⟨names, before, hscope, hname⟩] at hheld
    contradiction
  | lock other =>
    obtain rfl := List.mem_singleton.1 hname
    exact hlock hscope
  | reentered other => exact absurd hname List.not_mem_nil

end Records

namespace System

/-- Children begin, and scopes of `acquire_multi_account_locks` are entered, while the context
records nothing.  No task calls for a lock that it has. -/
def Unnested (system : System) : Action → Prop
  | .spawn parent => ∀ task ∈ system.tasks[parent]?, task.held = []
  | .enter index => ∀ task ∈ system.tasks[index]?, task.held = []
  | .enterMulti index names => ∀ task ∈ system.tasks[index]?, ∀ name ∈ names, name ∉ task.locks
  | .enterContext index name => ∀ task ∈ system.tasks[index]?, Scope.lock name ∉ task.scopes
  | _ => True

instance (system : System) (action : Action) : Decidable (system.Unnested action) :=
  match action with
  | .spawn _ => inferInstanceAs (Decidable (∀ task ∈ _, _ = _))
  | .enter _ => inferInstanceAs (Decidable (∀ task ∈ _, _ = _))
  | .enterMulti .. => inferInstanceAs (Decidable (∀ task ∈ _, ∀ name ∈ _, name ∉ _))
  | .enterContext .. => inferInstanceAs (Decidable (∀ task ∈ _, _ ∉ _))
  | .start | .acquire _ | .wake _ | .fail _ | .leave _ => .isTrue trivial

/-- Scopes are nested over disjoint accounts. -/
def DisjointScopes (system : System) : Action → Prop
  | .enterMulti index names => ∀ task ∈ system.tasks[index]?, ∀ name ∈ names, name ∉ task.locks
  | _ => True

instance (system : System) (action : Action) : Decidable (system.DisjointScopes action) :=
  match action with
  | .enterMulti .. => inferInstanceAs (Decidable (∀ task ∈ _, ∀ name ∈ _, name ∉ _))
  | .start | .spawn _ | .acquire _ | .wake _ | .enter _ | .fail _ | .enterContext .. | .leave _ =>
    .isTrue trivial

section Steps

variable {system next : System} {action : Action} {index : ℕ}
variable {task new : Task} {name : String}

/-- The records of all tasks are right. -/
def Recorded (system : System) : Prop :=
  ∀ task ∈ system.tasks, task.Recorded

theorem Recorded.change (hrecorded : system.Recorded)
    (htasks : next.tasks = system.tasks.set index new) (hnew : new.Recorded) : next.Recorded := by
  intro task htask
  rw [htasks] at htask
  rcases List.mem_or_eq_of_mem_set htask with hold | rfl
  · exact hrecorded task hold
  · exact hnew

theorem Recorded.begin (hrecorded : system.Recorded) :
    ({ system with tasks := system.tasks ++ [{}] } : System).Recorded := by
  intro task htask
  rcases List.mem_append.1 htask with hold | hnew
  · exact hrecorded task hold
  · rw [List.mem_singleton.1 hnew]
    exact ⟨rfl, nofun⟩

theorem recorded_gained {entering : Entering} {rest : List String} (hold : task.Recorded)
    (hremaining : entering.remaining = name :: rest)
    (hapart : ∀ other ∈ entering.acquired ++ entering.remaining,
      other ∉ task.scopes.flatMap Scope.locks) : (gained task entering).Recorded := by
  cases entering with
  | multi acquired remaining =>
    obtain rfl : remaining = name :: rest := hremaining
    refine ⟨hold.agrees, fun left hleft other hother => hapart other ?_⟩
    cases hleft
    change other ∈ (acquired ++ [name]) ++ rest at hother
    rwa [List.append_assoc] at hother
  | context found => exact ⟨hold.agrees, nofun⟩

theorem Recorded.request {entering : Entering} {rest : List String}
    (hrecorded : system.Recorded) (hold : task.Recorded)
    (hremaining : entering.remaining = name :: rest)
    (hapart : ∀ other ∈ entering.acquired ++ entering.remaining,
      other ∉ task.scopes.flatMap Scope.locks) :
    (system.request index task entering name).Recorded := by
  unfold System.request
  split
  · exact hrecorded.change rfl (recorded_gained hold hremaining hapart)
  · refine hrecorded.change rfl ⟨hold.agrees, fun left hleft => ?_⟩
    cases hleft
    exact hapart

theorem Recorded.leave {scope : Scope} {rest : List Scope} (hrecorded : system.Recorded)
    (hguarded : system.Guarded) (htask : system.tasks[index]? = some task)
    (hidle : task.entering = none) (hscopes : task.scopes = scope :: rest) :
    (system.leave index task rest scope).Recorded := by
  have hagrees := (hrecorded task (List.mem_of_getElem? htask)).agrees
  rw [hscopes] at hagrees
  have hnothing {held : List String} (hrest : Agrees rest held) :
      ({ held := held, scopes := rest, entering := task.entering } : Task).Recorded :=
    ⟨hrest, by rw [hidle]; nofun⟩
  cases scope with
  | multi names before =>
    obtain ⟨-, rfl, hrest⟩ := hagrees
    have hreleased : (releaseAll system.locks names.reverse).2 = true :=
      (hguarded.leave htask hidle hscopes).1
    refine hrecorded.change rfl (hnothing ?_)
    rw [if_pos hreleased]
    exact hrest
  | lock other => exact hrecorded.change rfl (hnothing hagrees)
  | reentered other => exact hrecorded.change rfl (hnothing hagrees.2)

theorem Recorded.step (hrecorded : system.Recorded) (hguarded : system.Guarded)
    (hunnested : Unnested system action) (hmoves : Moves system action next) : next.Recorded := by
  have hold {index : ℕ} {task : Task} (htask : system.tasks[index]? = some task) : task.Recorded :=
    hrecorded task (List.mem_of_getElem? htask)
  cases hmoves with
  | start => exact hrecorded.begin
  | @spawn parent task htask =>
    rw [hunnested task htask]
    exact hrecorded.begin
  | @enterMulti index task names htask hidle =>
    refine hrecorded.change rfl ⟨(hold htask).agrees, fun left hleft other hother hmem => ?_⟩
    cases hleft
    exact hunnested task htask other (mem_orderedNames.1 hother) (List.mem_append_left _ hmem)
  | acquire htask hentering =>
    exact hrecorded.request (hold htask) rfl ((hold htask).apart _ hentering)
  | @wake index task entering name rest htask hentering hremaining _ =>
    exact hrecorded.change rfl
      (recorded_gained (hold htask) hremaining ((hold htask).apart _ hentering))
  | @enter index task acquired htask _ =>
    have hnone := hunnested task htask
    have hagrees := (hold htask).agrees
    rw [hnone] at hagrees
    exact hrecorded.change rfl ⟨⟨rfl, hnone, hagrees⟩, nofun⟩
  | fail htask _ hforgotten =>
    rcases hforgotten with ⟨_, rfl⟩ | ⟨name, rest, _, rfl⟩
    · exact hrecorded.change rfl ⟨(hold htask).agrees, nofun⟩
    · exact hrecorded.change rfl ⟨(hold htask).agrees, nofun⟩
  | reenter htask hidle hheld =>
    refine hrecorded.change rfl ⟨⟨List.contains_iff_mem.1 hheld, (hold htask).agrees⟩, ?_⟩
    rw [hidle]
    nofun
  | @enterContext index task name htask _ hheld =>
    refine hrecorded.request (hold htask) rfl fun other hother => ?_
    obtain rfl := List.mem_singleton.1 hother
    exact (hold htask).not_mem_locks hheld (hunnested task htask)
  | leave htask hidle hscopes => exact hrecorded.leave hguarded htask hidle hscopes

end Steps

/-- In a run that nests nothing, the record of every task is that of its scopes, no two tasks are
inside scopes of one account, and no task waits for a lock that it holds. -/
theorem held_of_run {actions : List Action} {last : System}
    (hrun : StepRun System.step Unnested {} actions last) :
    (∀ (index : ℕ) (task : Task), last.tasks[index]? = some task → ∀ name,
        (task.accountLockHeld name = true ↔ task.InScope name) ∧
          (index ∈ (last.lockOf name).waiters → name ∉ task.locks)) ∧
      ∀ (index found : ℕ) (task other : Task), index ≠ found → last.tasks[index]? = some task →
        last.tasks[found]? = some other → ∀ name, task.InBody name → ¬ other.InBody name := by
  obtain ⟨hguarded, hrecorded⟩ : last.Guarded ∧ last.Recorded := by
    refine hrun.invariant (fun system => system.Guarded ∧ system.Recorded) ?_ ⟨guarded_empty, nofun⟩
    rintro system action next ⟨hguarded, hrecorded⟩ hunnested hstep
    have hmoves := moves_of_step hstep
    exact ⟨hguarded.step hmoves, hrecorded.step hguarded hunnested hmoves⟩
  have hold {index : ℕ} {task : Task} (htask : last.tasks[index]? = some task) : task.Recorded :=
    hrecorded task (List.mem_of_getElem? htask)
  refine ⟨fun index task htask name => ⟨(hold htask).held_iff name, fun hwaits hmem => ?_⟩, ?_⟩
  · obtain ⟨entering, rest, hentering, hremaining⟩ := hguarded.entering_of_waiting htask hwaits
    have hdistinct := hguarded.distinct index task entering htask hentering
    have hapart := (hold htask).apart entering hentering name
    rw [hremaining] at hdistinct hapart
    have hlocks : task.locks = task.scopes.flatMap Scope.locks ++ entering.acquired := by
      rw [Task.locks, hentering]
      rfl
    rw [hlocks] at hmem
    rcases List.mem_append.1 hmem with hscope | hacquired
    · exact hapart (List.mem_append_right _ List.mem_cons_self) hscope
    · exact (List.nodup_append.1 hdistinct).2.2 name hacquired name List.mem_cons_self rfl
  · intro index found task other hne htask hother name hbody hsame
    exact hguarded.exclusive hne htask hother ((hold htask).mem_locks hbody)
      ((hold hother).mem_locks hsame)

/-- A task holds the lock of one account. -/
def holding (name : String) : List Action :=
  [.start, .enterMulti 0 [name], .acquire 0, .enter 0]

def reentering : List Action :=
  holding "first" ++ [.enterContext 0 "first"]

theorem held_of_reentering : ∃ task, (stateAfter System.step {} reentering).tasks[0]? = some task ∧
      (task.accountLockHeld "first" = true ↔ task.InScope "first") := by
  have hrun : StepRun System.step Unnested {} reentering (stateAfter System.step {} reentering) :=
    .act (by decide) rfl (.act (by decide) rfl (.act (by decide) rfl
      (.act (by decide) rfl (.act (by decide) rfl (.done _)))))
  exact ⟨_, rfl, ((held_of_run hrun).1 0 _ rfl "first").1⟩

/-- In a scope inside another one the outer account counts as free, and a task waits for its own
lock. -/
def nested : List Action :=
  holding "first" ++ [.enterMulti 0 ["second"], .acquire 0, .enter 0, .enterContext 0 "first"]

/-- A child believes that it holds the lock of its parent. -/
def inherited : List Action :=
  holding "first" ++ [.spawn 0, .enterContext 0 "first", .enterContext 1 "first"]

theorem held_of_nested :
    (¬ ∀ (actions : List Action) (last : System),
      StepRun System.step DisjointScopes {} actions last →
      ∀ (index : ℕ) (task : Task), last.tasks[index]? = some task → ∀ name,
        (task.accountLockHeld name = true ↔ task.InScope name)) ∧
    (¬ ∀ (actions : List Action) (last : System),
      StepRun System.step DisjointScopes {} actions last →
      ∀ (index : ℕ) (task : Task), last.tasks[index]? = some task → ∀ name,
        index ∈ (last.lockOf name).waiters → name ∉ task.locks) ∧
    ¬ ∀ (actions : List Action) (last : System),
      StepRun System.step DisjointScopes {} actions last →
      ∀ (index found : ℕ) (task other : Task), index ≠ found → last.tasks[index]? = some task →
        last.tasks[found]? = some other → ∀ name, task.InBody name → ¬ other.InBody name := by
  have hnested : StepRun System.step DisjointScopes {} nested
      (stateAfter System.step {} nested) := by
    iterate 8 refine .act (by decide) rfl ?_
    exact .done _
  have hinherited : StepRun System.step DisjointScopes {} inherited
      (stateAfter System.step {} inherited) := by
    iterate 7 refine .act (by decide) rfl ?_
    exact .done _
  refine ⟨fun hclaim => ?_, fun hclaim => ?_, fun hclaim => ?_⟩
  · have hheld := (hclaim nested _ hnested 0 _ rfl "first").2
      ⟨["first"], [], List.mem_cons_of_mem _ List.mem_cons_self, List.mem_cons_self⟩
    revert hheld
    decide
  · have hpatient := hclaim nested _ hnested 0 _ rfl "first" (by decide)
    revert hpatient
    decide
  · exact hclaim inherited _ hinherited 0 1 _ _ (by decide) rfl rfl "first"
      ⟨.reentered "first", List.mem_cons_self, List.mem_cons_self⟩
      ⟨.reentered "first", List.mem_cons_self, List.mem_cons_self⟩

end System

end SignPulse.AccountLocks
