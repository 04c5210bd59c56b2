import Mathlib.Data.List.Dedup
import Mathlib.Data.List.Sort
import Mathlib.Data.String.Basic
import SignPulse.Foundation.Dict
import SignPulse.Foundation.StepRun

/-!
# Account locks

`account_locks.py`: the registry of the locks, the scopes that tasks enter and leave, and the names
that the context of a task records as held.  A step is what a task does between two points at which
the event loop can switch.
-/

namespace SignPulse.AccountLocks

open Foundation

/-- `asyncio.Lock`, with the tasks that wait for it. -/
structure Lock where
  locked : Bool := false
  waiters : List ℕ := []
  deriving DecidableEq

namespace Lock

/-- It can be acquired without waiting. -/
def isFree (lock : Lock) : Bool :=
  !lock.locked && lock.waiters.isEmpty

def take (lock : Lock) : Lock :=
  { lock with locked := true }

def join (lock : Lock) (task : ℕ) : Lock :=
  { lock with waiters := lock.waiters ++ [task] }

def forget (lock : Lock) (task : ℕ) : Lock :=
  { lock with waiters := lock.waiters.filter (· ≠ task) }

/-- It has been released, and the task is the first that waits. -/
def wakes (lock : Lock) (task : ℕ) : Bool :=
  !lock.locked && lock.waiters.head? == some task

/-- `release` of a lock that is not locked raises an error. -/
def release (lock : Lock) : Option Lock :=
  if lock.locked then some { lock with locked := false } else none

end Lock

/-- The locks that are in use, by the names of their accounts: one that nobody holds or waits for
is not kept. -/
abbrev Locks := Dict String Lock

/-- `get_account_lock`. -/
def getAccountLock (locks : Locks) (name : String) : Lock :=
  (locks.getItem name).getD {}

def releaseAll : Locks → List String → Locks × Bool
  | locks, [] => (locks, true)
  | locks, name :: rest =>
    match (getAccountLock locks name).release with
    | some lock => releaseAll (locks.setItem name lock) rest
    | none => (locks, false)

/-- A scope that a task is in. -/
inductive Scope where
  /-- `acquire_multi_account_locks`, and what the context recorded before. -/
  | multi (names before : List String)
  /-- `account_lock_context` that has acquired the lock. -/
  | lock (name : String)
  /-- `account_lock_context` that found the name recorded. -/
  | reentered (name : String)
  deriving DecidableEq

namespace Scope

def locks : Scope → List String
  | multi names _ => names
  | lock name => [name]
  | reentered _ => []

def accounts : Scope → List String
  | multi names _ => names
  | lock name => [name]
  | reentered name => [name]

end Scope

/-- A scope that a task is about to enter. -/
inductive Entering where
  | multi (acquired remaining : List String)
  | context (name : String)
  deriving DecidableEq

namespace Entering

def acquired : Entering → List String
  | multi acquired _ => acquired
  | context _ => []

def remaining : Entering → List String
  | multi _ remaining => remaining
  | context name => [name]

end Entering

/-- A task: the value of `_HELD_ACCOUNT_NAMES` in its context, the scopes that it is in, the
innermost first, and the scope that it is about to enter. -/
structure Task where
  held : List String := []
  scopes : List Scope := []
  entering : Option Entering := none
  deriving DecidableEq

namespace Task

/-- `account_lock_held_by_current_task`. -/
def accountLockHeld (task : Task) (name : String) : Bool :=
  task.held.contains name

/-- The names of the locks that the task has acquired and not released. -/
def locks (task : Task) : List String :=
  task.scopes.flatMap Scope.locks ++ (task.entering.map Entering.acquired).getD []

end Task

structure System where
  locks : Locks := []
  tasks : List Task := []
  /-- A release has raised an error. -/
  raised : Bool := false

inductive Action where
  /-- A task begins with the default context. -/
  | start
  /-- A task begins with a copy of the context of another one. -/
  | spawn (parent : ℕ)
  /-- `acquire_multi_account_locks` is called. -/
  | enterMulti (task : ℕ) (names : List String)
  /-- It asks for its next lock. -/
  | acquire (task : ℕ)
  /-- A task that waits gets the lock. -/
  | wake (task : ℕ)
  /-- The body of `acquire_multi_account_locks` begins. -/
  | enter (task : ℕ)
  /-- A timeout, a cancellation or another error before the body. -/
  | fail (task : ℕ)
  /-- `account_lock_context` is called. -/
  | enterContext (task : ℕ) (name : String)
  /-- The innermost body ends. -/
  | leave (task : ℕ)

/-- `sorted(set(account_names))`. -/
def orderedNames (names : List String) : List String :=
  names.dedup.insertionSort (· ≤ ·)

theorem mem_orderedNames {names : List String} {name : String} :
    name ∈ orderedNames names ↔ name ∈ names := by
  rw [orderedNames, List.mem_insertionSort, List.mem_dedup]

theorem nodup_orderedNames (names : List String) : (orderedNames names).Nodup :=
  (List.perm_insertionSort _ _).nodup_iff.2 names.nodup_dedup

namespace System

def lockOf (system : System) (name : String) : Lock :=
  getAccountLock system.locks name

def setLock (system : System) (name : String) (lock : Lock) : System :=
  { system with locks := system.locks.setItem name lock }

def setTask (system : System) (index : ℕ) (task : Task) : System :=
  { system with tasks := system.tasks.set index task }

def release (system : System) (names : List String) : System :=
  { system with
    locks := (releaseAll system.locks names).1
    raised := system.raised || !(releaseAll system.locks names).2 }

/-- A lock that has been acquired is added to those of the scope, or its body begins. -/
def gained (task : Task) : Entering → Task
  | .multi acquired (name :: rest) =>
    { task with entering := some (.multi (acquired ++ [name]) rest) }
  | .multi acquired [] => { task with entering := some (.multi acquired []) }
  | .context name => { task with scopes := .lock name :: task.scopes, entering := none }

/-- Acquire a lock, or wait for it. -/
def request (system : System) (index : ℕ) (task : Task) (entering : Entering) (name : String) :
    System :=
  if (system.lockOf name).isFree then
    (system.setLock name (system.lockOf name).take).setTask index (gained task entering)
  else
    (system.setLock name ((system.lockOf name).join index)).setTask index
      { task with entering := some entering }

/-- The end of the innermost body. -/
def leave (system : System) (index : ℕ) (task : Task) (rest : List Scope) : Scope → System
  | .multi names before =>
    (system.release names.reverse).setTask index
      { task with
        held := if (releaseAll system.locks names.reverse).2 then before else task.held
        scopes := rest }
  | .lock name => (system.release [name]).setTask index { task with scopes := rest }
  | .reentered _ => system.setTask index { task with scopes := rest }

def step (system : System) : Action → Option System
  | .start => some { system with tasks := system.tasks ++ [{}] }
  | .spawn parent =>
    match system.tasks[parent]? with
    | some task =>
      if task.entering = none then
        some { system with tasks := system.tasks ++ [{ held := task.held }] }
      else none
    | none => none
  | .enterMulti index names =>
    match system.tasks[index]? with
    | some task =>
      if task.entering = none then
        some (system.setTask index { task with entering := some (.multi [] (orderedNames names)) })
      else none
    | none => none
  | .acquire index =>
    match system.tasks[index]? with
    | some task =>
      match task.entering with
      | some (.multi acquired (name :: rest)) =>
        if index ∈ (system.lockOf name).waiters then none
        else some (system.request index task (.multi acquired (name :: rest)) name)
      | _ => none
    | none => none
  | .wake index =>
    match system.tasks[index]? with
    | some task =>
      match task.entering with
      | some entering =>
        match entering.remaining with
        | name :: _ =>
          if (system.lockOf name).wakes index then
            some ((system.setLock name ((system.lockOf name).forget index).take).setTask
              index (gained task entering))
          else none
        | [] => none
      | none => none
    | none => none
  | .enter index =>
    match system.tasks[index]? with
    | some task =>
      match task.entering with
      | some (.multi acquired []) =>
        some (system.setTask index
          { held := acquired
            scopes := .multi acquired task.held :: task.scopes })
      | _ => none
    | none => none
  | .fail index =>
    match system.tasks[index]? with
    | some task =>
      match task.entering with
      | some entering =>
        let forgotten := match entering.remaining with
          | name :: _ => system.setLock name ((system.lockOf name).forget index)
          | [] => system
        some ((forgotten.release entering.acquired.reverse).setTask index
          { task with entering := none })
      | none => none
    | none => none
  | .enterContext index name =>
    match system.tasks[index]? with
    | some task =>
      if task.entering = none then
        if task.accountLockHeld name then
          some (system.setTask index { task with scopes := .reentered name :: task.scopes })
        else some (system.request index task (.context name) name)
      else none
    | none => none
  | .leave index =>
    match system.tasks[index]? with
    | some task =>
      match task.entering, task.scopes with
      | none, scope :: rest => some (system.leave index task rest scope)
      | _, _ => none
    | none => none

/-! ## What a step can be -/

inductive Moves (system : System) : Action → System → Prop where
  | start : Moves system .start { system with tasks := system.tasks ++ [{}] }
  | spawn {parent : ℕ} {task : Task} (htask : system.tasks[parent]? = some task) :
      Moves system (.spawn parent) { system with tasks := system.tasks ++ [{ held := task.held }] }
  | enterMulti {index : ℕ} {task : Task} {names : List String}
      (htask : system.tasks[index]? = some task) (hidle : task.entering = none) :
      Moves system (.enterMulti index names)
        (system.setTask index { task with entering := some (.multi [] (orderedNames names)) })
  | acquire {index : ℕ} {task : Task} {acquired rest : List String} {name : String}
      (htask : system.tasks[index]? = some task)
      (hentering : task.entering = some (.multi acquired (name :: rest))) :
      Moves system (.acquire index)
        (system.request index task (.multi acquired (name :: rest)) name)
  | wake {index : ℕ} {task : Task} {entering : Entering} {name : String} {rest : List String}
      (htask : system.tasks[index]? = some task) (hentering : task.entering = some entering)
      (hremaining : entering.remaining = name :: rest)
      (hwakes : (system.lockOf name).wakes index = true) :
      Moves system (.wake index)
        ((system.setLock name ((system.lockOf name).forget index).take).setTask index
          (gained task entering))
  | enter {index : ℕ} {task : Task} {acquired : List String}
      (htask : system.tasks[index]? = some task)
      (hentering : task.entering = some (.multi acquired [])) :
      Moves system (.enter index)
        (system.setTask index
          { held := acquired, scopes := .multi acquired task.held :: task.scopes })
  | fail {index : ℕ} {task : Task} {entering : Entering} {forgotten : System}
      (htask : system.tasks[index]? = some task) (hentering : task.entering = some entering)
      (hforgotten : entering.remaining = [] ∧ forgotten = system ∨
        ∃ name rest, entering.remaining = name :: rest ∧
          forgotten = system.setLock name ((system.lockOf name).forget index)) :
      Moves system (.fail index)
        ((forgotten.release entering.acquired.reverse).setTask index { task with entering := none })
  | reenter {index : ℕ} {task : Task} {name : String} (htask : system.tasks[index]? = some task)
      (hidle : task.entering = none) (hheld : task.accountLockHeld name = true) :
      Moves system (.enterContext index name)
        (system.setTask index { task with scopes := .reentered name :: task.scopes })
  | enterContext {index : ℕ} {task : Task} {name : String}
      (htask : system.tasks[index]? = some task) (hidle : task.entering = none)
      (hheld : task.accountLockHeld name = false) :
      Moves system (.enterContext index name) (system.request index task (.context name) name)
  | leave {index : ℕ} {task : Task} {scope : Scope} {rest : List Scope}
      (htask : system.tasks[index]? = some task) (hidle : task.entering = none)
      (hscopes : task.scopes = scope :: rest) :
      Moves system (.leave index) (system.leave index task rest scope)

theorem moves_of_step {system next : System} {action : Action}
    (hstep : system.step action = some next) : Moves system action next := by
  cases action with
  | start =>
    cases hstep
    exact .start
  | spawn parent =>
    rw [step] at hstep
    split at hstep
    · next task htask =>
      split at hstep
      · cases hstep
        exact .spawn htask
      · contradiction
    · contradiction
  | enterMulti index names =>
    rw [step] at hstep
    split at hstep
    · next task htask =>
      split at hstep
      · next hidle =>
        cases hstep
        exact .enterMulti htask hidle
      · contradiction
    · contradiction
  | acquire index =>
    rw [step] at hstep
    split at hstep
    · next task htask =>
      split at hstep
      · next acquired name rest hentering =>
        split at hstep
        · contradiction
        · cases hstep
          exact .acquire htask hentering
      · contradiction
    · contradiction
  | wake index =>
    rw [step] at hstep
    split at hstep
    · next task htask =>
      split at hstep
      · next entering hentering =>
        split at hstep
        · next name rest hremaining =>
          split at hstep
          · next hwakes =>
            cases hstep
            exact .wake htask hentering hremaining hwakes
          · contradiction
        · contradiction
      · contradiction
    · contradiction
  | enter index =>
    rw [step] at hstep
    split at hstep
    · next task htask =>
      split at hstep
      · next acquired hentering =>
        cases hstep
        exact .enter htask hentering
      · contradiction
    · contradiction
  | fail index =>
    rw [step] at hstep
    split at hstep
    · next task htask =>
      split at hstep
      · next entering hentering =>
        cases hstep
        refine .fail htask hentering ?_
        split
        · next name rest hremaining => exact .inr ⟨name, rest, hremaining, rfl⟩
        · next hremaining => exact .inl ⟨hremaining, rfl⟩
      · contradiction
    · contradiction
  | enterContext index name =>
    rw [step] at hstep
    split at hstep
    · next task htask =>
      split at hstep
      · next hidle =>
        split at hstep
        · next hheld =>
          cases hstep
          exact .reenter htask hidle hheld
        · next hheld =>
          cases hstep
          exact .enterContext htask hidle (Bool.eq_false_iff.2 hheld)
      · contradiction
    · contradiction
  | leave index =>
    rw [step] at hstep
    split at hstep
    · next task htask =>
      split at hstep
      · next scope rest hidle hscopes =>
        cases hstep
        exact .leave htask hidle hscopes
      · contradiction
    · contradiction

end System

end SignPulse.AccountLocks
