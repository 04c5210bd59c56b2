import SignPulse.Backend.AccountLocks

/-!
# Who holds the account locks

Every lock that is locked is held by one task, in every run.  The names that a context records are
those of the scopes of its task as long as scopes are neither nested nor copied into children.
-/

namespace SignPulse.AccountLocks

open Foundation

section Registry

variable {locks : Locks} {name other : String} {names : List String}

theorem getAccountLock_setItem (locks : Locks) (name other : String) (lock : Lock) :
    getAccountLock (locks.setItem name lock) other =
      if other = name then lock else getAccountLock locks other := by
  unfold getAccountLock
  split
  · next heq => rw [heq, Dict.getItem_setItem_self, Option.getD_some]
  · next hne => rw [Dict.getItem_setItem_of_ne _ _ hne]

theorem releaseAll_of_locked : ∀ {names : List String} {locks : Locks}, names.Nodup →
    (∀ name ∈ names, (getAccountLock locks name).locked = true) →
    (releaseAll locks names).2 = true ∧ ∀ other, getAccountLock (releaseAll locks names).1 other =
      if other ∈ names then { getAccountLock locks other with locked := false }
      else getAccountLock locks other := by
  intro names
  induction names with
  | nil =>
    intro locks _ _
    exact ⟨rfl, fun other => (if_neg List.not_mem_nil).symm⟩
  | cons name rest ih =>
    intro locks hnodup hlocked
    obtain ⟨hfresh, hrest⟩ := List.nodup_cons.1 hnodup
    have hrelease : (getAccountLock locks name).release =
        some { getAccountLock locks name with locked := false } :=
      if_pos (hlocked name List.mem_cons_self)
    have hother (other : String) (hmem : other ∈ rest) : getAccountLock (locks.setItem name
        { getAccountLock locks name with locked := false }) other = getAccountLock locks other := by
      rw [getAccountLock_setItem]
      exact if_neg fun heq : other = name => hfresh (heq ▸ hmem)
    obtain ⟨hdone, hlocks⟩ := @ih (locks.setItem name
      { getAccountLock locks name with locked := false }) hrest fun other hmem => by
        rw [hother other hmem]
        exact hlocked other (List.mem_cons_of_mem _ hmem)
    rw [releaseAll, hrelease]
    refine ⟨hdone, fun other => (hlocks other).trans ?_⟩
    by_cases heq : other = name
    · subst heq
      rw [if_neg hfresh, if_pos List.mem_cons_self, getAccountLock_setItem, if_pos rfl]
    · rw [getAccountLock_setItem, if_neg heq]
      exact if_congr (by simp [heq]) rfl rfl

end Registry

namespace System

/-! ## One holder for every lock -/

def acquiredLocks (system : System) : List String :=
  system.tasks.flatMap Task.locks

/-- Every lock is held once if it is locked, and who waits for it is about to acquire it. -/
structure Guarded (system : System) : Prop where
  counted : ∀ name, system.acquiredLocks.count name = if (system.lockOf name).locked then 1 else 0
  waiting : ∀ name, ∀ index ∈ (system.lockOf name).waiters,
    ∃ (task : Task) (entering : Entering) (rest : List String), system.tasks[index]? = some task ∧
      task.entering = some entering ∧ entering.remaining = name :: rest
  distinct : ∀ (index : ℕ) (task : Task) (entering : Entering),
    system.tasks[index]? = some task → task.entering = some entering →
      (entering.acquired ++ entering.remaining).Nodup
  unraised : system.raised = false

theorem guarded_empty : Guarded {} where
  counted _ := rfl
  waiting _ _ := nofun
  distinct _ _ _ := nofun
  unraised := rfl

section Holders

variable {system next : System} {index found : ℕ} {task other : Task} {name : String}

theorem Guarded.nodup (hguarded : system.Guarded) : system.acquiredLocks.Nodup := by
  refine List.nodup_iff_count_le_one.2 fun name => ?_
  rw [hguarded.counted]
  split
  · exact le_rfl
  · exact Nat.zero_le 1

theorem mem_acquiredLocks (htask : system.tasks[index]? = some task) (hname : name ∈ task.locks) :
    name ∈ system.acquiredLocks :=
  List.mem_flatMap.2 ⟨task, List.mem_of_getElem? htask, hname⟩

theorem Guarded.nodup_locks (hguarded : system.Guarded)
    (htask : system.tasks[index]? = some task) : task.locks.Nodup :=
  (List.nodup_flatMap.1 hguarded.nodup).1 task (List.mem_of_getElem? htask)

theorem Guarded.locked_of_mem (hguarded : system.Guarded)
    (htask : system.tasks[index]? = some task) (hname : name ∈ task.locks) :
    (system.lockOf name).locked = true := by
  have hcount := hguarded.counted name
  have hpositive := List.count_pos_iff.2 (mem_acquiredLocks htask hname)
  by_contra hfree
  rw [if_neg hfree] at hcount
  omega

theorem Guarded.exclusive (hguarded : system.Guarded) (hne : index ≠ found)
    (htask : system.tasks[index]? = some task) (hother : system.tasks[found]? = some other)
    (hname : name ∈ task.locks) : name ∉ other.locks := by
  obtain ⟨hindex, hget⟩ := List.getElem?_eq_some_iff.1 htask
  obtain ⟨hfound, hgetOther⟩ := List.getElem?_eq_some_iff.1 hother
  have hpairwise := List.pairwise_iff_getElem.1 (List.nodup_flatMap.1 hguarded.nodup).2
  rcases Nat.lt_or_gt_of_ne hne with hlt | hgt
  · have hdisjoint := hpairwise index found hindex hfound hlt
    rw [hget, hgetOther] at hdisjoint
    exact fun hmem => hdisjoint hname hmem
  · have hdisjoint := hpairwise found index hfound hindex hgt
    rw [hget, hgetOther] at hdisjoint
    exact fun hmem => hdisjoint hmem hname

theorem getElem?_set_task (htask : system.tasks[index]? = some task) (new : Task) (found : ℕ) :
    (system.tasks.set index new)[found]? =
      if found = index then some new else system.tasks[found]? := by
  obtain ⟨hindex, -⟩ := List.getElem?_eq_some_iff.1 htask
  rw [List.getElem?_set]
  by_cases heq : found = index
  · rw [if_pos heq, if_pos heq.symm, if_pos hindex]
  · rw [if_neg heq, if_neg (Ne.symm heq)]

theorem exists_others (htask : system.tasks[index]? = some task) : ∃ others : List String, ∀ name,
      system.acquiredLocks.count name = task.locks.count name + others.count name ∧
        ∀ new : Task, ((system.tasks.set index new).flatMap Task.locks).count name =
          new.locks.count name + others.count name := by
  obtain ⟨hindex, hget⟩ := List.getElem?_eq_some_iff.1 htask
  refine ⟨(system.tasks.take index).flatMap Task.locks ++
    (system.tasks.drop (index + 1)).flatMap Task.locks, fun name => ⟨?_, fun new => ?_⟩⟩
  · have hsplit : system.tasks = system.tasks.take index ++ task ::
        system.tasks.drop (index + 1) := by
      rw [← hget, List.getElem_cons_drop, List.take_append_drop]
    rw [acquiredLocks, congrArg (List.flatMap Task.locks) hsplit, List.flatMap_append,
      List.flatMap_cons, List.count_append, List.count_append, List.count_append]
    omega
  · rw [List.set_eq_take_append_cons_drop, if_pos hindex, List.flatMap_append, List.flatMap_cons,
      List.count_append, List.count_append, List.count_append]
    omega

theorem Guarded.change {new : Task} (hguarded : system.Guarded)
    (htask : system.tasks[index]? = some task) (htasks : next.tasks = system.tasks.set index new)
    (hcount : ∀ name, new.locks.count name + (if (system.lockOf name).locked then 1 else 0) =
      task.locks.count name + if (next.lockOf name).locked then 1 else 0)
    (hothers : ∀ name, ∀ found ∈ (next.lockOf name).waiters, found ≠ index →
      found ∈ (system.lockOf name).waiters)
    (hown : ∀ name, index ∈ (next.lockOf name).waiters → ∃ entering rest,
      new.entering = some entering ∧ entering.remaining = name :: rest)
    (hdistinct : ∀ entering, new.entering = some entering →
      (entering.acquired ++ entering.remaining).Nodup)
    (hraised : next.raised = false) : next.Guarded where
  counted name := by
    obtain ⟨others, hcounts⟩ := exists_others htask
    obtain ⟨hbefore, hafter⟩ := hcounts name
    have hsystem := hguarded.counted name
    have hchange := hcount name
    rw [acquiredLocks, htasks, hafter]
    omega
  waiting name found hfound := by
    rw [htasks]
    by_cases heq : found = index
    · subst heq
      obtain ⟨entering, rest, hentering, hremaining⟩ := hown name hfound
      exact ⟨new, entering, rest, by rw [getElem?_set_task htask, if_pos rfl], hentering, hremaining⟩
    · obtain ⟨other, entering, rest, hother, hrest⟩ :=
        hguarded.waiting name found (hothers name found hfound heq)
      exact ⟨other, entering, rest, by rw [getElem?_set_task htask, if_neg heq, hother], hrest⟩
  distinct found other entering hother hentering := by
    rw [htasks, getElem?_set_task htask] at hother
    split at hother
    · cases hother
      exact hdistinct entering hentering
    · exact hguarded.distinct found other entering hother hentering
  unraised := hraised

theorem Guarded.begin (hguarded : system.Guarded) (hscopes : task.scopes = [])
    (hidle : task.entering = none) :
    ({ system with tasks := system.tasks ++ [task] } : System).Guarded where
  counted name := by
    have hnothing : task.locks = [] := by
      rw [Task.locks, hscopes, hidle]
      rfl
    rw [acquiredLocks, List.flatMap_append, List.flatMap_singleton, hnothing, List.append_nil]
    exact hguarded.counted name
  waiting name index hindex := by
    obtain ⟨other, entering, rest, hother, hrest⟩ := hguarded.waiting name index hindex
    obtain ⟨hlt, -⟩ := List.getElem?_eq_some_iff.1 hother
    exact ⟨other, entering, rest, by rw [List.getElem?_append_left hlt, hother], hrest⟩
  distinct index other entering hother hentering := by
    rcases List.mem_append.1 (List.mem_of_getElem? hother) with hold | hnew
    · obtain ⟨found, hfound⟩ := List.getElem?_of_mem hold
      exact hguarded.distinct found other entering hfound hentering
    · rw [List.mem_singleton.1 hnew, hidle] at hentering
      contradiction
  unraised := hguarded.unraised

theorem Guarded.entering_of_waiting (hguarded : system.Guarded)
    (htask : system.tasks[index]? = some task)
    (hwaits : index ∈ (system.lockOf name).waiters) :
    ∃ entering rest, task.entering = some entering ∧ entering.remaining = name :: rest := by
  obtain ⟨found, entering, rest, hfound, hentering, hremaining⟩ :=
    hguarded.waiting name index hwaits
  obtain rfl := Option.some.inj (htask.symm.trans hfound)
  exact ⟨entering, rest, hentering, hremaining⟩

theorem lockOf_setLock (system : System) (name other : String) (lock : Lock) :
    (system.setLock name lock).lockOf other = if other = name then lock else system.lockOf other :=
  getAccountLock_setItem _ _ _ _

end Holders

/-! ### Acquiring -/

section Acquiring

variable {system : System} {index : ℕ} {task : Task} {entering : Entering} {name other : String}
variable {rest : List String}

/-- The task is about to enter the scope, or begins to. -/
def Wants (task : Task) (entering : Entering) (name : String) : Prop :=
  task.entering = some entering ∨ task.entering = none ∧ entering = .context name

theorem Wants.locks (hwants : Wants task entering name) :
    task.locks = task.scopes.flatMap Scope.locks ++ entering.acquired := by
  rcases hwants with hsome | ⟨hnone, rfl⟩
  · rw [Task.locks, hsome]
    rfl
  · rw [Task.locks, hnone]
    rfl

theorem count_gained (hwants : Wants task entering name)
    (hremaining : entering.remaining = name :: rest) :
    (gained task entering).locks.count other = task.locks.count other + [name].count other := by
  rw [hwants.locks]
  cases entering with
  | multi acquired remaining =>
    obtain rfl : remaining = name :: rest := hremaining
    change (task.scopes.flatMap Scope.locks ++ (acquired ++ [name])).count other =
      (task.scopes.flatMap Scope.locks ++ acquired).count other + _
    rw [← List.append_assoc, List.count_append]
  | context found =>
    obtain rfl : found = name := (List.cons.inj hremaining).1
    change (([found] ++ task.scopes.flatMap Scope.locks) ++ []).count other =
      (task.scopes.flatMap Scope.locks ++ []).count other + _
    rw [List.append_nil, List.append_nil, List.count_append, Nat.add_comm]

theorem distinct_gained (hremaining : entering.remaining = name :: rest)
    (hdistinct : (entering.acquired ++ entering.remaining).Nodup) {left : Entering}
    (hleft : (gained task entering).entering = some left) :
    (left.acquired ++ left.remaining).Nodup := by
  cases entering with
  | multi acquired remaining =>
    obtain rfl : remaining = name :: rest := hremaining
    cases hleft
    change ((acquired ++ [name]) ++ rest).Nodup
    rw [List.append_assoc]
    exact hdistinct
  | context found => contradiction

section

variable (hguarded : system.Guarded) (htask : system.tasks[index]? = some task)
  (hwants : Wants task entering name)

include hguarded htask hwants

theorem Guarded.distinct_of_wants : (entering.acquired ++ entering.remaining).Nodup := by
  rcases hwants with hsome | ⟨-, rfl⟩
  · exact hguarded.distinct index task entering htask hsome
  · exact List.nodup_singleton name

theorem Guarded.eq_of_waiting (hremaining : entering.remaining = name :: rest)
    (hwaits : index ∈ (system.lockOf other).waiters) : other = name := by
  obtain ⟨found, more, hfound, hmore⟩ := hguarded.entering_of_waiting htask hwaits
  rcases hwants with hsome | ⟨hnone, -⟩
  · obtain rfl := Option.some.inj (hsome.symm.trans hfound)
    exact (List.cons.inj (hmore.symm.trans hremaining)).1
  · rw [hnone] at hfound
    contradiction

end

theorem Guarded.gain {lock : Lock} (hguarded : system.Guarded)
    (htask : system.tasks[index]? = some task) (hwants : Wants task entering name)
    (hremaining : entering.remaining = name :: rest)
    (hfree : (system.lockOf name).locked = false) (hlocked : lock.locked = true)
    (hwaiters : ∀ found ∈ lock.waiters, found ∈ (system.lockOf name).waiters ∧ found ≠ index) :
    ((system.setLock name lock).setTask index (gained task entering)).Guarded := by
  have hlocks (other : String) : ((system.setLock name lock).setTask index
      (gained task entering)).lockOf other = if other = name then lock else system.lockOf other :=
    lockOf_setLock system name other lock
  refine hguarded.change htask rfl (fun other => ?_) (fun other found hfound hne => ?_)
    (fun other hwaits => ?_) (fun left hleft => ?_) hguarded.unraised
  · rw [count_gained hwants hremaining, hlocks]
    by_cases heq : other = name
    · subst heq
      rw [if_pos rfl, hlocked, hfree, List.count_singleton_self]
      rfl
    · rw [if_neg heq, List.count_eq_zero.2 fun hmem => heq (List.mem_singleton.1 hmem)]
      rfl
  · rw [hlocks] at hfound
    split at hfound
    · next heq => exact heq ▸ (hwaiters found hfound).1
    · exact hfound
  · rw [hlocks] at hwaits
    split at hwaits
    · exact absurd rfl (hwaiters index hwaits).2
    · next hne => exact absurd (hguarded.eq_of_waiting htask hwants hremaining hwaits) hne
  · exact distinct_gained hremaining (hguarded.distinct_of_wants htask hwants) hleft

theorem Guarded.request (hguarded : system.Guarded) (htask : system.tasks[index]? = some task)
    (hwants : Wants task entering name) (hremaining : entering.remaining = name :: rest) :
    (system.request index task entering name).Guarded := by
  unfold System.request
  split
  · next hfree =>
    obtain ⟨hunlocked, hnobody⟩ := Bool.and_eq_true_iff.1 hfree
    refine hguarded.gain htask hwants hremaining (Bool.not_eq_true' _ ▸ hunlocked) rfl ?_
    intro found hfound
    rw [Lock.take, List.isEmpty_iff.1 hnobody] at hfound
    exact absurd hfound List.not_mem_nil
  · have hlocks (other : String) : ((system.setLock name ((system.lockOf name).join index)).setTask
        index { task with entering := some entering }).lockOf other =
          if other = name then (system.lockOf name).join index else system.lockOf other :=
      lockOf_setLock system name other _
    refine hguarded.change htask rfl (fun other => ?_) (fun other found hfound hne => ?_)
      (fun other hwaits => ?_) (fun left hleft => ?_) hguarded.unraised
    · have hlocked : (((system.setLock name ((system.lockOf name).join index)).setTask index
          { task with entering := some entering }).lockOf other).locked =
            (system.lockOf other).locked := by
        rw [hlocks]
        split
        · next heq => rw [heq]; rfl
        · rfl
      rw [hlocked, hwants.locks]
      rfl
    · rw [hlocks] at hfound
      split at hfound
      · next heq =>
        rcases List.mem_append.1 hfound with hold | hnew
        · exact heq ▸ hold
        · exact absurd (List.mem_singleton.1 hnew) hne
      · exact hfound
    · rw [hlocks] at hwaits
      split at hwaits
      · next heq => exact ⟨entering, rest, rfl, heq ▸ hremaining⟩
      · next hne => exact absurd (hguarded.eq_of_waiting htask hwants hremaining hwaits) hne
    · cases hleft
      exact hguarded.distinct_of_wants htask hwants

theorem Guarded.wake (hguarded : system.Guarded) (htask : system.tasks[index]? = some task)
    (hentering : task.entering = some entering) (hremaining : entering.remaining = name :: rest)
    (hwakes : (system.lockOf name).wakes index = true) :
    ((system.setLock name ((system.lockOf name).forget index).take).setTask index
      (gained task entering)).Guarded := by
  have hunlocked := (Bool.and_eq_true_iff.1 hwakes).1
  refine hguarded.gain htask (.inl hentering) hremaining (Bool.not_eq_true' _ ▸ hunlocked) rfl ?_
  intro found hfound
  obtain ⟨hold, hne⟩ := List.mem_filter.1 hfound
  exact ⟨hold, of_decide_eq_true hne⟩

end Acquiring

/-! ### Releasing -/

section Releasing

variable {system middle next : System} {index : ℕ} {task new : Task} {names : List String}

theorem Guarded.release (hguarded : system.Guarded) (htask : system.tasks[index]? = some task)
    (htasks : middle.tasks = system.tasks) (hraised : middle.raised = system.raised)
    (hlocked : ∀ name, (middle.lockOf name).locked = (system.lockOf name).locked)
    (hwaiters : ∀ name, ∀ found ∈ (middle.lockOf name).waiters,
      found ∈ (system.lockOf name).waiters ∧ found ≠ index)
    (hcount : ∀ name, new.locks.count name + names.count name = task.locks.count name)
    (hidle : new.entering = none) :
    (releaseAll middle.locks names).2 = true ∧
      ((middle.release names).setTask index new).Guarded := by
  have hnodup : names.Nodup := by
    refine List.nodup_iff_count_le_one.2 fun name => ?_
    have hsum := hcount name
    have hbound := List.nodup_iff_count_le_one.1 (hguarded.nodup_locks htask) name
    omega
  have hheld (name : String) (hname : name ∈ names) : name ∈ task.locks := by
    refine List.count_pos_iff.1 ?_
    have hsum := hcount name
    have hpositive := List.count_pos_iff.2 hname
    omega
  obtain ⟨hdone, hlocks⟩ := @releaseAll_of_locked names middle.locks hnodup fun name hname =>
    (hlocked name).trans (hguarded.locked_of_mem htask (hheld name hname))
  have hafter (name : String) : ((middle.release names).setTask index new).lockOf name =
      if name ∈ names then { middle.lockOf name with locked := false } else middle.lockOf name :=
    hlocks name
  have hsame (name : String) : (((middle.release names).setTask index new).lockOf name).waiters =
        (middle.lockOf name).waiters := by
    rw [hafter]
    split <;> rfl
  have hset : ((middle.release names).setTask index new).tasks = system.tasks.set index new :=
    congrArg (List.set · index new) htasks
  refine ⟨hdone, hguarded.change htask hset (fun name => ?_) (fun name found hfound _ => ?_)
    (fun name hwaits => ?_) (fun left hleft => ?_) ?_⟩
  · have hsum := hcount name
    rw [hafter]
    by_cases hname : name ∈ names
    · have hone := List.count_eq_one_of_mem hnodup hname
      rw [if_pos hname, if_pos (hguarded.locked_of_mem htask (hheld name hname))]
      change _ = _ + if false = true then 1 else 0
      rw [if_neg Bool.false_ne_true]
      omega
    · have hzero := List.count_eq_zero.2 hname
      rw [if_neg hname, hlocked]
      omega
  · rw [hsame] at hfound
    exact (hwaiters name found hfound).1
  · rw [hsame] at hwaits
    exact absurd rfl (hwaiters name index hwaits).2
  · rw [hidle] at hleft
    contradiction
  · change (middle.raised || !(releaseAll middle.locks names).2) = false
    rw [hdone, hraised, hguarded.unraised]
    rfl

/-- A task that waits for nothing changes, and holds the same locks. -/
theorem Guarded.still (hguarded : system.Guarded) (htask : system.tasks[index]? = some task)
    (hlocks : ∀ name, new.locks.count name = task.locks.count name)
    (hnowhere : ∀ entering, task.entering = some entering → entering.remaining = [])
    (hdistinct : ∀ entering, new.entering = some entering →
      (entering.acquired ++ entering.remaining).Nodup) : (system.setTask index new).Guarded := by
  refine hguarded.change htask rfl (fun name => congrArg (· + _) (hlocks name))
    (fun name found hfound _ => hfound) (fun name hwaits => ?_) hdistinct hguarded.unraised
  obtain ⟨entering, rest, hentering, hremaining⟩ := hguarded.entering_of_waiting htask hwaits
  rw [hnowhere entering hentering] at hremaining
  contradiction

/-- Before its body begins a scope gives everything back. -/
theorem Guarded.fail {entering : Entering} {forgotten : System} (hguarded : system.Guarded)
    (htask : system.tasks[index]? = some task) (hentering : task.entering = some entering)
    (hforgotten : entering.remaining = [] ∧ forgotten = system ∨
      ∃ name rest, entering.remaining = name :: rest ∧
        forgotten = system.setLock name ((system.lockOf name).forget index)) :
    ((forgotten.release entering.acquired.reverse).setTask index
      { task with entering := none }).Guarded := by
  have hlocks : task.locks = task.scopes.flatMap Scope.locks ++ entering.acquired := by
    rw [Task.locks, hentering]
    rfl
  have hcount (name : String) : ({ task with entering := none } : Task).locks.count name +
      entering.acquired.reverse.count name = task.locks.count name := by
    change (task.scopes.flatMap Scope.locks ++ []).count name + _ = _
    rw [hlocks, List.append_nil, List.count_reverse, List.count_append]
  rcases hforgotten with ⟨hnothing, rfl⟩ | ⟨name, rest, hremaining, rfl⟩
  · refine (hguarded.release htask rfl rfl (fun _ => rfl) (fun name found hfound => ?_) hcount
      rfl).2
    refine ⟨hfound, ?_⟩
    rintro rfl
    obtain ⟨other, rest, hother, hremaining⟩ := hguarded.entering_of_waiting htask hfound
    obtain rfl := Option.some.inj (hentering.symm.trans hother)
    rw [hnothing] at hremaining
    contradiction
  · have hlocked (other : String) :
        ((system.setLock name ((system.lockOf name).forget index)).lockOf other).locked =
          (system.lockOf other).locked := by
      rw [lockOf_setLock]
      split
      · next heq => rw [heq]; rfl
      · rfl
    have hwaiters (other : String) (found : ℕ) (hfound : found ∈ ((system.setLock name
        ((system.lockOf name).forget index)).lockOf other).waiters) :
        found ∈ (system.lockOf other).waiters ∧ found ≠ index := by
      rw [lockOf_setLock] at hfound
      split at hfound
      · next heq =>
        obtain ⟨hold, hne⟩ := List.mem_filter.1 hfound
        exact ⟨heq ▸ hold, of_decide_eq_true hne⟩
      · next hne =>
        refine ⟨hfound, ?_⟩
        rintro rfl
        exact hne (hguarded.eq_of_waiting htask (.inl hentering) hremaining hfound)
    exact (@Guarded.release system (system.setLock name ((system.lockOf name).forget index)) index
      task _ _ hguarded htask rfl rfl hlocked hwaiters hcount rfl).2

/-- At the end of its body a scope gives back what it has acquired. -/
theorem Guarded.leave {scope : Scope} {rest : List Scope} (hguarded : system.Guarded)
    (htask : system.tasks[index]? = some task) (hidle : task.entering = none)
    (hscopes : task.scopes = scope :: rest) :
    (releaseAll system.locks scope.locks.reverse).2 = true ∧
      (system.leave index task rest scope).Guarded := by
  have hlocks : task.locks = scope.locks ++ rest.flatMap Scope.locks := by
    rw [Task.locks, hidle, hscopes, List.flatMap_cons]
    exact List.append_nil _
  have hcount (held : List String) (name : String) :
      ({ held := held, scopes := rest, entering := task.entering } : Task).locks.count name +
        scope.locks.reverse.count name = task.locks.count name := by
    have hnew : ({ held := held, scopes := rest, entering := task.entering } : Task).locks =
        rest.flatMap Scope.locks := by
      rw [Task.locks, hidle]
      exact List.append_nil _
    rw [hlocks, hnew, List.count_reverse, List.count_append, Nat.add_comm]
  have hunqueued (name : String) (found : ℕ) (hfound : found ∈ (system.lockOf name).waiters) :
      found ∈ (system.lockOf name).waiters ∧ found ≠ index := by
    refine ⟨hfound, ?_⟩
    rintro rfl
    obtain ⟨entering, _, hentering, -⟩ := hguarded.entering_of_waiting htask hfound
    rw [hidle] at hentering
    contradiction
  have hreleased (held : List String) := hguarded.release htask rfl rfl (fun _ => rfl) hunqueued
    (hcount held) hidle
  refine ⟨(hreleased []).1, ?_⟩
  cases scope with
  | multi names before => exact (hreleased _).2
  | lock name => exact (hreleased task.held).2
  | reentered name =>
    exact hguarded.still htask (hcount task.held) (by rw [hidle]; nofun) (by rw [hidle]; nofun)

theorem Guarded.step {action : Action} (hguarded : system.Guarded)
    (hmoves : Moves system action next) : next.Guarded := by
  cases hmoves with
  | start => exact hguarded.begin rfl rfl
  | spawn htask => exact hguarded.begin rfl rfl
  | @enterMulti index task names htask hidle =>
    refine hguarded.still htask (fun name => ?_) (by rw [hidle]; nofun) fun entering hentering => ?_
    · rw [Task.locks, Task.locks, hidle]
      rfl
    · cases hentering
      exact nodup_orderedNames names
  | acquire htask hentering => exact hguarded.request htask (.inl hentering) rfl
  | wake htask hentering hremaining hwakes =>
    exact hguarded.wake htask hentering hremaining hwakes
  | @enter index task acquired htask hentering =>
    refine hguarded.still htask (fun name => ?_) (fun entering hsame => ?_) nofun
    · rw [Task.locks, Task.locks, hentering, List.flatMap_cons]
      change ((acquired ++ task.scopes.flatMap Scope.locks) ++ []).count name =
        (task.scopes.flatMap Scope.locks ++ acquired).count name
      rw [List.append_nil, List.count_append, List.count_append, Nat.add_comm]
    · obtain rfl := Option.some.inj (hentering.symm.trans hsame)
      rfl
  | fail htask hentering hforgotten => exact hguarded.fail htask hentering hforgotten
  | reenter htask hidle _ =>
    exact hguarded.still htask (fun _ => rfl) (by rw [hidle]; nofun) (by rw [hidle]; nofun)
  | enterContext htask hidle _ => exact hguarded.request htask (.inr ⟨hidle, rfl⟩) rfl
  | leave htask hidle hscopes => exact (hguarded.leave htask hidle hscopes).2

end Releasing

end System

end SignPulse.AccountLocks
