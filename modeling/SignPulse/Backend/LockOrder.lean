import Mathlib.Data.Prod.Lex
import SignPulse.Backend.LockScopes
import SignPulse.Foundation.Links

/-!
# Scopes over several accounts

Tasks that enter scopes of `acquire_multi_account_locks` one at a time: they acquire the locks in
the order of the names, so that nobody waits in a circle, and give back what they have acquired.
-/

namespace SignPulse.AccountLocks

open Foundation

def Action.actor : Action → Option ℕ
  | .start => none
  | .spawn _ => none
  | .enterMulti task _ => some task
  | .acquire task => some task
  | .wake task => some task
  | .enter task => some task
  | .fail task => some task
  | .enterContext task _ => some task
  | .leave task => some task

/-- An action with which a task leaves a scope, before the body or at its end. -/
def Action.IsExit (action : Action) (index : ℕ) : Prop :=
  action = .fail index ∨ action = .leave index

/-- The task is in one scope over several accounts at most, and has acquired the first of its
names in their order. -/
structure Task.Flat (task : Task) : Prop where
  outside : task.entering ≠ none → task.scopes = []
  single : task.scopes = [] ∨ ∃ names before, task.scopes = [.multi names before]
  ordered : ∀ entering, task.entering = some entering → ∃ acquired remaining,
    entering = .multi acquired remaining ∧ (acquired ++ remaining).Pairwise (· < ·)

namespace System

/-- Only scopes over several accounts are entered, none inside another one. -/
def NonNested (system : System) : Action → Prop
  | .enterMulti index _ => ∀ task ∈ system.tasks[index]?, task.scopes = []
  | .enterContext .. => False
  | _ => True

instance (system : System) (action : Action) : Decidable (system.NonNested action) :=
  match action with
  | .enterMulti .. => inferInstanceAs (Decidable (∀ task ∈ _, _ = _))
  | .enterContext .. => .isFalse id
  | .start | .spawn _ | .acquire _ | .wake _ | .enter _ | .fail _ | .leave _ => .isTrue trivial

/-- A task waits for those that hold the lock that it wants, and for those that stand before it in
the queue. -/
def WaitsFor (system : System) (index other : ℕ) : Prop :=
  ∃ name, index ∈ (system.lockOf name).waiters ∧
    ((∃ task, system.tasks[other]? = some task ∧ name ∈ task.locks) ∨
      other ∈ (system.lockOf name).waiters ∧
        (system.lockOf name).waiters.idxOf other < (system.lockOf name).waiters.idxOf index)

def Flat (system : System) : Prop :=
  ∀ task ∈ system.tasks, task.Flat

section Steps

variable {system next last : System} {action : Action} {actions : List Action} {index : ℕ}
variable {task new : Task} {name : String}

theorem pairwise_orderedNames (names : List String) : (orderedNames names).Pairwise (· < ·) := by
  have hsorted : (orderedNames names).Pairwise (· ≤ ·) := List.pairwise_insertionSort _ _
  exact hsorted.imp₂ (fun _ _ hle hne => lt_of_le_of_ne hle hne) (nodup_orderedNames names)

theorem Flat.change (hflat : system.Flat) (htasks : next.tasks = system.tasks.set index new)
    (hnew : new.Flat) : next.Flat := by
  intro task htask
  rw [htasks] at htask
  rcases List.mem_or_eq_of_mem_set htask with hold | rfl
  · exact hflat task hold
  · exact hnew

theorem Flat.begin (hflat : system.Flat) (held : List String) :
    ({ system with tasks := system.tasks ++ [{ held := held }] } : System).Flat := by
  intro task htask
  rcases List.mem_append.1 htask with hold | hnew
  · exact hflat task hold
  · rw [List.mem_singleton.1 hnew]
    exact ⟨fun _ => rfl, .inl rfl, nofun⟩

theorem flat_gained {acquired rest : List String} (hold : task.Flat)
    (hentering : task.entering = some (.multi acquired (name :: rest))) :
    (gained task (.multi acquired (name :: rest))).Flat := by
  have hscopes := hold.outside (by rw [hentering]; exact Option.some_ne_none _)
  refine ⟨fun _ => hscopes, .inl hscopes, fun entering hgained => ?_⟩
  cases hgained
  obtain ⟨first, others, heq, hordered⟩ := hold.ordered _ hentering
  obtain ⟨rfl, rfl⟩ := Entering.multi.inj heq
  refine ⟨_, _, rfl, ?_⟩
  rw [List.append_assoc]
  exact hordered

theorem Flat.step (hflat : system.Flat) (hnonNested : NonNested system action)
    (hmoves : Moves system action next) : next.Flat := by
  have hold {index : ℕ} {task : Task} (htask : system.tasks[index]? = some task) : task.Flat :=
    hflat task (List.mem_of_getElem? htask)
  cases hmoves with
  | start => exact hflat.begin []
  | spawn htask => exact hflat.begin _
  | @enterMulti index task names htask hidle =>
    have hscopes := hnonNested task htask
    refine hflat.change rfl ⟨fun _ => hscopes, .inl hscopes, fun entering hentering => ?_⟩
    cases hentering
    exact ⟨_, _, rfl, pairwise_orderedNames names⟩
  | @acquire index task acquired rest name htask hentering =>
    have hgained := flat_gained (hold htask) hentering
    unfold System.request
    split
    · exact hflat.change rfl hgained
    · refine hflat.change rfl ?_
      rw [← hentering]
      exact hold htask
  | @wake index task entering name rest htask hentering hremaining _ =>
    obtain ⟨acquired, remaining, rfl, -⟩ := (hold htask).ordered _ hentering
    obtain rfl : remaining = name :: rest := hremaining
    exact hflat.change rfl (flat_gained (hold htask) hentering)
  | @enter index task acquired htask hentering =>
    have hscopes := (hold htask).outside (by rw [hentering]; exact Option.some_ne_none _)
    refine hflat.change rfl ⟨fun hbusy => absurd rfl hbusy, .inr ⟨acquired, task.held, ?_⟩, nofun⟩
    rw [hscopes]
  | fail htask _ hforgotten =>
    rcases hforgotten with ⟨_, rfl⟩ | ⟨name, rest, _, rfl⟩
    · exact hflat.change rfl ⟨fun hbusy => absurd rfl hbusy, (hold htask).single, nofun⟩
    · exact hflat.change rfl ⟨fun hbusy => absurd rfl hbusy, (hold htask).single, nofun⟩
  | reenter => exact absurd hnonNested id
  | enterContext => exact absurd hnonNested id
  | @leave index task scope rest htask hidle hscopes =>
    have hnothing : rest = [] := by
      rcases (hold htask).single with hnone | ⟨names, before, hone⟩
      · rw [hnone] at hscopes
        contradiction
      · rw [hone] at hscopes
        exact (List.cons.inj hscopes).2.symm
    subst hnothing
    have houtside (held : List String) :
        ({ held := held, scopes := [], entering := task.entering } : Task).Flat :=
      ⟨fun _ => rfl, .inl rfl, by rw [hidle]; nofun⟩
    cases scope with
    | multi names before => exact hflat.change rfl (houtside _)
    | lock other => exact hflat.change rfl (houtside _)
    | reentered other => exact hflat.change rfl (houtside _)

theorem guarded_flat_run (hguarded : system.Guarded) (hflat : system.Flat)
    (hrun : StepRun System.step NonNested system actions last) : last.Guarded ∧ last.Flat := by
  refine hrun.invariant (fun system => system.Guarded ∧ system.Flat) ?_ ⟨hguarded, hflat⟩
  rintro system action next ⟨hguarded, hflat⟩ hnonNested hstep
  exact ⟨hguarded.step (moves_of_step hstep), hflat.step hnonNested (moves_of_step hstep)⟩

/-! ## Waiting -/

/-- The lock that a task waits for. -/
def wanted (system : System) (index : ℕ) : String :=
  ((system.tasks[index]?.bind Task.entering).bind (·.remaining.head?)).getD ""

/-- The wanted name, and then the place in the queue. -/
def rank (system : System) (index : ℕ) : String ×ₗ ℕᵒᵈ :=
  toLex (system.wanted index,
    OrderDual.toDual ((system.lockOf (system.wanted index)).waiters.idxOf index))

theorem Guarded.wanted_eq (hguarded : system.Guarded)
    (hwaits : index ∈ (system.lockOf name).waiters) : system.wanted index = name := by
  obtain ⟨task, entering, rest, htask, hentering, hremaining⟩ := hguarded.waiting name index hwaits
  rw [wanted, htask, Option.bind_some, hentering, Option.bind_some, hremaining]
  rfl

theorem lt_wanted (hguarded : system.Guarded) (hflat : system.Flat) {held : String}
    (htask : system.tasks[index]? = some task) (hheld : held ∈ task.locks)
    (hwaits : index ∈ (system.lockOf name).waiters) : held < name := by
  obtain ⟨entering, rest, hentering, hremaining⟩ := hguarded.entering_of_waiting htask hwaits
  have hold := hflat task (List.mem_of_getElem? htask)
  have hscopes := hold.outside (by rw [hentering]; exact Option.some_ne_none _)
  obtain ⟨acquired, remaining, rfl, hordered⟩ := hold.ordered entering hentering
  obtain rfl : remaining = name :: rest := hremaining
  rw [Task.locks, hscopes, hentering] at hheld
  exact (List.pairwise_append.1 hordered).2.2 held hheld name List.mem_cons_self

theorem rank_lt (hguarded : system.Guarded) (hflat : system.Flat) {first second third : ℕ}
    (hfirst : system.WaitsFor first second) (hsecond : system.WaitsFor second third) :
    system.rank first < system.rank second := by
  obtain ⟨name, hwaits, hreason⟩ := hfirst
  obtain ⟨other, hqueued, -⟩ := hsecond
  rw [rank, rank, hguarded.wanted_eq hwaits, hguarded.wanted_eq hqueued, Prod.Lex.toLex_lt_toLex]
  rcases hreason with ⟨task, htask, hheld⟩ | ⟨hahead, hplace⟩
  · exact .inl (lt_wanted hguarded hflat htask hheld hqueued)
  · have hsame : other = name :=
      (hguarded.wanted_eq hqueued).symm.trans (hguarded.wanted_eq hahead)
    rw [hsame]
    exact .inr ⟨rfl, hplace⟩

/-! ## Leaving -/

theorem Moves.others (hmoves : Moves system action next) {found : ℕ} {other : Task}
    (hother : system.tasks[found]? = some other) (hne : action.actor ≠ some found) :
    next.tasks[found]? = some other := by
  have happend (new : Task) : (system.tasks ++ [new])[found]? = some other := by
    obtain ⟨hlt, -⟩ := List.getElem?_eq_some_iff.1 hother
    rw [List.getElem?_append_left hlt, hother]
  have hset {index : ℕ} (new : Task) (hactor : action.actor = some index) :
      (system.tasks.set index new)[found]? = some other := by
    rw [List.getElem?_set_ne, hother]
    rintro rfl
    exact hne hactor
  cases hmoves with
  | start => exact happend _
  | spawn => exact happend _
  | enterMulti => exact hset _ rfl
  | acquire =>
    unfold System.request
    split <;> exact hset _ rfl
  | wake => exact hset _ rfl
  | enter => exact hset _ rfl
  | fail _ _ hforgotten =>
    rcases hforgotten with ⟨_, rfl⟩ | ⟨name, rest, _, rfl⟩ <;> exact hset _ rfl
  | reenter => exact hset _ rfl
  | enterContext =>
    unfold System.request
    split <;> exact hset _ rfl
  | @leave _ _ scope => cases scope <;> exact hset _ rfl

/-- A task that leaves has nothing afterwards. -/
theorem Moves.left (hmoves : Moves system action next) (hflat : system.Flat)
    (hexit : action.IsExit index) (htask : system.tasks[index]? = some task) :
    ∃ after, next.tasks = system.tasks.set index after ∧ after.scopes = [] ∧
      after.entering = none := by
  have hold := hflat task (List.mem_of_getElem? htask)
  rcases hexit with rfl | rfl
  · cases hmoves with
    | fail hfound hentering hforgotten =>
      obtain rfl := Option.some.inj (htask.symm.trans hfound)
      have hscopes := hold.outside (by rw [hentering]; exact Option.some_ne_none _)
      rcases hforgotten with ⟨_, rfl⟩ | ⟨name, rest, _, rfl⟩ <;> exact ⟨_, rfl, hscopes, rfl⟩
  · cases hmoves with
    | @leave _ _ scope rest hfound hidle hscopes =>
      obtain rfl := Option.some.inj (htask.symm.trans hfound)
      have hnothing : rest = [] := by
        rcases hold.single with hnone | ⟨names, before, hone⟩
        · rw [hnone] at hscopes
          contradiction
        · rw [hone] at hscopes
          exact (List.cons.inj hscopes).2.symm
      cases scope <;> exact ⟨_, rfl, hnothing, hidle⟩

/-- What a task has acquired is unlocked when it leaves, and nothing else is. -/
theorem locked_of_exit (hguarded : system.Guarded) (hafter : next.Guarded) (hflat : system.Flat)
    (hmoves : Moves system action next) (hexit : action.IsExit index)
    (htask : system.tasks[index]? = some task) (name : String) :
    ((next.lockOf name).locked = true ↔
      (system.lockOf name).locked = true ∧ name ∉ task.locks) := by
  obtain ⟨after, htasks, hscopes, hidle⟩ := hmoves.left hflat hexit htask
  obtain ⟨others, hcounts⟩ := exists_others htask
  obtain ⟨hbefore, hset⟩ := hcounts name
  have hnothing : after.locks = [] := by
    rw [Task.locks, hscopes, hidle]
    rfl
  have hnext := hafter.counted name
  have hsystem := hguarded.counted name
  rw [acquiredLocks, htasks, hset, hnothing, List.count_nil, Nat.zero_add] at hnext
  rw [hbefore] at hsystem
  by_cases hmem : name ∈ task.locks
  · have hpositive := List.count_pos_iff.2 hmem
    have hlocked := hguarded.locked_of_mem htask hmem
    rw [if_pos hlocked] at hsystem
    refine ⟨fun hstill => ?_, fun hboth => absurd hmem hboth.2⟩
    rw [if_pos hstill] at hnext
    omega
  · have hzero := List.count_eq_zero.2 hmem
    rw [and_iff_left hmem]
    constructor
    · intro hstill
      by_contra hfree
      rw [if_pos hstill] at hnext
      rw [if_neg hfree] at hsystem
      omega
    · intro hlocked
      by_contra hfree
      rw [if_neg hfree] at hnext
      rw [if_pos hlocked] at hsystem
      omega

/-! ## The record -/

/-- Outside its scope the task records what it recorded before. -/
def Keeps (base : List String) (task : Task) : Prop :=
  task.scopes = [] ∧ task.held = base ∨ ∃ names, task.scopes = [.multi names base]

theorem not_keeps {base : List String} {scope : Scope} {rest : List Scope}
    (hscopes : task.scopes = scope :: rest) (hother : ∀ names before, scope ≠ .multi names before) :
    ¬ Keeps base task := by
  rintro (⟨hnone, -⟩ | ⟨names, hone⟩)
  · rw [hscopes] at hnone
    contradiction
  · rw [hscopes] at hone
    exact hother names base (List.cons.inj hone).1

theorem keeps_step {base : List String} (hguarded : system.Guarded) (hflat : system.Flat)
    (hnonNested : NonNested system action) (hmoves : Moves system action next) (htask : system.tasks[index]? = some task)
    (hkeeps : Keeps base task) :
    ∃ after, next.tasks[index]? = some after ∧ Keeps base after := by
  have hold {found : ℕ} {other : Task} (hother : system.tasks[found]? = some other) : other.Flat :=
    hflat other (List.mem_of_getElem? hother)
  have happend (new : Task) :
      ∃ after, (system.tasks ++ [new])[index]? = some after ∧ Keeps base after := by
    obtain ⟨hlt, -⟩ := List.getElem?_eq_some_iff.1 htask
    exact ⟨task, by rw [List.getElem?_append_left hlt, htask], hkeeps⟩
  have hset {found : ℕ} {other new : Task} (hother : system.tasks[found]? = some other)
      (hnew : Keeps base other → Keeps base new) :
      ∃ after, (system.tasks.set found new)[index]? = some after ∧ Keeps base after := by
    by_cases heq : index = found
    · subst heq
      obtain rfl := Option.some.inj (htask.symm.trans hother)
      exact ⟨new, by rw [getElem?_set_task hother, if_pos rfl], hnew hkeeps⟩
    · exact ⟨task, by rw [getElem?_set_task hother, if_neg heq, htask], hkeeps⟩
  cases hmoves with
  | start => exact happend _
  | spawn => exact happend _
  | enterMulti hfound => exact hset hfound id
  | acquire hfound hentering =>
    unfold System.request
    split
    · exact hset hfound id
    · exact hset hfound id
  | @wake found other entering name rest hfound hentering hremaining _ =>
    obtain ⟨acquired, remaining, rfl, -⟩ := (hold hfound).ordered _ hentering
    obtain rfl : remaining = name :: rest := hremaining
    exact hset hfound id
  | @enter found other acquired hfound hentering =>
    have hscopes := (hold hfound).outside (by rw [hentering]; exact Option.some_ne_none _)
    refine hset hfound fun hother => .inr ⟨acquired, ?_⟩
    rcases hother with ⟨-, rfl⟩ | ⟨names, hone⟩
    · rw [hscopes]
    · rw [hscopes] at hone
      contradiction
  | fail hfound _ hforgotten =>
    rcases hforgotten with ⟨_, rfl⟩ | ⟨name, rest, _, rfl⟩
    · exact hset hfound id
    · exact hset hfound id
  | reenter => exact absurd hnonNested id
  | enterContext => exact absurd hnonNested id
  | @leave found other scope rest hfound hidle hscopes =>
    have hreleased := (hguarded.leave hfound hidle hscopes).1
    cases scope with
    | multi names before =>
      refine hset hfound fun hother => .inl ?_
      rcases hother with ⟨hnone, -⟩ | ⟨found, hone⟩
      · rw [hscopes] at hnone
        contradiction
      · rw [hscopes] at hone
        obtain ⟨hscope, hrest⟩ := List.cons.inj hone
        obtain ⟨-, rfl⟩ := Scope.multi.inj hscope
        exact ⟨hrest, if_pos hreleased⟩
    | lock name => exact hset hfound fun hother => absurd hother (not_keeps hscopes nofun)
    | reentered name => exact hset hfound fun hother => absurd hother (not_keeps hscopes nofun)

theorem keeps_run {base : List String} (hguarded : system.Guarded) (hflat : system.Flat)
    (hrun : StepRun System.step NonNested system actions last)
    (htask : system.tasks[index]? = some task) (hkeeps : Keeps base task) :
    ∃ after, last.tasks[index]? = some after ∧ Keeps base after := by
  have hkept : last.Guarded ∧ last.Flat ∧
      ∃ after, last.tasks[index]? = some after ∧ Keeps base after := by
    refine hrun.invariant (fun system => system.Guarded ∧ system.Flat ∧
      ∃ after, system.tasks[index]? = some after ∧ Keeps base after) ?_
      ⟨hguarded, hflat, task, htask, hkeeps⟩
    rintro system action next ⟨hguarded, hflat, task, htask, hkeeps⟩ hnonNested hstep
    have hmoves := moves_of_step hstep
    exact ⟨hguarded.step hmoves, hflat.step hnonNested hmoves,
      keeps_step hguarded hflat hnonNested hmoves htask hkeeps⟩
  exact hkept.2.2

end Steps

/-- In a run of scopes that are not nested nobody waits in a circle, a task that leaves its scope
gives back exactly what it has acquired, no lock of another task is released, and outside its
scopes a task records the same names. -/
theorem released_of_run {before actions : List Action} {system last : System}
    (hbefore : StepRun System.step NonNested {} before system)
    (hrun : StepRun System.step NonNested system actions last) :
    (∀ index, ¬ Relation.TransGen system.WaitsFor index index) ∧
      (∀ action next, NonNested system action → system.step action = some next →
        next.raised = false ∧ ∀ (index : ℕ) (task : Task), system.tasks[index]? = some task →
          (action.actor ≠ some index → next.tasks[index]? = some task ∧
            ∀ name ∈ task.locks, (next.lockOf name).locked = true) ∧
          (action.IsExit index → task.locks.Nodup ∧
            (∃ after, next.tasks[index]? = some after ∧ after.locks = []) ∧
            ∀ name, ((next.lockOf name).locked = true ↔
              (system.lockOf name).locked = true ∧ name ∉ task.locks))) ∧
      ∀ (index : ℕ) (task after : Task), system.tasks[index]? = some task → task.scopes = [] →
        last.tasks[index]? = some after → after.scopes = [] → after.held = task.held := by
  obtain ⟨hguarded, hflat⟩ := guarded_flat_run guarded_empty (fun _ => nofun) hbefore
  refine ⟨fun index => ?_, fun action next hnonNested hstep => ?_, ?_⟩
  · exact @not_transGen_self ℕ _ _ system.WaitsFor system.rank
      (fun _ _ _ => rank_lt hguarded hflat) index
  · have hmoves := moves_of_step hstep
    have hnext := hguarded.step hmoves
    refine ⟨hnext.unraised, fun index task htask => ⟨fun hne => ?_, fun hexit => ?_⟩⟩
    · have hsame := hmoves.others htask hne
      exact ⟨hsame, fun name hname => hnext.locked_of_mem hsame hname⟩
    · obtain ⟨after, htasks, hscopes, hidle⟩ := hmoves.left hflat hexit htask
      refine ⟨hguarded.nodup_locks htask, ⟨after, ?_, ?_⟩,
        locked_of_exit hguarded hnext hflat hmoves hexit htask⟩
      · rw [htasks, getElem?_set_task htask, if_pos rfl]
      · rw [Task.locks, hscopes, hidle]
        rfl
  · intro index task after htask hscopes hafter hnone
    obtain ⟨found, hfound, hkeeps⟩ :=
      keeps_run hguarded hflat hrun htask (.inl ⟨hscopes, rfl⟩)
    obtain rfl := Option.some.inj (hafter.symm.trans hfound)
    rcases hkeeps with ⟨-, hheld⟩ | ⟨names, hone⟩
    · exact hheld
    · rw [hnone] at hone
      contradiction

/-- A task enters a scope over one account and leaves it. -/
def oneScope : List Action :=
  [.start, .enterMulti 0 ["first"], .acquire 0, .enter 0]

theorem released_of_oneScope :
    ∃ next, (stateAfter System.step {} oneScope).step (.leave 0) = some next ∧
      ∀ name, ((next.lockOf name).locked = true ↔
        ((stateAfter System.step {} oneScope).lockOf name).locked = true ∧ name ∉ ["first"]) := by
  have hrun : StepRun System.step NonNested {} oneScope (stateAfter System.step {} oneScope) := by
    iterate 4 refine .act (by decide) rfl ?_
    exact .done _
  have hexit := (((released_of_run hrun (.done _)).2.1 (.leave 0) _ trivial rfl).2 0 _ rfl).2
    (.inr rfl)
  exact ⟨_, rfl, hexit.2.2⟩

end System

end SignPulse.AccountLocks
