import SignPulse.Foundation.StepRun
import SignPulse.Plugin.StorageClient

/-!
# Clients that count on one key

The increments of a client are guarded by a lock of its own.  Each of them reads the key,
looks in the legacy namespaces for what it does not find, writes back what it read, unless
that is the default, and then lets the store add the amount.  Each of these calls of the
store is one step, and other clients take theirs in between.
-/

namespace SignPulse.Plugin.SharedCounter

open Foundation

/-- How far `_increment_migrating` has come. -/
inductive Phase where
  | begun
  | searching (left : List String)
  | copying (value : PyValue)
  | checked (current : PyValue)
  | adding

structure Progress where
  amount : ℤ
  default : ℤ
  phase : Phase

/-- What an increment has returned. -/
structure Commit where
  amount : ℤ
  default : ℤ
  result : ℤ
  deriving DecidableEq

/-- The table, the increments that hold their client's lock, and those that have returned, in
their order. -/
structure State where
  table : Table
  calls : Dict ℕ Progress
  commits : List Commit

inductive Event where
  | enter (client : ℕ) (amount default : ℤ)
  | advance (client : ℕ) (now : ℚ)

section Steps

/-! Many clients of one namespace, each with legacy namespaces of its own, and one key. -/

variable (space key : String) (legacies : ℕ → List String)

def moved (state : State) (client : ℕ) (table : Table) (call : Progress) (phase : Phase) : State :=
  { state with
    table := table
    calls := Dict.setItem state.calls client { call with phase := phase } }

/-- The next call of the store that an increment makes. -/
def storeCall (state : State) (client : ℕ) (now : ℚ) (call : Progress) : State :=
  match call.phase with
  | .begun =>
    let answer := PluginStore.get state.table now space key
    moved state client answer.2 call
      (answer.1.elim (.searching (legacies client)) fun value => .checked value)
  | .searching [] => moved state client state.table call (.checked (.int call.default))
  | .searching (legacy :: rest) =>
    let answer := PluginStore.get state.table now legacy key
    moved state client answer.2 call (answer.1.elim (.searching rest) fun value => .copying value)
  | .copying value =>
    moved state client (PluginStore.set state.table now space key value none) call (.checked value)
  | .checked current =>
    moved state client
      (if differs current call.default then
        PluginStore.set state.table now space key current none else state.table)
      call .adding
  | .adding =>
    let answer := PluginStore.increment state.table now space key call.amount call.default none
    { table := answer.2
      calls := Dict.popItem state.calls client
      commits := state.commits ++ [⟨call.amount, call.default, answer.1⟩] }

def step (state : State) : Event → Option State
  | .enter client amount default =>
    if Dict.hasKey state.calls client then none
    else some { state with
      calls := Dict.setItem state.calls client ⟨amount, default, .begun⟩ }
  | .advance client now =>
    (Dict.getItem state.calls client).map fun call =>
      storeCall space key legacies state client now call

/-- What a search of the key in some namespaces finds. -/
def foundIn (table : Table) (spaces : List String) : Option PyValue :=
  spaces.findSome? fun space => (Dict.getItem table (space, key)).map Row.value

/-- The increment has read a value that it is still to write. -/
def owes (table : Table) (call : Progress) : Bool :=
  match call.phase with
  | .begun => false
  | .searching left => (foundIn key table left).isSome
  | .copying _ => true
  | .checked current => differs current call.default
  | .adding => false

/-- The store adds no amount while another client has read the key and is still to write
back what it read. -/
def unhindered (state : State) : Event → Bool
  | .enter .. => true
  | .advance client _ =>
    (Dict.getItem state.calls client).all fun call =>
      match call.phase with
      | .adding => state.calls.all fun other =>
        other.1 = client || !owes key state.table other.2
      | _ => true

/-- No increment under way, no legacy namespace that is the namespace itself, and no expiry on
the key. -/
structure Started (state : State) : Prop where
  idle : state.calls = []
  unanswered : state.commits = []
  others : ∀ client, space ∉ legacies client
  permanent : ∀ found row, Dict.getItem state.table (found, key) = some row → row.expiresAt = none

/-- The number that a client finds at first. -/
def startOf (table : Table) (client : ℕ) : Option ℤ :=
  (foundIn key table (space :: legacies client)).bind numberOf

end Steps

/-- Each increment returns what the one before it returned, and its amount more. -/
def Chained : Option ℤ → List Commit → Prop
  | _, [] => True
  | start, commit :: rest =>
    commit.result = start.getD commit.default + commit.amount ∧ Chained (some commit.result) rest

def lastResult : Option ℤ → List Commit → Option ℤ
  | start, [] => start
  | _, commit :: rest => lastResult (some commit.result) rest

/-! ## The order of the increments -/

theorem lastResult_concat (start : Option ℤ) (commits : List Commit) (commit : Commit) :
    lastResult start (commits ++ [commit]) = some commit.result := by
  induction commits generalizing start with
  | nil => rfl
  | cons first rest ih => exact ih (some first.result)

theorem Chained.concat {start : Option ℤ} {commits : List Commit} {commit : Commit}
    (hchained : Chained start commits)
    (hresult : commit.result = (lastResult start commits).getD commit.default + commit.amount) :
    Chained start (commits ++ [commit]) := by
  induction commits generalizing start with
  | nil => exact ⟨hresult, trivial⟩
  | cons first rest ih => exact ⟨hchained.1, ih hchained.2 hresult⟩

theorem Chained.lastResult_eq {start : Option ℤ} {commit : Commit} {rest : List Commit}
    (hchained : Chained start (commit :: rest)) :
    lastResult start (commit :: rest) =
      some (start.getD commit.default + ((commit :: rest).map Commit.amount).sum) := by
  induction rest generalizing start commit with
  | nil =>
    rw [List.map_singleton, List.sum_singleton, ← hchained.1]
    rfl
  | cons next rest ih =>
    have hnext : lastResult start (commit :: next :: rest) =
        some (commit.result + ((next :: rest).map Commit.amount).sum) := ih hchained.2
    have hsum : ((commit :: next :: rest).map Commit.amount).sum =
        commit.amount + ((next :: rest).map Commit.amount).sum := List.sum_cons
    rw [hnext, hchained.1, hsum, add_assoc]

/-! ## Calls of the store on a key without expiry -/

theorem expired_of_permanent {row : Row} (hpermanent : row.expiresAt = none) (now : ℚ) :
    row.expired now = false := by
  rw [Row.expired, hpermanent]
  rfl

variable {table : Table} {space key : String}

variable (hpermanent : ∀ row, Dict.getItem table (space, key) = some row → row.expiresAt = none)

include hpermanent

theorem get_permanent (now : ℚ) : PluginStore.get table now space key =
      ((Dict.getItem table (space, key)).map Row.value, table) := by
  unfold PluginStore.get
  cases hrow : Dict.getItem table (space, key) with
  | none => rfl
  | some row =>
    dsimp only
    rw [expired_of_permanent (hpermanent row hrow)]
    rfl

theorem standing_permanent
    (now : ℚ) : standing table now space key = Dict.getItem table (space, key) := by
  unfold standing
  cases hrow : Dict.getItem table (space, key) with
  | none => rfl
  | some row => rw [Option.filter_some, expired_of_permanent (hpermanent row hrow)]; rfl

theorem increment_permanent (now : ℚ) (amount default : ℤ) :
    PluginStore.increment table now space key amount default none =
      ((((Dict.getItem table (space, key)).bind fun row => numberOf row.value).getD default + amount),
        Dict.setItem table (space, key)
          ⟨.int (((Dict.getItem table (space, key)).bind fun row => numberOf row.value).getD default
            + amount), none⟩) := by
  have hexpiry : (Dict.getItem table (space, key)).bind Row.expiresAt = none :=
    Option.bind_eq_none_iff.mpr hpermanent
  simp only [PluginStore.increment, currentOf, incrementExpiry]
  rw [standing_permanent hpermanent, hexpiry]
  rfl

omit hpermanent

/-! ## What holds in every run -/

section Runs

variable (space key : String) (legacies : ℕ → List String) (origin : Table)

def valueAt (table : Table) : Option PyValue :=
  (Dict.getItem table (space, key)).map Row.value

/-- The value is what a client finds at first. -/
def Original (value : PyValue) : Prop :=
  ∃ client, foundIn key origin (space :: legacies client) = some value

/-- What an increment under way has read, with what it may write back. -/
def CallSound (state : State) (client : ℕ) (call : Progress) : Prop :=
  match call.phase with
  | .begun => True
  | .searching left =>
    space ∉ left ∧ foundIn key origin (space :: legacies client) = foundIn key origin left ∧
      ((foundIn key origin left).isSome → state.commits = [])
  | .copying value =>
    foundIn key origin (space :: legacies client) = some value ∧ state.commits = []
  | .checked current =>
    (differs current call.default = true →
      (state.commits = [] → Original space key legacies origin current) ∧
        (state.commits ≠ [] → valueAt space key state.table = some current)) ∧
      (valueAt space key state.table = none → foundIn key origin (space :: legacies client) = none)
  | .adding =>
    valueAt space key state.table = none → foundIn key origin (space :: legacies client) = none

structure Sound (state : State) : Prop where
  permanent : ∀ found row, Dict.getItem state.table (found, key) = some row → row.expiresAt = none
  legacy : ∀ found, found ≠ space →
    Dict.getItem state.table (found, key) = Dict.getItem origin (found, key)
  unread : state.commits = [] → valueAt space key state.table = none →
    valueAt space key origin = none
  original : state.commits = [] → ∀ value, valueAt space key state.table = some value →
    Original space key legacies origin value
  counted : ∀ result, lastResult none state.commits = some result →
    valueAt space key state.table = some (.int result)
  chained : state.commits ≠ [] →
    ∃ client, Chained (startOf space key legacies origin client) state.commits
  calls : ∀ client call, Dict.getItem state.calls client = some call →
    CallSound space key legacies origin state client call

end Runs

variable {space key : String} {legacies : ℕ → List String} {origin : Table}

theorem foundIn_cons (table : Table) (first : String) (rest : List String) :
    foundIn key table (first :: rest) =
      ((Dict.getItem table (first, key)).map Row.value).or (foundIn key table rest) := by
  rw [foundIn, List.findSome?_cons]
  cases Dict.getItem table (first, key) <;> rfl

variable {state : State} {value : PyValue} {table : Table}

theorem Started.sound (hstarted : Started space key legacies state) :
    Sound space key legacies state.table state where
  permanent := hstarted.permanent
  legacy _ _ := rfl
  unread _ hnone := hnone
  original _ value hvalue := by
    refine ⟨0, ?_⟩
    rw [foundIn_cons, ← valueAt, hvalue, Option.some_or]
  counted result hresult := by
    rw [hstarted.unanswered] at hresult
    cases hresult
  chained hne := absurd hstarted.unanswered hne
  calls client call hcall := by
    rw [hstarted.idle] at hcall
    cases hcall

theorem CallSound.congr {state after : State} {client : ℕ} {call : Progress}
    (hcommits : after.commits = state.commits)
    (hvalue : valueAt space key after.table = valueAt space key state.table)
    (hcall : CallSound space key legacies origin state client call) :
    CallSound space key legacies origin after client call := by
  unfold CallSound at *
  rwa [hcommits, hvalue]

theorem CallSound.written {after : State} {client : ℕ} {call : Progress}
    (hcommits : after.commits = state.commits)
    (hwritten : valueAt space key after.table = some value)
    (hsame : state.commits ≠ [] → valueAt space key state.table = some value)
    (hcall : CallSound space key legacies origin state client call) :
    CallSound space key legacies origin after client call := by
  unfold CallSound at *
  rw [hcommits, hwritten]
  cases hphase : call.phase with
  | begun => trivial
  | searching left => rwa [hphase] at hcall
  | copying found => rwa [hphase] at hcall
  | checked current =>
    rw [hphase] at hcall
    refine ⟨fun hdiffers => ⟨(hcall.1 hdiffers).1, fun hne => ?_⟩, nofun⟩
    rw [← hsame hne]
    exact (hcall.1 hdiffers).2 hne
  | adding => nofun

theorem foundIn_legacy (hlegacy : ∀ found, found ≠ space →
      Dict.getItem table (found, key) = Dict.getItem origin (found, key)) {left : List String}
    (hothers : space ∉ left) :
    foundIn key table left = foundIn key origin left := by
  induction left with
  | nil => rfl
  | cons first rest ih =>
    have hne : first ≠ space := fun heq => hothers (heq ▸ List.mem_cons_self ..)
    rw [foundIn_cons, foundIn_cons, hlegacy first hne,
      ih fun hmem => hothers (List.mem_cons_of_mem _ hmem)]

theorem CallSound.committed {after : State} {client : ℕ} {call : Progress}
    (hlegacy : ∀ found, found ≠ space →
      Dict.getItem state.table (found, key) = Dict.getItem origin (found, key))
    (howes : owes key state.table call = false)
    (hwritten : valueAt space key after.table = some value)
    (hcall : CallSound space key legacies origin state client call) :
    CallSound space key legacies origin after client call := by
  unfold CallSound owes at *
  rw [hwritten]
  cases hphase : call.phase with
  | begun => trivial
  | searching left =>
    rw [hphase] at hcall howes
    dsimp only at howes
    refine ⟨hcall.1, hcall.2.1, fun hfound => ?_⟩
    rw [← foundIn_legacy hlegacy hcall.1, howes] at hfound
    cases hfound
  | copying found =>
    rw [hphase] at howes
    cases howes
  | checked current =>
    rw [hphase] at howes
    exact ⟨fun hdiffers => absurd hdiffers (Bool.eq_false_iff.mp howes), nofun⟩
  | adding => nofun

theorem valueAt_setItem (table : Table) (row : Row) :
    valueAt space key (Dict.setItem table (space, key) row) = some row.value := by
  rw [valueAt, Dict.getItem_setItem_self]
  rfl

theorem permanent_setItem
    (hpermanent : ∀ found row, Dict.getItem table (found, key) = some row → row.expiresAt = none)
    (found : String) (row : Row)
    (hrow : Dict.getItem (Dict.setItem table (space, key) ⟨value, none⟩) (found, key) = some row) :
    row.expiresAt = none := by
  by_cases heq : found = space
  · subst heq
    rw [Dict.getItem_setItem_self] at hrow
    rw [← Option.some.inj hrow]
  · rw [Dict.getItem_setItem_of_ne] at hrow
    · exact hpermanent found row hrow
    · exact fun hkey => heq (Prod.ext_iff.mp hkey).1

theorem legacy_setItem {row : Row} (hlegacy : ∀ found, found ≠ space →
      Dict.getItem table (found, key) = Dict.getItem origin (found, key)) (found : String)
    (hne : found ≠ space) :
    Dict.getItem (Dict.setItem table (space, key) row) (found, key) =
      Dict.getItem origin (found, key) := by
  rw [Dict.getItem_setItem_of_ne]
  · exact hlegacy found hne
  · exact fun hkey => hne (Prod.ext_iff.mp hkey).1

section Steps

variable {state : State} {client : ℕ} {call : Progress} {phase : Phase}

theorem Sound.moved_same (hsound : Sound space key legacies origin state)
    (hphase : CallSound space key legacies origin state client { call with phase := phase }) :
    Sound space key legacies origin (moved state client state.table call phase) where
  permanent := hsound.permanent
  legacy := hsound.legacy
  unread := hsound.unread
  original := hsound.original
  counted := hsound.counted
  chained := hsound.chained
  calls other found hfound := by
    by_cases heq : other = client
    · subst heq
      rw [moved, Dict.getItem_setItem_self] at hfound
      cases hfound
      exact hphase.congr rfl rfl
    · rw [moved, Dict.getItem_setItem_of_ne _ _ heq] at hfound
      exact (hsound.calls other found hfound).congr rfl rfl

theorem Sound.moved_written {value : PyValue} (hsound : Sound space key legacies origin state)
    (horiginal : state.commits = [] → Original space key legacies origin value)
    (hsame : state.commits ≠ [] → valueAt space key state.table = some value)
    (hphase : CallSound space key legacies origin
      { state with table := Dict.setItem state.table (space, key) ⟨value, none⟩ } client
      { call with phase := phase }) :
    Sound space key legacies origin
      (moved state client (Dict.setItem state.table (space, key) ⟨value, none⟩) call phase) where
  permanent := permanent_setItem hsound.permanent
  legacy := legacy_setItem hsound.legacy
  unread _ hnone := by
    rw [moved, valueAt_setItem] at hnone
    cases hnone
  original hcommits found hfound := by
    rw [moved, valueAt_setItem] at hfound
    cases hfound
    exact horiginal hcommits
  counted result hresult := by
    have hne : state.commits ≠ [] := by
      intro hnil
      rw [moved, hnil] at hresult
      cases hresult
    rw [moved, valueAt_setItem, ← hsame hne]
    exact hsound.counted result hresult
  chained := hsound.chained
  calls other found hfound := by
    by_cases heq : other = client
    · subst heq
      rw [moved, Dict.getItem_setItem_self] at hfound
      cases hfound
      exact hphase.congr rfl rfl
    · rw [moved, Dict.getItem_setItem_of_ne _ _ heq] at hfound
      have hcommits : (moved state client (Dict.setItem state.table (space, key) ⟨value, none⟩)
          call phase).commits = state.commits := rfl
      exact (hsound.calls other found hfound).written hcommits (valueAt_setItem _ _) hsame

end Steps

theorem lastResult_isSome {commits : List Commit} (hne : commits ≠ []) (start : Option ℤ) :
    ∃ result, lastResult none commits = some result ∧ lastResult start commits = some result := by
  cases commits with
  | nil => exact absurd rfl hne
  | cons commit rest =>
    induction rest generalizing commit with
    | nil => exact ⟨_, rfl, rfl⟩
    | cons next rest ih => exact ih next (List.cons_ne_nil _ _)

variable {state : State} {client : ℕ} {call : Progress}

section

variable (hsound : Sound space key legacies origin state)

include hsound

theorem Sound.value_isSome (hne : state.commits ≠ []) : valueAt space key state.table ≠ none := by
  obtain ⟨result, hresult, -⟩ := lastResult_isSome hne none
  rw [hsound.counted result hresult]
  nofun

theorem Sound.committed
    (hcall : Dict.getItem state.calls client = some call) (hphase : call.phase = .adding)
    (howes : ∀ other found, other ≠ client → Dict.getItem state.calls other = some found →
      owes key state.table found = false) (now : ℚ) :
    Sound space key legacies origin (storeCall space key legacies state client now call) := by
  have hpermanent := hsound.permanent space
  have hadding := hsound.calls client call hcall
  unfold CallSound at hadding
  unfold storeCall
  rw [hphase] at hadding ⊢
  dsimp only at hadding ⊢
  rw [increment_permanent hpermanent]
  have hnumber : ((Dict.getItem state.table (space, key)).bind fun row => numberOf row.value) =
      (valueAt space key state.table).bind numberOf := by
    rw [valueAt, Option.bind_map]
    rfl
  rw [hnumber]
  refine ⟨permanent_setItem hsound.permanent, legacy_setItem hsound.legacy, ?_, ?_, ?_, ?_, ?_⟩
  · exact fun hnil => absurd hnil (List.append_ne_nil_of_right_ne_nil _ (List.cons_ne_nil _ _))
  · exact fun hnil => absurd hnil (List.append_ne_nil_of_right_ne_nil _ (List.cons_ne_nil _ _))
  · intro result hresult
    rw [lastResult_concat] at hresult
    rw [valueAt_setItem, ← Option.some.inj hresult]
  · intro _
    by_cases hnil : state.commits = []
    · -- the first increment starts from what some client finds at first
      have hstart : ∃ first, startOf space key legacies origin first =
          (valueAt space key state.table).bind numberOf := by
        cases hvalue : valueAt space key state.table with
        | none => exact ⟨client, by rw [startOf, hadding hvalue]⟩
        | some value =>
          obtain ⟨first, hfirst⟩ := hsound.original hnil value hvalue
          exact ⟨first, by rw [startOf, hfirst]⟩
      obtain ⟨first, hfirst⟩ := hstart
      refine ⟨first, ?_⟩
      rw [hnil, hfirst]
      exact ⟨rfl, trivial⟩
    · obtain ⟨first, hchained⟩ := hsound.chained hnil
      refine ⟨first, hchained.concat ?_⟩
      obtain ⟨result, hresult, hlast⟩ :=
        lastResult_isSome hnil (startOf space key legacies origin first)
      rw [hlast, hsound.counted result hresult]
      rfl
  · intro other found hfound
    by_cases heq : other = client
    · subst heq
      rw [Dict.getItem_popItem_self] at hfound
      cases hfound
    · rw [Dict.getItem_popItem_of_ne _ heq] at hfound
      exact (hsound.calls other found hfound).committed hsound.legacy (howes other found heq hfound)
        (valueAt_setItem _ _)

theorem Sound.storeCall (hothers : ∀ client, space ∉ legacies client)
    (hcall : Dict.getItem state.calls client = some call)
    (howes : call.phase = .adding → ∀ other found, other ≠ client →
      Dict.getItem state.calls other = some found → owes key state.table found = false) (now : ℚ) :
    Sound space key legacies origin
      (SharedCounter.storeCall space key legacies state client now call) := by
  have hnow := hsound.calls client call hcall
  cases hphase : call.phase with
  | begun =>
    rw [SharedCounter.storeCall, hphase]
    dsimp only
    rw [get_permanent (hsound.permanent space)]
    cases hvalue : valueAt space key state.table with
    | none =>
      have hempty : state.commits = [] := by
        by_contra hne
        exact hsound.value_isSome hne hvalue
      have horigin := hsound.unread hempty hvalue
      rw [valueAt] at hvalue horigin
      rw [hvalue]
      refine hsound.moved_same ⟨hothers client, ?_, fun _ => hempty⟩
      rw [foundIn_cons, horigin, Option.none_or]
    | some value =>
      have hread := hvalue
      rw [valueAt] at hread
      rw [hread]
      refine hsound.moved_same ⟨fun _ => ⟨fun hnil => ?_, fun _ => hvalue⟩, fun hnone => ?_⟩
      · exact hsound.original hnil value hvalue
      · cases hvalue.symm.trans hnone
  | searching left =>
    rw [CallSound, hphase] at hnow
    obtain ⟨hspace, hfound, hempty⟩ := hnow
    rw [SharedCounter.storeCall, hphase]
    cases left with
    | nil =>
      refine hsound.moved_same ⟨fun hdiffers => ?_, fun _ => hfound⟩
      rw [differs, PyValue.eq, PyValue.number?] at hdiffers
      simp at hdiffers
    | cons legacy rest =>
      have hne : legacy ≠ space := fun heq => hspace (heq ▸ List.mem_cons_self ..)
      dsimp only
      rw [get_permanent (hsound.permanent legacy)]
      rw [foundIn_cons origin legacy rest, ← hsound.legacy legacy hne] at hfound hempty
      dsimp only
      cases hvalue : (Dict.getItem state.table (legacy, key)).map Row.value with
      | none =>
        rw [hvalue, Option.none_or] at hfound hempty
        exact hsound.moved_same ⟨fun hmem => hspace (List.mem_cons_of_mem _ hmem), hfound, hempty⟩
      | some value =>
        rw [hvalue, Option.some_or] at hfound hempty
        exact hsound.moved_same ⟨hfound, hempty rfl⟩
  | copying value =>
    rw [CallSound, hphase] at hnow
    rw [SharedCounter.storeCall, hphase]
    have hne : state.commits ≠ [] → valueAt space key state.table = some value :=
      fun hne => absurd hnow.2 hne
    refine hsound.moved_written (fun _ => ⟨client, hnow.1⟩) hne ⟨fun _ => ⟨?_, ?_⟩, ?_⟩
    · exact fun _ => ⟨client, hnow.1⟩
    · exact fun hne => absurd hnow.2 hne
    · intro hnone
      cases (valueAt_setItem _ _).symm.trans hnone
  | checked current =>
    rw [CallSound, hphase] at hnow
    rw [SharedCounter.storeCall, hphase]
    dsimp only
    split
    · next hdiffers =>
      refine hsound.moved_written (hnow.1 hdiffers).1 (hnow.1 hdiffers).2 fun hnone => ?_
      cases (valueAt_setItem _ _).symm.trans hnone
    · exact hsound.moved_same hnow.2
  | adding => exact hsound.committed hcall hphase (howes hphase) now

end

theorem Sound.enter {state : State} (hsound : Sound space key legacies origin state)
    (client : ℕ) (amount default : ℤ) :
    Sound space key legacies origin { state with
      calls := Dict.setItem state.calls client ⟨amount, default, .begun⟩ } := by
  have hbegun : CallSound space key legacies origin state client
      { (⟨amount, default, .adding⟩ : Progress) with phase := .begun } := trivial
  exact hsound.moved_same hbegun

theorem owes_of_unhindered {now : ℚ} (hcall : Dict.getItem state.calls client = some call)
    (hunhindered : unhindered key state (.advance client now) = true)
    (hphase : call.phase = .adding) (other : ℕ) (found : Progress) (hne : other ≠ client)
    (hfound : Dict.getItem state.calls other = some found) :
    owes key state.table found = false := by
  simp only [unhindered] at hunhindered
  rw [hcall, Option.all_some, hphase] at hunhindered
  have hother := List.all_eq_true.mp hunhindered _ (Dict.mem_of_getItem hfound)
  rw [decide_eq_false hne, Bool.false_or, Bool.not_eq_true'] at hother
  exact hother

theorem Sound.step {state next : State} {event : Event}
    (hsound : Sound space key legacies origin state) (hothers : ∀ client, space ∉ legacies client)
    (hunhindered : unhindered key state event = true)
    (hstep : SharedCounter.step space key legacies state event = some next) :
    Sound space key legacies origin next := by
  cases event with
  | enter client amount default =>
    obtain ⟨-, hnext⟩ := Option.ite_none_left_eq_some.mp hstep
    cases hnext
    exact hsound.enter client amount default
  | advance client now =>
    obtain ⟨call, hcall, rfl⟩ := Option.map_eq_some_iff.mp hstep
    exact hsound.storeCall hothers hcall
      (fun hphase => owes_of_unhindered hcall hunhindered hphase) now

/-- Where no amount is added while another client is still to write back what it read, the
increments return one number after another, from the number at the start, and the value is the
sum. -/
theorem increments_of_run {first last : State} {events : List Event}
    (hstarted : Started space key legacies first)
    (hrun : StepRun (step space key legacies)
      (fun state event => unhindered key state event = true) first events last) :
    ∃ client, Chained (startOf space key legacies first.table client) last.commits ∧
      ∀ commit rest, last.commits = commit :: rest → valueAt space key last.table =
          some (.int ((startOf space key legacies first.table client).getD commit.default +
            (last.commits.map Commit.amount).sum)) := by
  have hsound := hrun.invariant (Sound space key legacies first.table)
    (fun _ _ _ hsound hunhindered hstep => hsound.step hstarted.others hunhindered hstep)
    hstarted.sound
  by_cases hnil : last.commits = []
  · rw [hnil]
    exact ⟨0, trivial, nofun⟩
  · obtain ⟨client, hchained⟩ := hsound.chained hnil
    refine ⟨client, hchained, fun commit rest hcommits => hsound.counted _ ?_⟩
    obtain ⟨result, hresult, hlast⟩ :=
      lastResult_isSome hnil (startOf space key legacies first.table client)
    rw [hresult, ← hlast]
    rw [hcommits] at hchained ⊢
    exact hchained.lastResult_eq

/-! ## Two clients -/

def fiveState : State where
  table := [(("new", "hits"), ⟨.int 5, none⟩)]
  calls := []
  commits := []

theorem started_fiveState : Started "new" "hits" (fun _ => ["old"]) fiveState where
  idle := rfl
  unanswered := rfl
  others _ := by decide
  permanent found row hrow := by
    have hmem := List.mem_singleton.mp (Dict.mem_of_getItem hrow)
    have hfive : row = ⟨.int 5, none⟩ := (Prod.ext_iff.mp hmem).2
    rw [hfive]

/-- The second client reads after the first one has written back what it read. -/
def inTurn : List Event :=
  [.enter 0 1 0, .enter 1 2 0, .advance 0 7, .advance 0 7, .advance 1 7, .advance 1 7,
    .advance 0 7, .advance 1 7]

theorem increments_of_inTurn :
    ∃ client, Chained (startOf "new" "hits" (fun _ => ["old"]) fiveState.table client)
        (stateAfter (step "new" "hits" fun _ => ["old"]) fiveState inTurn).commits ∧
      ∀ commit rest, (stateAfter (step "new" "hits" fun _ => ["old"]) fiveState inTurn).commits =
          commit :: rest →
        valueAt "new" "hits" (stateAfter (step "new" "hits" fun _ => ["old"]) fiveState
            inTurn).table =
          some (.int ((startOf "new" "hits" (fun _ => ["old"]) fiveState.table client).getD
            commit.default + ((stateAfter (step "new" "hits" fun _ => ["old"]) fiveState
              inTurn).commits.map Commit.amount).sum)) :=
  increments_of_run started_fiveState (stepRun_stateAfter (by decide))

/-- The second client counts between the read of the first one and its write-back. -/
def writtenBack : List Event :=
  [.enter 0 1 0, .advance 0 7, .enter 1 1 0, .advance 1 7, .advance 1 7, .advance 1 7,
    .advance 0 7, .advance 0 7]

theorem increment_lost : ¬ ∀ (space key : String) (legacies : ℕ → List String) (first last : State)
      (events : List Event), Started space key legacies first →
      StepRun (step space key legacies) (fun _ _ => True) first events last →
      ∃ client, Chained (startOf space key legacies first.table client) last.commits ∧
        ∀ commit rest, last.commits = commit :: rest → valueAt space key last.table =
            some (.int ((startOf space key legacies first.table client).getD commit.default +
              (last.commits.map Commit.amount).sum)) := by
  intro hall
  have hrun : StepRun (step "new" "hits" fun _ => ["old"]) (fun _ _ => True) fiveState writtenBack
      (stateAfter (step "new" "hits" fun _ => ["old"]) fiveState writtenBack) :=
    stepRun_stateAfter (by decide)
  obtain ⟨client, hchained, -⟩ := hall _ _ _ _ _ _ started_fiveState hrun
  have hcommits : (stateAfter (step "new" "hits" fun _ => ["old"]) fiveState
      writtenBack).commits = [⟨1, 0, 6⟩, ⟨1, 0, 6⟩] := by decide
  rw [hcommits] at hchained
  exact absurd hchained.2.1 (by decide)

end SignPulse.Plugin.SharedCounter
