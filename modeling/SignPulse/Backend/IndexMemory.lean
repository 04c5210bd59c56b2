import Mathlib.Data.Int.Order.Basic
import SignPulse.Backend.HistoryIndex
import SignPulse.Foundation.StepRun

/-!
# The index in memory

`list_recent_from_index` answers from `_memory_recent` where that is filled, and else from the
file.  Appending, reading and rebuilding fill it in different ways.
-/

namespace SignPulse.IndexMemory

open Foundation
open HistoryIndex

/-- `_memory_max`. -/
def memoryMax : ℕ := 200

/-- The index of one directory and the process that uses it. -/
structure State where
  file : Option (List Line) := none
  /-- `_memory_recent`, empty where `_memory_dir` is another directory. -/
  memory : List IndexEntry := []
  /-- The rows that the entries of the history files make. -/
  history : List IndexEntry := []

namespace State

variable (state : State)

def lines : List Line :=
  state.file.getD []

/-- `rebuild_index_from_history_files`. -/
def rebuild (maxLines : ℕ) : State :=
  let entries := lastItems maxLines (sortedEntries state.history)
  { state with
    file := some (entries.map Line.entry)
    memory := entries.reverse.take memoryMax }

/-- `ensure_index`. -/
def ensureIndex : State :=
  match state.file with
  | some _ => state
  | none => state.rebuild 2000

end State

/-- The fields that `read_index_entries` keeps. -/
def normalized (entry : IndexEntry) : IndexEntry :=
  buildIndexEntry entry.time entry.accountName entry.taskName entry.success entry.message
    entry.failureCategory

/-- `limit` of a list, at least one. -/
def limited (limit : Option ℤ) (entries : List IndexEntry) : List IndexEntry :=
  match limit with
  | none => entries
  | some limit => entries.take (max 1 limit).toNat

/-- All that `read_index_entries` finds. -/
def newestFirst (lines : List Line) : List IndexEntry :=
  (entriesOf lines).reverse.map normalized

/-- What `list_recent_from_index` returns without a filter, and the state it leaves. -/
def listFromFile (state : State) (limit : Option ℤ) : List IndexEntry × State :=
  let ensured := state.ensureIndex
  let items := limited limit (newestFirst ensured.lines)
  if items = [] then ([], ensured)
  else (items, { ensured with memory := items.take memoryMax })

/-- `prefer_memory`. -/
def listRecent (state : State) (limit : Option ℤ) (preferMemory : Bool) : List IndexEntry × State :=
  if preferMemory && !state.memory.isEmpty then (limited limit state.memory, state)
  else listFromFile state limit

/-- `_entry_key`. -/
def entryKey (entry : IndexEntry) : String :=
  entry.accountName ++ "|" ++ entry.taskName ++ "|" ++ entry.time ++ "|" ++
    (if entry.success then "True" else "False")

/-- `_maybe_trim_index_file`, where `sizeOf` is `st_size`. -/
def trimmed (sizeOf : List Line → ℕ) (maxLines : ℕ) (lines : List Line) : List Line :=
  if sizeOf lines < max maxLines 1 * 200 * 3 ∨ lines.length ≤ maxLines then lines
  else lastItems maxLines lines

/-- `append_index_entry`. -/
def appendEntry (sizeOf : List Line → ℕ) (state : State) (entry : IndexEntry) (maxLines : ℕ) :
    State :=
  let others := state.memory.filter fun old => entryKey old ≠ entryKey entry
  { state with
    file := some (trimmed sizeOf maxLines (state.lines ++ [.entry entry]))
    memory := (entry :: others).take memoryMax }

/-- `remove_index_entries_matching`. -/
def removeMatching (state : State) (filter : RowFilter) : State :=
  let filter := filter.stripped
  if filter = {} ∨ filter.removed state.lines = [] then state
  else
    let kept := filter.kept state.lines
    { state with
      file := if kept = [] then none else some kept
      memory := [] }

inductive Action where
  | append (entry : IndexEntry) (maxLines : ℕ)
  | remove (filter : RowFilter)
  | rebuild (maxLines : ℕ)
  /-- A read with a filter, or of the trends. -/
  | ensure
  | list (limit : Option ℤ) (preferMemory : Bool)
  /-- A new process, or the index of another directory. -/
  | restart
  /-- The history files change. -/
  | store (history : List IndexEntry)

def step (sizeOf : List Line → ℕ) (state : State) : Action → Option State
  | .append entry maxLines => some (appendEntry sizeOf state entry maxLines)
  | .remove filter => some (removeMatching state filter)
  | .rebuild maxLines => some (state.rebuild maxLines)
  | .ensure => some state.ensureIndex
  | .list limit preferMemory => some (listRecent state limit preferMemory).2
  | .restart => some { state with memory := [] }
  | .store history => some { state with history }

/-- Memory and file give the same list, whatever the limit. -/
def Agrees (state : State) : Prop :=
  ∀ limit, (listRecent state limit true).1 = (listRecent state limit false).1

/-! ## When they agree -/

/-- What reading does not change. -/
def Plain (entry : IndexEntry) : Prop :=
  entry.workflowPath = none ∧ entry.message.toList.length ≤ 500

theorem normalized_eq {entry : IndexEntry} (hplain : Plain entry) : normalized entry = entry := by
  obtain ⟨hpath, hmessage⟩ := hplain
  rw [normalized, buildIndexEntry, List.take_of_length_le hmessage, String.ofList_toList, ← hpath]

/-- A rebuild that writes nothing which memory would not hold as well. -/
def Fits (entries : List IndexEntry) : Prop :=
  entries.length ≤ memoryMax ∧ ∀ entry ∈ entries, Plain entry

/-- An append finds memory filled, unless the file has no rows, adds a plain row with a key of its
own to fewer rows than memory holds, and cuts none of them; a list that fills memory returns all
rows, and a rebuild fits into memory. -/
def Mirrored (sizeOf : List Line → ℕ) (state : State) : Action → Prop
  | .append entry maxLines =>
    Plain entry ∧ (state.memory = [] → entriesOf state.lines = []) ∧
      (∀ old ∈ state.memory, entryKey old ≠ entryKey entry) ∧
      state.memory.length < memoryMax ∧
      entriesOf (trimmed sizeOf maxLines (state.lines ++ [.entry entry])) =
        entriesOf state.lines ++ [entry]
  | .rebuild maxLines => Fits (lastItems maxLines (sortedEntries state.history))
  | .ensure =>
    state.file = none → Fits (lastItems 2000 (sortedEntries state.history))
  | .list limit preferMemory =>
    (preferMemory = true ∧ state.memory ≠ []) ∨
      ((entriesOf state.ensureIndex.lines).length ≤ memoryMax ∧
        ∀ bound ∈ limit, ((entriesOf state.ensureIndex.lines).length : ℤ) ≤ max 1 bound)
  | _ => True

/-- Memory is empty or holds all rows of the file. -/
structure Mirrors (state : State) : Prop where
  rows : state.memory = [] ∨ state.memory = newestFirst state.lines
  file : state.memory ≠ [] → state.file.isSome = true

theorem Mirrors.agrees {state : State} (hmirrors : Mirrors state) : Agrees state := by
  intro limit
  unfold listRecent
  rcases hmirrors.rows with hempty | hrows
  · rw [hempty]
    rfl
  · by_cases hmemory : state.memory = []
    · rw [hmemory]
      rfl
    · obtain ⟨lines, hfile⟩ := Option.isSome_iff_exists.mp (hmirrors.file hmemory)
      have hensured : state.ensureIndex = state := by
        rw [State.ensureIndex, hfile]
      have hfast : (!state.memory.isEmpty) = true := by
        rw [Bool.not_eq_true', List.isEmpty_eq_false_iff]
        exact hmemory
      rw [Bool.true_and, if_pos hfast, Bool.false_and, if_neg Bool.false_ne_true]
      simp only [listFromFile]
      rw [hensured, ← hrows]
      split
      · next hitems => exact hitems
      · rfl

theorem length_newestFirst (lines : List Line) :
    (newestFirst lines).length = (entriesOf lines).length := by
  rw [newestFirst, List.length_map, List.length_reverse]

theorem newestFirst_append {lines extended : List Line} {entry : IndexEntry}
    (hextended : entriesOf extended = entriesOf lines ++ [entry]) (hplain : Plain entry) :
    newestFirst extended = entry :: newestFirst lines := by
  unfold newestFirst
  rw [hextended, List.reverse_append, List.reverse_singleton, List.singleton_append,
    List.map_cons, normalized_eq hplain]

theorem newestFirst_entries {entries : List IndexEntry} (hplain : ∀ entry ∈ entries, Plain entry) :
    newestFirst (entries.map Line.entry) = entries.reverse := by
  rw [newestFirst, entriesOf_map_entry]
  conv_rhs => rw [← List.map_id entries.reverse]
  apply List.map_congr_left
  intro entry hmem
  exact normalized_eq (hplain entry (List.mem_reverse.mp hmem))

theorem limited_eq {limit : Option ℤ} {entries : List IndexEntry}
    (hlimit : ∀ bound ∈ limit, (entries.length : ℤ) ≤ max 1 bound) :
    limited limit entries = entries := by
  cases limit with
  | none => rfl
  | some bound =>
    have hbound := hlimit bound rfl
    apply List.take_of_length_le
    omega

namespace Mirrors

variable {state : State}

theorem of_empty (hempty : state.memory = []) : Mirrors state where
  rows := .inl hempty
  file hmemory := absurd hempty hmemory

theorem append (hmirrors : Mirrors state) {sizeOf : List Line → ℕ} {entry : IndexEntry}
    {maxLines : ℕ} (hmirrored : Mirrored sizeOf state (.append entry maxLines)) :
    Mirrors (appendEntry sizeOf state entry maxLines) where
  rows := by
    obtain ⟨hplain, hcold, hkeys, hlength, htrimmed⟩ := hmirrored
    right
    have hrows : state.memory = newestFirst state.lines := by
      rcases hmirrors.rows with hempty | hrows
      · rw [hempty]
        rw [newestFirst, hcold hempty]
        rfl
      · exact hrows
    have hothers : (state.memory.filter fun old => entryKey old ≠ entryKey entry) =
        state.memory := by
      rw [List.filter_eq_self]
      intro old hold
      exact decide_eq_true (hkeys old hold)
    change List.take memoryMax (entry :: _) = newestFirst (trimmed sizeOf maxLines _)
    rw [hothers, newestFirst_append htrimmed hplain, ← hrows]
    apply List.take_of_length_le
    rw [List.length_cons]
    omega
  file _ := rfl

theorem rebuild {maxLines : ℕ} (hfits : Fits (lastItems maxLines (sortedEntries state.history))) :
    Mirrors (state.rebuild maxLines) where
  rows := by
    right
    change List.take memoryMax (List.reverse _) = newestFirst (List.map Line.entry _)
    rw [newestFirst_entries hfits.2]
    apply List.take_of_length_le
    rw [List.length_reverse]
    exact hfits.1
  file _ := rfl

theorem ensureIndex (hmirrors : Mirrors state)
    (hfits : state.file = none → Fits (lastItems 2000 (sortedEntries state.history))) :
    Mirrors state.ensureIndex := by
  unfold State.ensureIndex
  split
  · exact hmirrors
  · next hfile => exact rebuild (hfits hfile)

theorem removeMatching (hmirrors : Mirrors state) (filter : RowFilter) :
    Mirrors (removeMatching state filter) := by
  simp only [IndexMemory.removeMatching]
  split
  · exact hmirrors
  · exact of_empty rfl

end Mirrors

theorem State.file_ensureIndex (state : State) : state.ensureIndex.file.isSome = true := by
  unfold State.ensureIndex
  split
  · next hfile => rw [hfile, Option.isSome_some]
  · rfl

theorem memory_rebuild_of_no_rows {state : State} {maxLines : ℕ}
    (hnone : newestFirst (state.rebuild maxLines).lines = []) :
    (state.rebuild maxLines).memory = [] := by
  have hentries : lastItems maxLines (sortedEntries state.history) = [] := by
    rw [← List.length_eq_zero_iff, length_newestFirst] at hnone
    change (entriesOf (List.map Line.entry _)).length = 0 at hnone
    rwa [entriesOf_map_entry, List.length_eq_zero_iff] at hnone
  change List.take memoryMax (List.reverse (lastItems maxLines _)) = []
  rw [hentries]
  rfl

theorem Mirrors.of_no_rows {state : State} (hmirrors : Mirrors state)
    (hnone : newestFirst state.ensureIndex.lines = []) : Mirrors state.ensureIndex := by
  unfold State.ensureIndex at hnone ⊢
  split at hnone
  · exact hmirrors
  · exact of_empty (memory_rebuild_of_no_rows hnone)

theorem Mirrors.listFromFile {state : State} (hmirrors : Mirrors state) {limit : Option ℤ}
    (hlength : (entriesOf state.ensureIndex.lines).length ≤ memoryMax)
    (hlimit : ∀ bound ∈ limit, ((entriesOf state.ensureIndex.lines).length : ℤ) ≤ max 1 bound) :
    Mirrors (listFromFile state limit).2 := by
  simp only [IndexMemory.listFromFile]
  rw [← length_newestFirst] at hlength
  rw [limited_eq (by rwa [length_newestFirst])]
  split
  · next hitems => exact hmirrors.of_no_rows hitems
  · refine ⟨.inr ?_, fun _ => state.file_ensureIndex⟩
    exact List.take_of_length_le hlength

theorem Mirrors.step {state next : State} (hmirrors : Mirrors state) {sizeOf : List Line → ℕ}
    {action : Action} (hmirrored : Mirrored sizeOf state action)
    (hstep : step sizeOf state action = some next) : Mirrors next := by
  cases action with
  | append entry maxLines =>
    cases hstep
    exact hmirrors.append hmirrored
  | remove filter =>
    cases hstep
    exact hmirrors.removeMatching filter
  | rebuild maxLines =>
    cases hstep
    exact rebuild hmirrored
  | ensure =>
    cases hstep
    exact hmirrors.ensureIndex hmirrored
  | list limit preferMemory =>
    cases hstep
    unfold listRecent
    split
    · exact hmirrors
    · next hslow =>
      rcases hmirrored with ⟨hprefer, hmemory⟩ | ⟨hlength, hlimit⟩
      · refine absurd ?_ hslow
        rw [hprefer, Bool.true_and, Bool.not_eq_true', List.isEmpty_eq_false_iff]
        exact hmemory
      · exact hmirrors.listFromFile hlength hlimit
  | restart =>
    cases hstep
    exact of_empty rfl
  | store history =>
    cases hstep
    exact ⟨hmirrors.rows, hmirrors.file⟩

/-- A process that starts with nothing in memory, on whatever file, gives the same list from both
after any run of such steps. -/
theorem agrees_of_run {sizeOf : List Line → ℕ} {first last : State} {actions : List Action}
    (hempty : first.memory = [])
    (hrun : StepRun (step sizeOf) (Mirrored sizeOf) first actions last) : Agrees last := by
  have hmirrors : Mirrors last :=
    hrun.invariant Mirrors (fun _ _ _ hinv hmirrored hstep => hinv.step hmirrored hstep)
      (.of_empty hempty)
  exact hmirrors.agrees

/-! ## Two runs -/

instance (entry : IndexEntry) : Decidable (Plain entry) :=
  inferInstanceAs (Decidable (_ ∧ _))

instance (entries : List IndexEntry) : Decidable (Fits entries) :=
  inferInstanceAs (Decidable (_ ∧ _))

instance (sizeOf : List Line → ℕ) (state : State) :
    (action : Action) → Decidable (Mirrored sizeOf state action)
  | .append _ _ => inferInstanceAs (Decidable (_ ∧ _))
  | .rebuild _ => inferInstanceAs (Decidable (Fits _))
  | .ensure => inferInstanceAs (Decidable (_ → _))
  | .list _ _ => inferInstanceAs (Decidable (_ ∨ _))
  | .remove _ | .restart | .store _ => isTrue trivial

def morning : IndexEntry :=
  buildIndexEntry "2026-05-01T08:00:00" "alice" "daily" true "ok" ""

def evening : IndexEntry :=
  buildIndexEntry "2026-05-01T20:00:00" "alice" "daily" false "timeout" "network"

/-- The second list is limited, but memory answers it. -/
theorem agrees_two_runs :
    Agrees (stateAfter (step List.length) {}
      [.append morning 2000, .append evening 2000, .list (some 1) true, .restart,
        .list none true, .remove { createdAt := "2026-05-01T08:00:00" }, .rebuild 2000]) :=
  agrees_of_run rfl (stepRun_stateAfter (by decide +kernel))

/-- A limited list after a restart leaves one entry in memory, and from then on every list has one
entry, except those that read the file. -/
theorem partial_memory : ¬ ∀ actions, Agrees (stateAfter (step List.length) {} actions) := by
  intro hall
  have hlists := hall
    [.append morning 2000, .append evening 2000, .restart, .list (some 1) true] (some 50)
  revert hlists
  decide

end SignPulse.IndexMemory
