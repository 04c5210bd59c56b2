import SignPulse.Backend.HistoryIndex
import SignPulse.Foundation.Dict
import SignPulse.Foundation.StepRun

/-!
# Threads at the index file

Appending to the index is one step.  Trimming, removing and rebuilding read first and replace the
file later, and nothing keeps other threads away in between.
-/

namespace SignPulse.IndexThreads

open Foundation
open HistoryIndex

/-- What a thread holds between reading and replacing. -/
inductive Pending where
  | trim (lines : List Line) (maxLines : ℕ)
  | removal (lines : List Line) (filter : RowFilter)
  /-- The history files that are still to be read, and the rows of those that were. -/
  | rebuild (left : List String) (collected : List IndexEntry)
  deriving DecidableEq

structure State where
  /-- The lines of the index file, if there is one. -/
  file : Option (List Line) := none
  /-- The rows that the entries of each history file make. -/
  history : Dict String (List IndexEntry) := []
  pending : Dict ℕ Pending := []
  /-- All rows that were ever appended. -/
  appended : List IndexEntry := []
  /-- The rows that a removal or a trim has left out. -/
  dropped : List IndexEntry := []

inductive Action where
  | append (entry : IndexEntry)
  /-- The read of `_maybe_trim_index_file`. -/
  | readForTrim (thread maxLines : ℕ)
  /-- The read of `remove_index_entries_matching`. -/
  | readForRemoval (thread : ℕ) (filter : RowFilter)
  /-- The list of history files in `rebuild_index_from_history_files`. -/
  | glob (thread : ℕ)
  | readHistory (thread : ℕ)
  /-- The atomic replace; `maxLines` is that of a rebuild. -/
  | replace (thread maxLines : ℕ)
  /-- The replace fails. -/
  | giveUp (thread : ℕ)
  /-- Some history file is written, or removed. -/
  | store (name : String) (rows : Option (List IndexEntry))

def State.lines (state : State) : List Line :=
  state.file.getD []

def State.hold (state : State) (thread : ℕ) (pending : Pending) : State :=
  { state with pending := Dict.setItem state.pending thread pending }

def State.replaceWith (state : State) (thread : ℕ) (file : Option (List Line))
    (dropped : List IndexEntry) : State :=
  { state with
    file
    pending := Dict.popItem state.pending thread
    dropped := state.dropped ++ dropped }

/-- `sizeOf` is `st_size`, by which small files are not even read. -/
def readForTrim (sizeOf : List Line → ℕ) (state : State) (thread maxLines : ℕ) : State :=
  match state.file with
  | none => state
  | some lines =>
    if sizeOf lines < max maxLines 1 * 200 * 3 ∨ lines.length ≤ maxLines then state
    else state.hold thread (.trim lines maxLines)

def readForRemoval (state : State) (thread : ℕ) (filter : RowFilter) : State :=
  match state.file with
  | none => state
  | some lines =>
    if filter.stripped = {} ∨ filter.stripped.removed lines = [] then state
    else state.hold thread (.removal lines filter.stripped)

def replace (state : State) (thread maxLines : ℕ) : State :=
  match Dict.getItem state.pending thread with
  | some (.trim lines limit) =>
    state.replaceWith thread (some (lastItems limit lines)) (entriesOf (cutItems limit lines))
  | some (.removal lines filter) =>
    let kept := filter.kept lines
    state.replaceWith thread (if kept = [] then none else some kept) (filter.removed lines)
  | some (.rebuild [] collected) =>
    let entries := sortedEntries collected
    state.replaceWith thread (some ((lastItems maxLines entries).map Line.entry))
      (cutItems maxLines entries)
  | _ => state

def readHistory (state : State) (thread : ℕ) : State :=
  match Dict.getItem state.pending thread with
  | some (.rebuild (name :: rest) collected) =>
    let rows := (Dict.getItem state.history name).getD []
    state.hold thread (.rebuild rest (collected ++ rows))
  | _ => state

def step (sizeOf : List Line → ℕ) (state : State) : Action → Option State
  | .append entry =>
    some
      { state with
        file := some (state.lines ++ [.entry entry])
        appended := state.appended ++ [entry] }
  | .readForTrim thread maxLines => some (readForTrim sizeOf state thread maxLines)
  | .readForRemoval thread filter => some (readForRemoval state thread filter)
  | .glob thread => some (state.hold thread (.rebuild (Dict.keyList state.history) []))
  | .readHistory thread => some (readHistory state thread)
  | .replace thread maxLines => some (replace state thread maxLines)
  | .giveUp thread => some { state with pending := Dict.popItem state.pending thread }
  | .store name (some rows) =>
    some { state with history := Dict.setItem state.history name rows }
  | .store name none => some { state with history := Dict.popItem state.history name }

/-- A thread that has read the index and not yet replaced it. -/
def Pending.holdsIndex : Pending → Bool
  | .rebuild _ _ => false
  | _ => true

/-- A rebuild has found a row for each of those that are given. -/
def Pending.Finds (rows : List IndexEntry) : Pending → Prop
  | .rebuild _ collected => ∀ entry ∈ rows, rows.count entry ≤ collected.count entry
  | _ => True

/-- Nothing is appended between the read and the replace of a trim or a removal, and a rebuild
replaces the index only where it has found a row for each of those that stand there. -/
def Undisturbed (state : State) : Action → Prop
  | .append _ => ∀ item ∈ state.pending, item.2.holdsIndex = false
  | .replace thread _ =>
    ∀ pending ∈ Dict.getItem state.pending thread, pending.Finds (entriesOf state.lines)
  | _ => True

/-- Every row that was appended stands in the index or was left out by right. -/
def Kept (state : State) : Prop :=
  ∀ entry, state.appended.count entry ≤
    (entriesOf state.lines).count entry + state.dropped.count entry

/-! ## What a step preserves -/

/-- Some rows are accounted for by those that remain and those that were left out. -/
def Covered (rows remaining dropped : List IndexEntry) : Prop :=
  ∀ entry, rows.count entry ≤ remaining.count entry + dropped.count entry

/-- What a thread has read covers them. -/
def Pending.Covers (rows dropped : List IndexEntry) : Pending → Prop
  | .trim lines _ | .removal lines _ => Covered rows (entriesOf lines) dropped
  | .rebuild _ _ => True

/-- What stands in the index covers what was appended, and so does what a thread has read. -/
structure Sound (state : State) : Prop where
  index : Covered state.appended (entriesOf state.lines) state.dropped
  read : ∀ item ∈ state.pending, item.2.Covers state.appended state.dropped

theorem Covered.split {rows remaining kept cut dropped : List IndexEntry}
    (hcovered : Covered rows remaining dropped) (hsplit : List.Perm (kept ++ cut) remaining) :
    Covered rows kept (dropped ++ cut) := by
  intro entry
  have hcount := hsplit.count_eq entry
  have hle := hcovered entry
  rw [List.count_append] at hcount ⊢
  omega

theorem Covered.more {rows remaining dropped : List IndexEntry}
    (hcovered : Covered rows remaining dropped) (others : List IndexEntry) :
    Covered rows remaining (dropped ++ others) := by
  intro entry
  have hle := hcovered entry
  rw [List.count_append]
  omega

theorem Pending.Covers.more {rows dropped : List IndexEntry} {pending : Pending}
    (hcovers : pending.Covers rows dropped) (others : List IndexEntry) :
    pending.Covers rows (dropped ++ others) := by
  cases pending with
  | trim lines maxLines => exact Covered.more hcovers others
  | removal lines filter => exact Covered.more hcovers others
  | rebuild left collected => trivial

namespace Sound

variable {state : State}

variable (hsound : Sound state)

include hsound

theorem hold (thread : ℕ) {pending : Pending}
    (hpending : pending.Covers state.appended state.dropped) :
    Sound (state.hold thread pending) where
  index := hsound.index
  read := by
    rintro ⟨other, found⟩ hitem
    obtain ⟨rfl, rfl⟩ | hold := Dict.mem_of_mem_setItem hitem
    · exact hpending
    · exact hsound.read _ hold

theorem popPending (thread : ℕ) :
    Sound { state with pending := Dict.popItem state.pending thread } where
  index := hsound.index
  read item hitem := hsound.read item (List.mem_of_mem_filter hitem)

theorem replaceWith (thread : ℕ) {file : Option (List Line)} {remaining dropped : List IndexEntry}
    (hcovered : Covered state.appended remaining state.dropped)
    (hsplit : List.Perm (entriesOf (file.getD []) ++ dropped) remaining) :
    Sound (state.replaceWith thread file dropped) where
  index := hcovered.split hsplit
  read item hitem := (hsound.read item (List.mem_of_mem_filter hitem)).more dropped

theorem append (hfree : ∀ item ∈ state.pending, item.2.holdsIndex = false) (entry : IndexEntry) :
    Sound { state with
      file := some (state.lines ++ [.entry entry])
      appended := state.appended ++ [entry] } where
  index := by
    intro other
    have hle := hsound.index other
    have hrows : entriesOf (state.lines ++ [.entry entry]) = entriesOf state.lines ++ [entry] :=
      entriesOf_append _ _
    change (state.appended ++ [entry]).count other ≤
      (entriesOf (state.lines ++ [.entry entry])).count other + state.dropped.count other
    rw [hrows, List.count_append, List.count_append]
    omega
  read item hitem := by
    have hrebuild := hfree item hitem
    cases hpending : item.2 with
    | rebuild left collected => trivial
    | trim lines maxLines =>
      rw [hpending] at hrebuild
      cases hrebuild
    | removal lines filter =>
      rw [hpending] at hrebuild
      cases hrebuild

theorem readForTrim (sizeOf : List Line → ℕ) (thread maxLines : ℕ) :
    Sound (readForTrim sizeOf state thread maxLines) := by
  unfold IndexThreads.readForTrim
  split
  · exact hsound
  · next lines hfile =>
    split
    · exact hsound
    · apply hsound.hold
      have hindex := hsound.index
      rw [State.lines, hfile] at hindex
      exact hindex

theorem readForRemoval (thread : ℕ) (filter : RowFilter) :
    Sound (readForRemoval state thread filter) := by
  unfold IndexThreads.readForRemoval
  split
  · exact hsound
  · next lines hfile =>
    split
    · exact hsound
    · apply hsound.hold
      have hindex := hsound.index
      rw [State.lines, hfile] at hindex
      exact hindex

theorem readHistory (thread : ℕ) : Sound (readHistory state thread) := by
  unfold IndexThreads.readHistory
  split
  · exact hsound.hold thread trivial
  · exact hsound

theorem replace {thread maxLines : ℕ} (hfree : Undisturbed state (.replace thread maxLines)) :
    Sound (replace state thread maxLines) := by
  unfold IndexThreads.replace
  split
  · next lines limit hget =>
    apply hsound.replaceWith thread (hsound.read _ (Dict.mem_of_getItem hget))
    rw [Option.getD_some]
    apply List.perm_append_comm.trans
    rw [← entriesOf_append, cutItems_append_lastItems]
  · next lines filter hget =>
    apply hsound.replaceWith thread (hsound.read _ (Dict.mem_of_getItem hget))
    split
    · next hempty =>
      have hperm := kept_append_removed filter lines
      rw [hempty] at hperm
      exact hperm
    · exact kept_append_removed filter lines
  · next collected hget =>
    have hfound := hfree _ hget
    have hcovered : Covered state.appended collected state.dropped := by
      intro entry
      have hle := hsound.index entry
      by_cases hmem : entry ∈ entriesOf state.lines
      · have hcount := hfound entry hmem
        omega
      · rw [List.count_eq_zero.mpr hmem] at hle
        omega
    apply hsound.replaceWith thread hcovered
    rw [Option.getD_some, entriesOf_map_entry]
    apply List.perm_append_comm.trans
    rw [cutItems_append_lastItems]
    exact sortedEntries_perm collected
  · exact hsound

omit hsound

end Sound

theorem sound_of_step {sizeOf : List Line → ℕ} {state next : State} {action : Action}
    (hsound : Sound state) (hfree : Undisturbed state action)
    (hstep : step sizeOf state action = some next) : Sound next := by
  cases action with
  | append entry =>
    cases hstep
    exact hsound.append hfree entry
  | readForTrim thread maxLines =>
    cases hstep
    exact hsound.readForTrim sizeOf thread maxLines
  | readForRemoval thread filter =>
    cases hstep
    exact hsound.readForRemoval thread filter
  | glob thread =>
    cases hstep
    exact hsound.hold thread trivial
  | readHistory thread =>
    cases hstep
    exact hsound.readHistory thread
  | replace thread maxLines =>
    cases hstep
    exact hsound.replace hfree
  | giveUp thread =>
    cases hstep
    exact hsound.popPending thread
  | store name rows =>
    cases rows with
    | none =>
      cases hstep
      exact ⟨hsound.index, hsound.read⟩
    | some rows =>
      cases hstep
      exact ⟨hsound.index, hsound.read⟩

/-- The rows of a file count as appended, and no thread is at work. -/
def atRest (file : Option (List Line)) (history : Dict String (List IndexEntry)) : State where
  file := file
  history := history
  appended := entriesOf (file.getD [])

/-- Threads that leave each other undisturbed lose no row. -/
theorem kept_of_run {sizeOf : List Line → ℕ} {file : Option (List Line)}
    {history : Dict String (List IndexEntry)} {actions : List Action} {last : State}
    (hrun : StepRun (step sizeOf) Undisturbed (atRest file history) actions last) :
    Kept last := by
  have hsound : Sound last := by
    apply hrun.invariant Sound
    · intro state action next hsound hfree hstep
      exact sound_of_step hsound hfree hstep
    · exact ⟨fun entry => Nat.le_add_right _ _, fun item hitem => absurd hitem List.not_mem_nil⟩
  exact hsound.index

/-! ## Two threads -/

def runAt (time : String) : IndexEntry :=
  buildIndexEntry time "alice" "checkin" true "" ""

def appendWhileRemoving : List Action :=
  [.append (runAt "08:00"), .readForRemoval 1 { accountName := "alice", createdAt := "08:00" },
    .append (runAt "09:00"), .replace 1 0]

theorem lost_row : StepRun (step List.length) (fun _ _ => True) (atRest none []) appendWhileRemoving
        (stateAfter (step List.length) (atRest none []) appendWhileRemoving) ∧
      ¬ Kept (stateAfter (step List.length) (atRest none []) appendWhileRemoving) := by
  refine ⟨stepRun_stateAfter (by decide), fun hkept => ?_⟩
  have hcount := hkept (runAt "09:00")
  revert hcount
  decide

/-- The other thread appends after the replace. -/
def appendAfterRemoving : List Action :=
  [.append (runAt "08:00"), .readForRemoval 1 { accountName := "alice", createdAt := "08:00" },
    .replace 1 0, .append (runAt "09:00"), .store "alice__checkin.json" (some [runAt "09:00"]),
    .glob 1, .readHistory 1, .replace 1 2000]

instance (rows : List IndexEntry) (pending : Pending) : Decidable (pending.Finds rows) :=
  match pending with
  | .rebuild _ collected =>
    inferInstanceAs (Decidable (∀ entry ∈ rows, rows.count entry ≤ collected.count entry))
  | .trim _ _ | .removal _ _ => inferInstanceAs (Decidable True)

instance (state : State) (action : Action) : Decidable (Undisturbed state action) :=
  match action with
  | .append _ =>
    inferInstanceAs (Decidable (∀ item ∈ state.pending, item.2.holdsIndex = false))
  | .replace thread _ =>
    inferInstanceAs (Decidable (∀ pending ∈ Dict.getItem state.pending thread,
      pending.Finds (entriesOf state.lines)))
  | .readForTrim _ _ | .readForRemoval _ _ | .glob _ | .readHistory _ | .giveUp _ | .store _ _ =>
    inferInstanceAs (Decidable True)

theorem kept_appendAfterRemoving :
    Kept (stateAfter (step List.length) (atRest none []) appendAfterRemoving) :=
  kept_of_run (stepRun_stateAfter (by decide))

end SignPulse.IndexThreads
