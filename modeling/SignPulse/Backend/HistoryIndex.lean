import Mathlib.Data.List.Count
import Mathlib.Data.List.Perm.Basic
import SignPulse.Foundation.PyText

/-!
# The index of the history

`_recent_index.jsonl` has one line for each run, the newest last.  This is what
`sign_task_history_index.py` does with the lines that it has read.
-/

namespace SignPulse.HistoryIndex

open Foundation

/-- A row of the index.  `created_at` is the same as `time`. -/
structure IndexEntry where
  time : String
  accountName : String
  taskName : String
  success : Bool
  message : String := ""
  failureCategory : String := ""
  workflowPath : Option (List String) := none
  deriving DecidableEq, Repr

/-- `build_index_entry`. -/
def buildIndexEntry (time accountName taskName : String) (success : Bool)
    (message failureCategory : String) (workflowPath : Option (List String) := none) :
    IndexEntry where
  time := time
  accountName := accountName
  taskName := taskName
  success := success
  message := String.ofList (message.toList.take 500)
  failureCategory := failureCategory
  workflowPath := workflowPath

inductive Line where
  | entry (entry : IndexEntry)
  /-- No dictionary, or no JSON at all. -/
  | other (text : String)
  | blank
  deriving DecidableEq, Repr

def Line.entry? : Line → Option IndexEntry
  | .entry row => some row
  | _ => none

def entriesOf (lines : List Line) : List IndexEntry :=
  lines.filterMap Line.entry?

/-- `items[-count:]`, which is everything where `count` is zero. -/
def lastItems {α : Type} (count : ℕ) (items : List α) : List α :=
  if count = 0 then items else items.drop (items.length - count)

/-- What `items[-count:]` leaves out. -/
def cutItems {α : Type} (count : ℕ) (items : List α) : List α :=
  if count = 0 then [] else items.take (items.length - count)

theorem cutItems_append_lastItems {α : Type} (count : ℕ) (items : List α) :
    cutItems count items ++ lastItems count items = items := by
  unfold cutItems lastItems
  split
  · rfl
  · exact List.take_append_drop _ items

/-! ## Removal -/

/-- The criteria of `remove_index_entries_matching`; an empty one matches everything. -/
structure RowFilter where
  accountName : String := ""
  taskName : String := ""
  createdAt : String := ""
  deriving DecidableEq, Repr

def RowFilter.stripped (filter : RowFilter) : RowFilter where
  accountName := pyStrip filter.accountName
  taskName := pyStrip filter.taskName
  createdAt := pyStrip filter.createdAt

def criterion (wanted value : String) : Bool :=
  wanted = "" || value = wanted

def RowFilter.matches (filter : RowFilter) (entry : IndexEntry) : Bool :=
  criterion filter.accountName entry.accountName && criterion filter.taskName entry.taskName &&
    criterion filter.createdAt entry.time

def RowFilter.keepsLine (filter : RowFilter) : Line → Bool
  | .entry row => !filter.matches row
  | .other _ => true
  | .blank => false

def RowFilter.kept (filter : RowFilter) (lines : List Line) : List Line :=
  lines.filter filter.keepsLine

def RowFilter.removed (filter : RowFilter) (lines : List Line) : List IndexEntry :=
  (entriesOf lines).filter filter.matches

theorem entriesOf_kept (filter : RowFilter) (lines : List Line) :
    entriesOf (filter.kept lines) = (entriesOf lines).filter fun entry => !filter.matches entry := by
  unfold entriesOf RowFilter.kept
  induction lines with
  | nil => rfl
  | cons line rest ih =>
    cases line with
    | entry entry =>
      have hkeep : filter.keepsLine (.entry entry) = !filter.matches entry := rfl
      rw [List.filterMap_cons_some (rfl : Line.entry? (.entry entry) = some entry),
        List.filter_cons, List.filter_cons, hkeep, ← ih]
      cases filter.matches entry <;> rfl
    | other text => exact ih
    | blank => exact ih

theorem kept_append_removed (filter : RowFilter) (lines : List Line) :
    List.Perm (entriesOf (filter.kept lines) ++ filter.removed lines) (entriesOf lines) := by
  rw [entriesOf_kept]
  apply List.perm_append_comm.trans
  exact List.filter_append_perm _ _

/-! ## Rebuilding -/

/-- The rows of the history files in the order of their times. -/
def sortedEntries (entries : List IndexEntry) : List IndexEntry :=
  entries.mergeSort fun left right => decide (left.time ≤ right.time)

theorem sortedEntries_perm (entries : List IndexEntry) :
    List.Perm (sortedEntries entries) entries :=
  List.mergeSort_perm _ _

@[simp]
theorem entriesOf_map_entry (entries : List IndexEntry) :
    entriesOf (entries.map Line.entry) = entries := by
  rw [entriesOf, List.filterMap_map]
  exact List.filterMap_some

@[simp]
theorem entriesOf_append (left right : List Line) :
    entriesOf (left ++ right) = entriesOf left ++ entriesOf right :=
  List.filterMap_append

end SignPulse.HistoryIndex
