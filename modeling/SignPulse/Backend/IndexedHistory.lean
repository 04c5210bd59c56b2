import SignPulse.Backend.HistoryRecords
import SignPulse.Backend.IndexMemory

/-!
# The index beside the history files

`record_run`, `delete_history_entry`, `clear_history` and the renames change the history files and
then, by criteria of their own, the index.
-/

namespace SignPulse.IndexedHistory

open Foundation
open ChainedRuns (Config getEntry)
open HistoryFiles
open HistoryIndex

/-- What the store is created with, and the functions of Python that it relies on. -/
structure Setting where
  runHistoryDir : Path
  maxEntriesPerFile : ℕ
  /-- `DEFAULT_MAX_LINES`. -/
  maxLines : ℕ
  strOf : PyValue → String
  dumps : Config → String
  /-- `st_size`. -/
  sizeOf : List Line → ℕ

structure State where
  disk : Disk FileContent := {}
  index : Option (List Line) := none

/-! ## Rows of the files -/

section Rows

variable (setting : Setting)

/-- The part of a file name that stands for the account. -/
def accountPart (path : Path) : String :=
  ((beforeSeparator (fileStem (path.getLastD "")).toList).map String.ofList).getD ""

/-- `str(value or part or "")`. -/
def textOr (value : PyValue) (part : String) : String :=
  if ChainedRuns.isTrue value then textOf setting.strOf value else part

/-- `list(workflow_path)`, its texts. -/
def workflowPathOf : PyValue → Option (List String)
  | .list items => some (items.filterMap fun item =>
    match item with
    | .str text => some text
    | _ => none)
  | _ => none

/-- `entry_from_history_item`, as `rebuild_index_from_history_files` calls it. -/
def rowOf (path : Path) (entry : Config) : IndexEntry :=
  buildIndexEntry (timeOf setting.strOf entry)
    (textOr setting (getEntry entry "account_name") (accountPart path))
    (textOr setting (getEntry entry "task_name") (taskPart path))
    (ChainedRuns.isTrue (getEntry entry "success"))
    (textOf setting.strOf (getEntry entry "message"))
    (textOf setting.strOf (getEntry entry "failure_category"))
    (workflowPathOf (getEntry entry "workflow_path"))

/-- The rows that items of a file make, where it is a history file. -/
def itemRows (path : Path) (items : List PyValue) : List IndexEntry :=
  if isHistoryFile setting.runHistoryDir path then
    (items.filterMap entryOf?).map (rowOf setting path)
  else []

def historyRows (disk : Disk FileContent) : List IndexEntry :=
  disk.files.flatMap fun item => itemRows setting item.1 (payloadOf (some item.2))

end Rows

/-! ## The index -/

def indexLines (index : Option (List Line)) : List Line :=
  index.getD []

section Index

variable (setting : Setting)

/-- `append_index_entry`, the file. -/
def appendRow (index : Option (List Line)) (entry : IndexEntry) : Option (List Line) :=
  some (IndexMemory.trimmed setting.sizeOf setting.maxLines (indexLines index ++ [.entry entry]))

/-- A row that `remove_index_entries_matching` removes. -/
def hits (filter : RowFilter) (entry : IndexEntry) : Bool :=
  filter.stripped ≠ {} && filter.stripped.matches entry

/-- `remove_index_entries_matching`, the file. -/
def removeRows (index : Option (List Line)) (filter : RowFilter) : Option (List Line) :=
  if filter.stripped = {} ∨ filter.stripped.removed (indexLines index) = [] then index
  else
    let kept := filter.stripped.kept (indexLines index)
    if kept = [] then none else some kept

/-- `rebuild_index_from_history_files`. -/
def rebuiltIndex (disk : Disk FileContent) : Option (List Line) :=
  some ((lastItems setting.maxLines (sortedEntries (historyRows setting disk))).map Line.entry)

end Index

/-! ## Operations -/

inductive Action where
  | recordRun (account task : String) (run : Run)
  | deleteHistoryEntry (account task createdAt : String)
  | clearAll
  | clearPair (account task : String)
  | clearAccount (account : String)
  | clearTask (task : String)
  | renameHistoryFile (oldAccount newAccount task : String)
  | rewriteAccountInEntries (account task newAccount : String)

/-- `build_index_entry` for a run. -/
def runRow (account task : String) (run : Run) : IndexEntry :=
  buildIndexEntry run.createdAt account task run.success run.message run.failureCategory
    run.workflowPath

section Step

variable (setting : Setting) (state : State)

/-- The files change and the index is rebuilt, or neither. -/
def rebuiltWith (disk : Option (Disk FileContent)) : State :=
  match disk with
  | some disk => { disk, index := rebuiltIndex setting disk }
  | none => state

/-- The files change and rows go from the index. -/
def removedWith (disk : Disk FileContent) (filter : RowFilter) : State :=
  { disk, index := removeRows state.index filter }

def step : Action → Option State
  | .recordRun account task run =>
    some
      { disk := recordRun setting.strOf setting.dumps state.disk setting.runHistoryDir account
          task run setting.maxEntriesPerFile
        index := appendRow setting state.index (runRow account task run) }
  | .deleteHistoryEntry account task createdAt =>
    match deleteHistoryEntry setting.strOf state.disk setting.runHistoryDir account task
        createdAt with
    | some disk =>
      some (removedWith state disk
        { accountName := account, taskName := task, createdAt := pyStrip createdAt })
    | none => some state
  | .clearAll => some { disk := clearAll state.disk setting.runHistoryDir, index := none }
  | .clearPair account task =>
    some (removedWith state (clearPair setting.strOf state.disk setting.runHistoryDir account task)
      { accountName := account, taskName := task })
  | .clearAccount account =>
    some (removedWith state (clearAccount setting.strOf state.disk setting.runHistoryDir account)
      { accountName := account })
  | .clearTask task =>
    some (removedWith state (clearTask state.disk setting.runHistoryDir task) { taskName := task })
  | .renameHistoryFile oldAccount newAccount task =>
    some (rebuiltWith setting state (renameHistoryFile setting.strOf setting.dumps state.disk
      setting.runHistoryDir oldAccount newAccount task setting.maxEntriesPerFile))
  | .rewriteAccountInEntries account task newAccount =>
    some (rebuiltWith setting state (rewriteAccountInEntries setting.strOf state.disk
      setting.runHistoryDir account task newAccount))

end Step

/-- The account, the task, the time and the success of a row. -/
def rowKey (entry : IndexEntry) : String × String × String × Bool :=
  (entry.accountName, entry.taskName, entry.time, entry.success)

def indexRows (index : Option (List Line)) : List IndexEntry :=
  entriesOf (indexLines index)

/-- The index has the same rows as the history files, each as often. -/
def Aligned (setting : Setting) (state : State) : Prop :=
  List.Perm ((indexRows state.index).map rowKey) ((historyRows setting state.disk).map rowKey)

/-- No history file gets more than its cap, nor the index. -/
def Within (setting : Setting) (state : State) : Action → Prop
  | .recordRun account task _ =>
    (migratedPayload setting.dumps state.disk (historyFilePath setting.runHistoryDir task account)
      (incomingEntries setting.strOf state.disk setting.runHistoryDir task account) 0).length <
        max 1 setting.maxEntriesPerFile ∧
    (indexLines state.index).length < setting.maxLines
  | .renameHistoryFile oldAccount newAccount task =>
    ∀ disk ∈ renameHistoryFile setting.strOf setting.dumps state.disk setting.runHistoryDir
        oldAccount newAccount task setting.maxEntriesPerFile,
      (historyRows setting disk).length ≤ setting.maxLines
  | .rewriteAccountInEntries account task newAccount =>
    ∀ disk ∈ rewriteAccountInEntries setting.strOf state.disk setting.runHistoryDir account
        task newAccount,
      (historyRows setting disk).length ≤ setting.maxLines
  | _ => True

/-! ## Where files and index agree on what goes -/

section Conditions

variable (setting : Setting) (disk : Disk FileContent)

/-- Entries that go from the files are those whose rows go from the index. -/
def SameGo (filter : RowFilter) (goes : Path → Config → Bool) : Prop :=
  ∀ item ∈ disk.files, isHistoryFile setting.runHistoryDir item.1 = true →
    ∀ entry ∈ (payloadOf (some item.2)).filterMap entryOf?,
      goes item.1 entry = hits filter (rowOf setting item.1 entry)

/-- The migration drops no entry and gives none of them another row. -/
structure KeepsRows (account task : String) (incoming : List Config) : Prop where
  counted : incoming ≠ [] → isHistoryFile setting.runHistoryDir
    (legacyHistoryFilePath setting.runHistoryDir task account) = true
  same : ∀ entry ∈ incoming,
    rowKey (rowOf setting (legacyHistoryFilePath setting.runHistoryDir task account) entry) =
      rowKey (rowOf setting (historyFilePath setting.runHistoryDir task account) entry)
  unseen : ∀ content ∈ disk.fileAt (historyFilePath setting.runHistoryDir task account),
    (incoming.map setting.dumps).Nodup ∧ ∀ entry ∈ incoming,
        setting.dumps entry ∉ seenTexts setting.dumps (payloadOf (some content))

end Conditions

def InStep (setting : Setting) (state : State) : Action → Prop
  | .recordRun account task _ =>
    task ≠ "" ∧ KeepsRows setting state.disk account task
      ((incomingEntries setting.strOf state.disk setting.runHistoryDir task account).filterMap
        entryOf?)
  | .deleteHistoryEntry account task createdAt =>
    pyStrip createdAt ≠ "" →
      ∀ path ∈ resolveExistingHistoryFile state.disk setting.runHistoryDir task account,
        ∀ item ∈ (payloadOf (state.disk.fileAt path)).find?
            (isDeleted setting.strOf path account (pyStrip createdAt)),
          let filter : RowFilter :=
            { accountName := account, taskName := task, createdAt := pyStrip createdAt }
          (∀ row ∈ itemRows setting path [item], hits filter row = true) ∧
            (historyRows setting state.disk).countP (hits filter) =
              (itemRows setting path [item]).length
  | .clearPair account task =>
    SameGo setting state.disk { accountName := account, taskName := task } fun path entry =>
      resolveExistingHistoryFile state.disk setting.runHistoryDir task account = some path &&
        ownedBy setting.strOf account (.dict entry)
  | .clearAccount account =>
    SameGo setting state.disk { accountName := account } fun path entry =>
      mayHold account path && ownedIn setting.strOf account (historyFileOwner path) (.dict entry)
  | .clearTask task =>
    SameGo setting state.disk { taskName := task } fun path _ =>
      taskPart path = safeHistoryKey task || unsafeHistoryKey (taskPart path) = task
  | _ => True

end SignPulse.IndexedHistory
