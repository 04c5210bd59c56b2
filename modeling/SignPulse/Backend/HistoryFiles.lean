import SignPulse.Backend.TaskConfigIo
import SignPulse.Foundation.Disk

/-!
# History files

How `sign_task_history_io.py` names the history file of a task, which of three files it reads,
and what it returns of that.
-/

namespace SignPulse.HistoryFiles

open Foundation
open ChainedRuns (Config getEntry)

inductive FileContent where
  | json (value : PyValue)
  /-- What cannot be decoded, or is no JSON. -/
  | other (text : String)

/-! ## File names -/

/-- A name without what a file name must not have. -/
def cleanedName (name : String) : List Char :=
  ((pyStrip name).toList.filter (· ≠ '\x00')).map fun char =>
    if char = '/' ∨ char = '\\' then '_' else char

def encodeChar (char : Char) : List Char :=
  if char = '%' then ['%', '2', '5'] else if char = '_' then ['%', '5', 'F'] else [char]

/-- `safe_history_key`. -/
def safeHistoryKey (name : String) : String :=
  let cleaned := cleanedName name
  if cleaned = ['.'] ∨ cleaned = ['.', '.'] then "default"
  else if cleaned.flatMap encodeChar = [] then "default"
  else String.ofList (cleaned.flatMap encodeChar)

/-- `_legacy_history_key`: nothing is escaped. -/
def legacyHistoryKey (name : String) : String :=
  let cleaned := cleanedName name
  if cleaned = ['.'] ∨ cleaned = ['.', '.'] then "default"
  else if cleaned = [] then "default"
  else String.ofList cleaned

/-- `history_file_path`, the last part. -/
def historyFileName (taskName accountName : String) : String :=
  if accountName ≠ "" then
    safeHistoryKey accountName ++ "__" ++ safeHistoryKey taskName ++ ".json"
  else safeHistoryKey taskName ++ ".json"

/-- `legacy_history_file_path`, the last part. -/
def legacyHistoryFileName (taskName : String) (accountName : String := "") : String :=
  if accountName ≠ "" then
    legacyHistoryKey accountName ++ "__" ++ legacyHistoryKey taskName ++ ".json"
  else legacyHistoryKey taskName ++ ".json"

/-! ## Reading -/

/-- `resolve_existing_history_file`. -/
def resolveExistingHistoryFile (disk : Disk FileContent) (runHistoryDir : Path)
    (taskName accountName : String) : Option Path :=
  let historyFile := historyFileName taskName accountName
  let legacyEncoded := legacyHistoryFileName taskName accountName
  let legacyFile := legacyHistoryFileName taskName
  if disk.existsAt (runHistoryDir ++ [historyFile]) then some (runHistoryDir ++ [historyFile])
  else if legacyEncoded ≠ historyFile ∧ disk.existsAt (runHistoryDir ++ [legacyEncoded]) then
    some (runHistoryDir ++ [legacyEncoded])
  else if legacyFile ≠ historyFile ∧ disk.existsAt (runHistoryDir ++ [legacyFile]) then
    some (runHistoryDir ++ [legacyFile])
  else none

/-- `load_history_payload_from_file`, from what `read_json_safe` returns. -/
def payloadOf : Option FileContent → List PyValue
  | some (.json (.list items)) => items
  | some (.json (.dict entries)) => [.dict entries]
  | _ => []

def labelAllows (accountName : String) (entry : Config) : Bool :=
  let itemAccount := getEntry entry "account_name"
  !ChainedRuns.isTrue itemAccount || PyValue.eq itemAccount (.str accountName)

section Entries

variable (strOf : PyValue → String)

/-- `str(entry.get("time") or "")`. -/
def timeOf (entry : Config) : String :=
  let time := getEntry entry "time"
  if ChainedRuns.isTrue time then
    match time with
    | .str text => text
    | time => strOf time
  else ""

def entryOf? : PyValue → Option Config
  | .dict entry => some entry
  | _ => none

/-- `filter_history_entries`. -/
def filterHistoryEntries (items : List PyValue) (accountName : String) : List Config :=
  let entries := (items.filterMap entryOf?).filter fun entry =>
    accountName = "" ∨ labelAllows accountName entry
  entries.mergeSort fun left right => timeOf strOf right ≤ timeOf strOf left

/-- `load_history_entries`. -/
def loadHistoryEntries (disk : Disk FileContent) (runHistoryDir : Path)
    (taskName accountName : String) : List Config :=
  match resolveExistingHistoryFile disk runHistoryDir taskName accountName with
  | some path => filterHistoryEntries strOf (payloadOf (disk.fileAt path)) accountName
  | none => []

end Entries

end SignPulse.HistoryFiles
