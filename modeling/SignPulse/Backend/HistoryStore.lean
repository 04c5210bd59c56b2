import SignPulse.Backend.HistoryKeys

/-!
# The history store

What `SignTaskHistoryStore` does to the files when a run is recorded, an entry is deleted, the
history is cleared or an account is renamed.
-/

namespace SignPulse.HistoryFiles

open Foundation
open ChainedRuns (Config getEntry)

/-! ## Labels -/

section Labels

variable (strOf : PyValue → String)

/-- `str(value or "")`. -/
def textOf (value : PyValue) : String :=
  if ChainedRuns.isTrue value then
    match value with
    | .str text => text
    | value => strOf value
  else ""

@[simp]
theorem textOf_str (text : String) : textOf strOf (.str text) = text := by
  unfold textOf
  by_cases hempty : text = ""
  · rw [hempty]
    rfl
  · exact if_pos (bne_iff_ne.mpr hempty)

def ownedBy (accountName : String) : PyValue → Bool
  | .dict entry =>
    let entryAccount := getEntry entry "account_name"
    !ChainedRuns.isTrue entryAccount || textOf strOf entryAccount = accountName
  | _ => false

/-- `split_history_entries_by_account`, without an account all of it. -/
def ownedEntries (accountName : String) (items : List PyValue) : List PyValue :=
  if accountName = "" then items else items.filter (ownedBy strOf accountName)

def otherEntries (accountName : String) (items : List PyValue) : List PyValue :=
  if accountName = "" then [] else items.filter fun item => !ownedBy strOf accountName item

end Labels

/-! ## Migration -/

section Merge

-- `json.dumps` with sorted keys
variable (dumps : Config → String)

/-- What is appended of `incoming`: each entry whose text was not seen yet. -/
def unseenItems (seen : List String) : List PyValue → List PyValue
  | [] => []
  | .dict entry :: rest =>
    if dumps entry ∈ seen then unseenItems seen rest
    else .dict entry :: unseenItems (dumps entry :: seen) rest
  | item :: rest => item :: unseenItems seen rest

def seenTexts (items : List PyValue) : List String :=
  (items.filterMap entryOf?).map dumps

/-- The first `max_entries`, where there is such a bound. -/
def capped (maxEntries : ℕ) (items : List PyValue) : List PyValue :=
  if maxEntries = 0 then items else items.take maxEntries

/-- `merge_history_payloads`. -/
def mergeHistoryPayloads (existing incoming : List PyValue) (maxEntries : ℕ) : List PyValue :=
  capped maxEntries (existing ++ unseenItems dumps (seenTexts dumps existing) incoming)

end Merge

def writeOrUnlink (disk : Disk FileContent) (path : Path) (items : List PyValue) :
    Disk FileContent :=
  if items.isEmpty then disk.removeFile path else disk.write path (.json (.list items))

section Store

variable (strOf : PyValue → String) (dumps : Config → String)
variable (disk : Disk FileContent) (runHistoryDir : Path)

def legacyHistoryFilePath (taskName : String) (accountName : String := "") : Path :=
  runHistoryDir ++ [legacyHistoryFileName taskName accountName]

/-- What the migration writes to the current file. -/
def migratedPayload (target : Path) (owned : List PyValue) (maxEntries : ℕ) : List PyValue :=
  match disk.fileAt target with
  | some content => mergeHistoryPayloads dumps (payloadOf (some content)) owned maxEntries
  | none => capped maxEntries owned

/-- `migrate_legacy_history_file`. -/
def migrateLegacyHistoryFile (taskName accountName : String) (maxEntries : ℕ) : Disk FileContent :=
  let target := historyFilePath runHistoryDir taskName accountName
  let legacy := legacyHistoryFilePath runHistoryDir taskName accountName
  if legacy = target ∨ (disk.fileAt legacy).isNone then disk
  else
    let payload := payloadOf (disk.fileAt legacy)
    let owned := ownedEntries strOf accountName payload
    if payload.isEmpty then disk.removeFile legacy
    else if owned.isEmpty then disk
    else
      let merged := migratedPayload dumps disk target owned maxEntries
      writeOrUnlink (disk.write target (.json (.list merged))) legacy
        (otherEntries strOf accountName payload)

/-! ## Recording -/

/-- What is recorded of a run, once its logs are trimmed and its failure is classified. -/
structure Run where
  success : Bool
  message : String
  /-- `repair(message)`. -/
  repairedMessage : String
  createdAt : String
  normalizedLogs : List String
  flowTruncated : Bool
  flowLineCount : ℕ
  lastTargetMessage : String
  failureCategory : String
  workflowPath : Option (List String) := none
  aggregateStatus : PyValue := .str "legacy_aggregate"
  targets : Option PyValue := none
  unknownSideEffects : Option PyValue := none

def textList (texts : List String) : PyValue :=
  .list (texts.map PyValue.str)

def optionalEntry (key : String) (value : Option PyValue) : Config :=
  (value.map fun value => (key, value)).toList

/-- `build_history_run_entry`. -/
def buildHistoryRunEntry (accountName : String) (run : Run) : Config :=
  [("time", .str run.createdAt), ("success", .bool run.success),
    ("message", .str run.repairedMessage),
    ("account_name", .str accountName),
    ("flow_logs", textList run.normalizedLogs),
    ("flow_truncated", .bool run.flowTruncated),
    ("flow_line_count", .int run.flowLineCount),
    ("last_target_message", .str (pyStrip run.lastTargetMessage)),
    ("failure_category", .str run.failureCategory)] ++
      optionalEntry "workflow_path" (run.workflowPath.map textList)

/-- `run_entry`. -/
def runEntry (account task : String) (run : Run) : Config :=
  buildHistoryRunEntry account run ++
    [("created_at", .str run.createdAt), ("task_name", .str task),
      ("aggregate_status", run.aggregateStatus)] ++
      (optionalEntry "targets" run.targets ++
        optionalEntry "unknown_side_effects" run.unknownSideEffects)

/-- `prepend_history_entry`. -/
def prependHistoryEntry (history : List PyValue) (entry : Config) (maxEntries : ℕ) : List PyValue :=
  (PyValue.dict entry :: history).take (max 1 maxEntries)

/-- `record_run`, the files. -/
def recordRun (account task : String) (run : Run) (maxEntriesPerFile : ℕ) : Disk FileContent :=
  let maxEntries := max 1 maxEntriesPerFile
  let migrated := migrateLegacyHistoryFile strOf dumps disk runHistoryDir task account maxEntries
  let targetFile := historyFilePath runHistoryDir task account
  let raw := if migrated.existsAt targetFile then payloadOf (migrated.fileAt targetFile) else []
  migrated.write targetFile
    (.json (.list (prependHistoryEntry raw (runEntry account task run) maxEntries)))

/-! ## Clearing -/

/-- `clear_history` for an account and a task. -/
def clearPair (account task : String) : Disk FileContent :=
  match resolveExistingHistoryFile disk runHistoryDir task account with
  | some path =>
    let others := (payloadOf (disk.fileAt path)).filter fun item => !ownedBy strOf account item
    writeOrUnlink disk path others
  | none => disk

/-- `str(entry.get("created_at") or entry.get("time") or "")`. -/
def entryTime (entry : Config) : String :=
  let createdAt := getEntry entry "created_at"
  textOf strOf (if ChainedRuns.isTrue createdAt then createdAt else getEntry entry "time")

/-- The entry that `delete_history_entry` looks for. -/
def isDeleted (historyFile : Path) (account targetTime : String) : PyValue → Bool
  | .dict entry =>
    let entryAccount := textOf strOf (getEntry entry "account_name")
    entryTime strOf entry = targetTime &&
      (entryAccount = account || entryAccount = "" && historyFileOwner historyFile = some account)
  | _ => false

/-- `delete_history_entry`, the files; nothing where it returns `False`. -/
def deleteHistoryEntry (account task createdAt : String) : Option (Disk FileContent) :=
  let targetTime := pyStrip createdAt
  if targetTime = "" then none
  else
    (resolveExistingHistoryFile disk runHistoryDir task account).bind fun path =>
      let rawEntries := payloadOf (disk.fileAt path)
      if rawEntries.any (isDeleted strOf path account targetTime) then
        some (writeOrUnlink disk path (rawEntries.eraseP (isDeleted strOf path account targetTime)))
      else none

/-- `history_dir.glob("*.json")`, without names that begin with an underscore. -/
def isHistoryFile (path : Path) : Bool :=
  let name := (path.getLastD "").toList
  path.dropLast = runHistoryDir && ".json".toList.isSuffixOf name && name.head? ≠ some '_'

/-- Each history file is rewritten or removed on its own. -/
def eachHistoryFile (change : Path → FileContent → Option FileContent) : Disk FileContent :=
  { disk with
    files := disk.files.filterMap fun item =>
      if isHistoryFile runHistoryDir item.1 then (change item.1 item.2).map (item.1, ·)
      else some item }

/-- `clear_history` without an account and without a task. -/
def clearAll : Disk FileContent :=
  eachHistoryFile disk runHistoryDir fun _ _ => none

/-- The file name leaves open whose entries are in it, or names the account. -/
def mayHold (account : String) (path : Path) : Bool :=
  let stem := fileStem (path.getLastD "")
  historyFileOwner path = some account ||
    (safeHistoryKey account ++ "__").toList.isPrefixOf stem.toList ||
    (account ++ "__").toList.isPrefixOf stem.toList ||
    beforeSeparator stem.toList = none

/-- `str(entry.get("account_name") or owner or account) == account`. -/
def ownedIn (account : String) (owner : Option String) : PyValue → Bool
  | .dict entry =>
    let entryAccount := getEntry entry "account_name"
    if ChainedRuns.isTrue entryAccount then textOf strOf entryAccount = account
    else owner.getD account = account
  | _ => false

/-- `clear_history` for an account, one file. -/
def clearAccountFile (account : String) (path : Path) (content : FileContent) :
    Option FileContent :=
  let own := ownedIn strOf account (historyFileOwner path)
  let entries := payloadOf (some content)
  if mayHold account path && entries.any own then
    let others := entries.filter fun item => !own item
    if others.isEmpty then none else some (.json (.list others))
  else some content

def clearAccount (account : String) : Disk FileContent :=
  eachHistoryFile disk runHistoryDir (clearAccountFile strOf account)

/-- `stem.split("__", 1)[1]`, when there is something to split at. -/
def afterSeparator : List Char → Option (List Char)
  | [] => none
  | first :: rest =>
    if first = '_' ∧ rest.head? = some '_' then some rest.tail else afterSeparator rest

/-- The part of a file name that stands for the task. -/
def taskPart (path : Path) : String :=
  let stem := fileStem (path.getLastD "")
  ((afterSeparator stem.toList).map String.ofList).getD stem

/-- `clear_history` for a task, one file. -/
def clearTaskFile (task : String) (path : Path) (content : FileContent) : Option FileContent :=
  if taskPart path = safeHistoryKey task ∨ unsafeHistoryKey (taskPart path) = task then none
  else some content

def clearTask (task : String) : Disk FileContent :=
  eachHistoryFile disk runHistoryDir (clearTaskFile task)

/-! ## Renaming -/

/-- `rename_history_file`, the files; nothing where it leaves them alone. -/
def renameHistoryFile (oldAccount newAccount task : String) (maxEntriesPerFile : ℕ) :
    Option (Disk FileContent) :=
  (resolveExistingHistoryFile disk runHistoryDir task oldAccount).bind fun oldFile =>
    let newFile := historyFilePath runHistoryDir task newAccount
    let payload := payloadOf (disk.fileAt oldFile)
    let owned := payload.filter (ownedBy strOf oldAccount)
    if oldFile = newFile ∨ owned.isEmpty then none
    else
      let merged :=
        if disk.existsAt newFile then
          mergeHistoryPayloads dumps (payloadOf (disk.fileAt newFile)) owned
            (max 1 maxEntriesPerFile)
        else owned
      some (writeOrUnlink (disk.write newFile (.json (.list merged))) oldFile
        (payload.filter fun item => !ownedBy strOf oldAccount item))

def isRelabelled (account : String) : PyValue → Bool
  | .dict entry =>
    let entryAccount := textOf strOf (getEntry entry "account_name")
    entryAccount = "" || entryAccount = account
  | _ => false

def relabelled (account newAccount : String) (item : PyValue) : PyValue :=
  match item with
  | .dict entry =>
    if isRelabelled strOf account item then
      .dict (Dict.setItem entry "account_name" (.str newAccount))
    else item
  | _ => item

/-- `rewrite_account_in_entries`, the files; nothing where it leaves them alone. -/
def rewriteAccountInEntries (account task newAccount : String) : Option (Disk FileContent) :=
  ((resolveExistingHistoryFile disk runHistoryDir task newAccount).or
    (resolveExistingHistoryFile disk runHistoryDir task account)).bind fun targetFile =>
      let payload := payloadOf (disk.fileAt targetFile)
      if payload.any (isRelabelled strOf account) then
        let rewritten := payload.map (relabelled strOf account newAccount)
        some (disk.write targetFile (.json (.list rewritten)))
      else none

end Store

end SignPulse.HistoryFiles
