import Mathlib.Data.String.Basic
import SignPulse.Backend.TaskInfos
import SignPulse.Foundation.StepRun

/-!
# The account store

`accounts.json` of `tg_session.py`: the file, the dictionary that is cached for two seconds
and that every operation edits in place, and the operations on it.
-/

namespace SignPulse.AccountStore

open Foundation
open FlowModels (PyError)
open ChainedRuns (Config getEntry isTrue)
open TaskConfigs (valueError)

/-- What a call finds outside of the store. -/
structure Surroundings where
  /-- `time.monotonic()`. -/
  now : ℚ := 0
  /-- `utc_now_iso()`, when a status is checked and when an entry is updated. -/
  checkedAt : String := ""
  updatedAt : String := ""
  /-- `uuid.uuid4().hex`. -/
  freshId : String := ""
  isValidSessionString : String → Bool := fun _ => true
  encryptSecret : String → Except PyError String := fun text => .ok text
  decryptSecret : String → Except PyError String := fun text => .ok text
  strOf : PyValue → String := fun _ => ""
  /-- The file cannot be replaced. -/
  writeFails : Bool := false
  /-- A damaged file cannot be set aside. -/
  backupFails : Bool := false

/-- The contents of the file, with the entries of accounts under `accounts`. -/
abbrev Data := Dict String PyValue

def accountsOf (data : Data) : Dict String PyValue :=
  match data.getItem "accounts" with
  | some (.dict accounts) => accounts
  | _ => []

def withAccounts (data : Data) (accounts : Dict String PyValue) : Data :=
  data.setItem "accounts" (.dict accounts)

def entryOf (data : Data) (accountName : String) : Option Config :=
  match (accountsOf data).getItem accountName with
  | some (.dict entry) => some entry
  | _ => none

def setEntry (data : Data) (accountName : String) (entry : Config) : Data :=
  withAccounts data ((accountsOf data).setItem accountName (.dict entry))

def removeEntry (data : Data) (accountName : String) : Data :=
  withAccounts data ((accountsOf data).popItem accountName)

/-! ## The file and the cache -/

inductive StoreFile where
  | missing
  /-- What cannot be read, or is no JSON. -/
  | damaged
  | json (value : PyValue)

structure State where
  file : StoreFile := .missing
  /-- When the dictionary was read, and as it is now. -/
  cache : Option (ℚ × Data) := none

def emptyData : Data :=
  [("accounts", .dict [])]

def StoreFile.data : StoreFile → Data
  | .json (.dict data) =>
    match Dict.getItem data "accounts" with
    | some (.dict _) => data
    | _ => withAccounts data []
  | _ => emptyData

/-- `_read_account_store_file` sets a damaged file aside. -/
def StoreFile.afterRead (surroundings : Surroundings) : StoreFile → StoreFile
  | .damaged => if surroundings.backupFails then .damaged else .missing
  | file => file

/-- `_ACCOUNT_STORE_CACHE_TTL`. -/
def cacheTtl : ℚ := 2

/-- `_cached_account_store`. -/
def State.load (state : State) (surroundings : Surroundings) : State × Data :=
  let reread : State × Data :=
    ({ file := state.file.afterRead surroundings
       cache := some (surroundings.now, state.file.data) },
      state.file.data)
  match state.cache with
  | some (time, data) => if surroundings.now - time < cacheTtl then (state, data) else reread
  | none => reread

/-! ## Changes -/

structure ProfileChanges where
  remark : Option String := none
  proxy : Option String := none
  proxyProbePolicy : Option String := none
  tags : Option (List String) := none
  deviceFamily : Option String := none
  deviceProfile : Option Config := none

structure StatusChange where
  status : String
  message : String := ""
  code : Option String := none
  needsRelogin : Bool := false
  invalidNotifiedAt : Option String := none

inductive Change where
  | setSessionString (accountName sessionString : String)
  | deleteSessionString (accountName : String)
  | renameEntry (oldName newName : String)
  | setProfile (accountName : String) (changes : ProfileChanges)
  | setStatus (accountName : String) (change : StatusChange)

inductive Ending where
  | saves
  | returns
  | raises (error : PyError)

/-- The dictionary as an operation has edited it in place, and how the operation goes on. -/
structure Attempt where
  data : Data
  ending : Ending

/-- `entry.setdefault(key, value)`. -/
def setDefault (entry : Config) (key : String) (value : PyValue) : Config :=
  if entry.hasKey key then entry else entry.setItem key value

/-- `entry[key] = value`, if there is a value. -/
def setSome (entry : Config) (key : String) (value : Option PyValue) : Config :=
  match value with
  | some value => entry.setItem key value
  | none => entry

/-- `set_account_session_string`, up to the write. -/
def setAccountSessionString (surroundings : Surroundings) (data : Data)
    (accountName sessionString : String) : Attempt :=
  let entry := match entryOf data accountName with
    | some entry => setDefault entry "storage_id" (.str accountName)
    | none => [("storage_id", .str surroundings.freshId)]
  -- the entry of an existing account is edited in place, before the checks
  let prepared := if (entryOf data accountName).isSome then setEntry data accountName entry
    else data
  let cleaned := pyStrip sessionString
  if ¬surroundings.isValidSessionString cleaned then
    { data := prepared, ending := .raises (valueError "invalid pyrogram session_string") }
  else
    match surroundings.encryptSecret cleaned with
    | .error error => { data := prepared, ending := .raises error }
    | .ok stored =>
      let updated := (entry.setItem "session_string" (.str stored)).setItem "updated_at"
        (.str surroundings.updatedAt)
      { data := setEntry data accountName updated, ending := .saves }

/-- `delete_account_session_string`, up to the write.  The storage id that a legacy entry is
given goes with the entry. -/
def deleteAccountSessionString (data : Data) (accountName : String) : Attempt :=
  if (accountsOf data).hasKey accountName then
    { data := removeEntry data accountName, ending := .saves }
  else { data, ending := .returns }

/-- `rename_account_entry` for two names, up to the write. -/
def renameAccountEntry (surroundings : Surroundings) (data : Data)
    (oldName newName : String) : Attempt :=
  match (accountsOf data).getItem oldName with
  | none => { data, ending := .returns }
  | some .none => { data := removeEntry data oldName, ending := .returns }
  | some value =>
    let popped := removeEntry data oldName
    if (accountsOf popped).hasKey newName then
      { data := popped
        ending := .raises (valueError s!"account_name {newName} already exists") }
    else
      let entry := match value with
        | .dict entry => entry
        | _ => []
      { data := setEntry popped newName
          (Dict.setItem entry "updated_at" (.str surroundings.updatedAt))
        ending := .saves }

/-- `set_account_profile`, up to the write. -/
def setAccountProfile (surroundings : Surroundings) (data : Data) (accountName : String)
    (changes : ProfileChanges) : Attempt :=
  let entry := (entryOf data accountName).getD []
  let entry := setSome entry "remark" (changes.remark.map fun text => .str (pyStrip text))
  let entry := setSome entry "proxy" (changes.proxy.map fun text => .str (pyStrip text))
  let entry := setSome entry "tags"
    (changes.tags.map fun tags => .list (((tags.map pyStrip).filter (· ≠ "")).map .str))
  let entry := setSome entry "device_family"
    (changes.deviceFamily.map fun text => .str (pyStrip text))
  let entry := setSome entry "device_profile" (changes.deviceProfile.map .dict)
  let entry := setSome entry "proxy_probe_policy"
    (changes.proxyProbePolicy.map fun text => .str (pyLower (pyStrip text)))
  { data := setEntry data accountName (entry.setItem "updated_at" (.str surroundings.updatedAt))
    ending := .saves }

def ofOption (text : Option String) : PyValue :=
  match text with
  | some text => .str text
  | none => .none

/-- `set_account_status`, up to the write. -/
def setAccountStatus (surroundings : Surroundings) (data : Data) (accountName : String)
    (change : StatusChange) : Attempt :=
  let entry := (entryOf data accountName).getD []
  let entry := entry.setItem "status" (.str change.status)
  let entry := entry.setItem "status_message" (.str change.message)
  let entry := entry.setItem "status_code" (ofOption change.code)
  let entry := entry.setItem "status_checked_at" (.str surroundings.checkedAt)
  let entry := entry.setItem "needs_relogin" (.bool change.needsRelogin)
  let entry := setSome entry "invalid_notified_at" (change.invalidNotifiedAt.map .str)
  let entry := if change.status ≠ "invalid" then entry.popItem "invalid_notified_at" else entry
  { data := setEntry data accountName (entry.setItem "updated_at" (.str surroundings.updatedAt))
    ending := .saves }

def attempt (surroundings : Surroundings) (data : Data) : Change → Attempt
  | .setSessionString accountName sessionString =>
    setAccountSessionString surroundings data accountName sessionString
  | .deleteSessionString accountName => deleteAccountSessionString data accountName
  | .renameEntry oldName newName => renameAccountEntry surroundings data oldName newName
  | .setProfile accountName changes => setAccountProfile surroundings data accountName changes
  | .setStatus accountName change => setAccountStatus surroundings data accountName change

/-! ## Reads -/

/-- One part of `natural_sort_key`: a number or a text. -/
inductive SortPart where
  | number (value : ℕ)
  | text (value : List Char)
  deriving DecidableEq

/-- `natural_sort_key`, from the characters of a name. -/
def naturalSortKey (chars : List Char) : List SortPart :=
  (chars.splitBy fun left right => left.isDigit == right.isDigit).map fun part =>
    if part.all Char.isDigit then
      .number (part.foldl (fun acc digit => 10 * acc + (digit.toNat - '0'.toNat)) 0)
    else .text (part.flatMap lowerChar)

def SortPart.le : SortPart → SortPart → Bool
  | .number left, .number right => left ≤ right
  | .text left, .text right => left ≤ right
  -- a name that begins with digits begins with an empty text
  | .number _, .text _ => true
  | .text _, .number _ => false

def keyLe : List SortPart → List SortPart → Bool
  | [], _ => true
  | _ :: _, [] => false
  | left :: leftRest, right :: rightRest =>
    if left = right then keyLe leftRest rightRest else left.le right

/-- `list_account_names`. -/
def listAccountNames (data : Data) : List String :=
  (accountsOf data).keyList.mergeSort fun left right =>
    keyLe (naturalSortKey left.toList) (naturalSortKey right.toList)

def isEncryptedSecret (text : String) : Bool :=
  "fernet:".toList.isPrefixOf text.toList

/-- `get_account_session_string`. -/
def getAccountSessionString (surroundings : Surroundings) (data : Data) (accountName : String) :
    Except PyError (Option String) := do
  match getEntry ((entryOf data accountName).getD []) "session_string" with
  | .str text =>
    let cleaned := pyStrip text
    if cleaned = "" then return none
    let decrypted ←
      if isEncryptedSecret cleaned then surroundings.decryptSecret cleaned else .ok cleaned
    return if surroundings.isValidSessionString decrypted then some decrypted else none
  | _ => return none

def storedId (strOf : PyValue → String) (entry : Config) : String :=
  let value := getEntry entry "storage_id"
  if isTrue value then
    match value with
    | .str text => pyStrip text
    | value => pyStrip (strOf value)
  else ""

/-- `get_account_storage_id`. -/
def getAccountStorageId (strOf : PyValue → String) (data : Data) (accountName : String) : String :=
  match entryOf data accountName with
  | some entry => if storedId strOf entry = "" then accountName else storedId strOf entry
  | none => accountName

/-- `get_account_profile`. -/
def getAccountProfile (data : Data) (accountName : String) : Config :=
  match entryOf data accountName with
  | some entry =>
    ["remark", "proxy", "status", "status_message", "status_code", "status_checked_at"].map
        (fun key => (key, getEntry entry key)) ++
      [("needs_relogin", .bool (isTrue (getEntry entry "needs_relogin"))),
        ("invalid_notified_at", getEntry entry "invalid_notified_at"),
        ("tags", if isTrue (getEntry entry "tags") then getEntry entry "tags" else .list []),
        ("device_family", getEntry entry "device_family"),
        ("device_profile", getEntry entry "device_profile"),
        ("proxy_probe_policy", getEntry entry "proxy_probe_policy" (.str "strict"))]
  | none => []

/-- `get_account_proxy`. -/
def getAccountProxy (data : Data) (accountName : String) : Option String :=
  match getEntry (getAccountProfile data accountName) "proxy" with
  | .str text => if pyStrip text = "" then none else some (pyStrip text)
  | _ => none

/-- `get_account_status`. -/
def getAccountStatus (data : Data) (accountName : String) : Config :=
  let profile := getAccountProfile data accountName
  let status := match getEntry profile "status" with
    | .str text => if text = "" then "connected" else text
    | _ => "connected"
  let message := getEntry profile "status_message"
  [("status", .str status), ("message", if isTrue message then message else .str ""),
    ("code", getEntry profile "status_code"),
    ("checked_at", getEntry profile "status_checked_at"),
    ("needs_relogin", .bool (isTrue (getEntry profile "needs_relogin"))),
    ("invalid_notified_at", getEntry profile "invalid_notified_at")]

inductive Query where
  | listNames
  | sessionString (accountName : String)
  | storageId (accountName : String)
  | profile (accountName : String)
  | proxy (accountName : String)
  | status (accountName : String)

inductive Answer where
  | done
  | raised (error : PyError)
  | names (names : List String)
  | text (text : Option String)
  | config (config : Config)

def answer (surroundings : Surroundings) (data : Data) : Query → Answer
  | .listNames => .names (listAccountNames data)
  | .sessionString accountName =>
    match getAccountSessionString surroundings data accountName with
    | .ok text => .text text
    | .error error => .raised error
  | .storageId accountName => .text (some (getAccountStorageId surroundings.strOf data accountName))
  | .profile accountName => .config (getAccountProfile data accountName)
  | .proxy accountName => .text (getAccountProxy data accountName)
  | .status accountName => .config (getAccountStatus data accountName)

/-! ## Calls -/

inductive Operation where
  | change (change : Change)
  | query (query : Query)

structure Call where
  surroundings : Surroundings
  operation : Operation

/-- What a call returns or raises, and what it saves. -/
structure Output where
  answer : Answer
  saved : Option Data := none

def writeError : PyError :=
  { name := "OSError" }

namespace State

/-- `_save_account_store`, where the operation gets so far. -/
def finish (loaded : State) (surroundings : Surroundings) (attempt : Attempt) : State × Output :=
  let edited := { loaded with cache := loaded.cache.map fun hit => (hit.1, attempt.data) }
  match attempt.ending with
  | .raises error => (edited, { answer := .raised error })
  | .returns => (edited, { answer := .done })
  | .saves =>
    if surroundings.writeFails then (edited, { answer := .raised writeError })
    else
      ({ file := .json (.dict attempt.data), cache := none },
        { answer := .done, saved := some attempt.data })

/-- A new name that is the old one is not even looked up. -/
def change (state : State) (surroundings : Surroundings) (change : Change) : State × Output :=
  match change with
  | .renameEntry oldName newName =>
    if oldName = newName then (state, { answer := .done })
    else
      let (loaded, data) := state.load surroundings
      loaded.finish surroundings (renameAccountEntry surroundings data oldName newName)
  | change =>
    let (loaded, data) := state.load surroundings
    loaded.finish surroundings (attempt surroundings data change)

def call (state : State) (call : Call) : State × Output :=
  match call.operation with
  | .change change => state.change call.surroundings change
  | .query query =>
    let (loaded, data) := state.load call.surroundings
    (loaded, { answer := answer call.surroundings data query })

end State

end SignPulse.AccountStore
