import Mathlib.Data.List.Infix
import SignPulse.Backend.TaskConfigIo
import SignPulse.Foundation.Bytes
import SignPulse.Foundation.Raising

/-!
# Session imports

`import_session` writes the session that it is given to a temporary file beside the session of
the account, connects with it, and replaces the account's file by it.  Each place that can fail
cleans up for itself.

The program stops where the session file is replaced.  How the calls that it makes end is part of
its surroundings, and a call that is awaited may be cancelled.
-/

namespace SignPulse.SessionImports

open Foundation
open FlowModels (PyError)
open ChainedRuns (validateStorageName)
open TaskConfigs (valueError)

/-! ## The session directory -/

/-- The names of an account's files before the suffixes of SQLite: `.session`,
`.pyrogram.tmp.session` and `.telethon.tmp`. -/
inductive Base where
  | target
  | pyrogramTemp
  | telethonTemp
  deriving DecidableEq

inductive Suffix where
  | main
  | journal
  | wal
  | shm
  deriving DecidableEq

/-- A row of the table `sessions`.  An address, a port or a key that is null is empty or zero. -/
structure SessionRow where
  dcId : Option ℤ
  serverAddress : String := ""
  port : ℤ := 0
  apiId : ℤ := 0
  testMode : Bool := false
  authKey : Bytes
  userId : ℤ := 0
  isBot : Bool := false

/-- A database of sessions, or bytes that SQLite cannot read as one. -/
inductive Content where
  | database (rows : List SessionRow)
  | fragment (bytes : Bytes)

def Content.HoldsKey (key : Bytes) : Content → Prop
  | .database rows => ∃ row ∈ rows, row.authKey = key
  | .fragment bytes => key <:+: bytes

abbrev Files := Suffix → Option Content

def Files.empty : Files := fun _ => none

def Files.HoldsKey (key : Bytes) (files : Files) : Prop :=
  ∃ suffix content, files suffix = some content ∧ content.HoldsKey key

abbrev Directory := Base → Files

/-! ## Programs -/

inductive Exit where
  | raised (error : PyError)
  | cancelled

abbrev Importing := EStateM Exit Directory

/-- How a call ends that the importer makes. -/
inductive Ending (α : Type) where
  | returned (value : α)
  | raised (error : PyError)
  | cancelled

namespace Ending

variable {α β : Type}

def bind : Ending α → (α → Ending β) → Ending β
  | returned value, next => next value
  | raised error, _ => raised error
  | cancelled, _ => cancelled

def isCancelled : Ending α → Bool
  | cancelled => true
  | _ => false

def await : Ending α → Importing α
  | returned value => pure value
  | raised error => throw (.raised error)
  | cancelled => throw .cancelled

end Ending

def raise {α : Type} (error : PyError) : Importing α :=
  throw (.raised error)

def ofExcept {α : Type} : Except PyError α → Importing α
  | .ok value => pure value
  | .error error => raise error

/-- What `except Exception` handles: a cancellation passes it. -/
def onException {α : Type} (handler : PyError → Importing α) : Exit → Importing α
  | .raised error => handler error
  | .cancelled => throw .cancelled

def exceptException {α : Type} (program : Importing α) (handler : PyError → Importing α) :
    Importing α :=
  tryCatch program (onException handler)

def finallyDo {α : Type} (program : Importing α) (closing : Importing Unit) : Importing α := do
  let value ← tryCatch program fun exit => do
    closing
    throw exit
  closing
  return value

def edit (base : Base) (change : Files → Files) : Importing Unit :=
  modify fun directory => Function.update directory base (change (directory base))

def cleanupFileAndAux (base : Base) : Importing Unit :=
  edit base fun _ => .empty

def writeMain (base : Base) (content : Content) : Importing Unit :=
  edit base fun files => Function.update files .main (some content)

/-- What is open on a database leaves files beside it. -/
def writeBeside (base : Base) (beside : Files) : Importing Unit :=
  edit base fun files => Function.update beside .main (files .main)

/-- The first row that `SELECT` finds in `sessions`. -/
def fetchSession (base : Base) : Importing (Option SessionRow) := do
  match (← get) base .main with
  | some (.database rows) => return rows.head?
  | some (.fragment _) =>
    raise { name := "DatabaseError", message := "file is not a database" }
  | none => raise { name := "OperationalError", message := "no such table: sessions" }

/-! ## What an import is given -/

/-- A payload as `detect_session_payload` tells it, and what it is decoded to.  `entity` is the
id that is taken from the table `entities`, or zero. -/
inductive Payload where
  | telethonSqlite (upload : Content) (entity : ℤ)
  | pyrogramSqlite (upload : Content)
  | pyrogramString (decoded : Except PyError Bytes)
  | telethonString
  | unknown

structure Request where
  accountName : String
  payload : Payload
  force : Bool := false
  proxy : Option String := none

structure User where
  id : Option ℤ
  isBot : Bool := false

structure Surroundings where
  /-- The characters that names must not have. -/
  isRejected : Char → Bool := fun _ => false
  directoryError : Option PyError := none
  /-- The account is in `list_account_names`. -/
  listed : Bool := false
  readError : Option PyError := none
  lock : Ending Unit := .returned ()
  /-- The schema of the client library has the columns `server_address` and `port`. -/
  addressColumns : Bool := true
  /-- The addresses of the data centers, in test mode or not. -/
  datacenters : Bool → ℤ → Option String
  /-- How writing the payload fails, and what it has written by then. -/
  uploadFault : Option (PyError × Bytes) := none
  schemaError : Option PyError := none
  /-- How inserting a record fails, and the files that it leaves. -/
  recordFault : Option (PyError × Files) := none
  credentials : Except PyError (ℤ × String)
  globalProxy : Option String := none
  requireProxy : Bool := false
  /-- `build_proxy_dict` makes something of the text. -/
  isProxy : String → Bool := fun _ => true
  proxyCheck : Ending Unit := .returned ()
  construction : Except PyError Unit := .ok ()
  semaphore : Ending Unit := .returned ()
  connect : Ending Unit := .returned ()
  getMe : Ending (Option User)
  /-- The files that the client leaves beside its session. -/
  clientFiles : Files := .empty
  /-- `is_connected` when the first connection ends. -/
  isConnected : Bool := true
  disconnect : Ending Unit := .returned ()
  updateError : Option PyError := none
  updateFiles : Files := .empty
  closeClient : Ending Unit := .returned ()
  replaceError : Option PyError := none

variable (surroundings : Surroundings)

/-! ## The three formats -/

/-- `insert_session_record`, with the row that it inserts.  The data center is made an integer
where the function is called. -/
def insertSessionRecord (row : SessionRow) : Except PyError SessionRow :=
  match row.dcId with
  | none =>
    .error
      { name := "TypeError"
        message := "int() argument must be a string, a bytes-like object or a real number, " ++
          "not 'NoneType'" }
  | some dcId =>
    if row.authKey.length ≠ 256 then
      .error (valueError ("Invalid auth_key length: " ++ toString row.authKey.length ++
        " bytes (expected exactly 256 bytes)"))
    else if surroundings.addressColumns && (row.serverAddress == "" || row.port == 0) then
      match surroundings.datacenters row.testMode dcId with
      | none =>
        .error (valueError ("未知的 Telegram 数据中心 DC " ++ toString dcId ++ " (test_mode=" ++
          (if row.testMode then "True" else "False") ++ ")"))
      | some address =>
        .ok
          { row with
            serverAddress := if row.serverAddress = "" then address else row.serverAddress
            port := if row.port = 0 then (if row.testMode then 80 else 443) else row.port }
    else .ok row

def writeUpload (base : Base) (upload : Content) : Importing Unit :=
  match surroundings.uploadFault with
  | some (error, written) => do
    writeMain base (.fragment written)
    raise error
  | none => writeMain base upload

/-- The part that both conversions have: a new database with one record. -/
def createDatabase (record : SessionRow) : Importing Unit := do
  cleanupFileAndAux .pyrogramTemp
  writeMain .pyrogramTemp (.database [])
  match surroundings.schemaError with
  | some error => raise error
  | none => do
    let row ← ofExcept (insertSessionRecord surroundings record)
    match surroundings.recordFault with
    | some (error, files) => do
      edit .pyrogramTemp fun _ => files
      raise error
    | none => writeMain .pyrogramTemp (.database [row])

def telethonRecord (row : SessionRow) (entity : ℤ) : SessionRow :=
  { row with
    apiId := 0
    testMode := false
    userId := entity
    isBot := false }

def convertTelethonToPyrogramSqlite (entity : ℤ) : Importing Unit := do
  match ← fetchSession .telethonTemp with
  | none => raise (valueError "No session record found in Telethon database.")
  | some row =>
    if row.authKey = [] then raise (valueError "Telethon session does not contain an auth_key.")
    else createDatabase surroundings (telethonRecord row entity)

def importTelethonSqliteSession (upload : Content) (entity : ℤ) : Importing Unit := do
  cleanupFileAndAux .telethonTemp
  cleanupFileAndAux .pyrogramTemp
  writeUpload surroundings .telethonTemp upload
  finallyDo (convertTelethonToPyrogramSqlite surroundings entity) (cleanupFileAndAux .telethonTemp)

def importPyrogramSqliteSession (upload : Content) : Importing Unit := do
  cleanupFileAndAux .pyrogramTemp
  writeUpload surroundings .pyrogramTemp upload
  let row ← fetchSession .pyrogramTemp
  if row.all fun row => row.authKey.length != 256 then
    raise (valueError ("Invalid Pyrogram SQLite session: missing or invalid auth_key " ++
      "(must be 256 bytes)."))

/-- The fields of a session string in its three formats, `>BI?256sQ?`, `>B?256sQ?` and
`>B?256sI?`, which differ in length. -/
def unpackSessionString (raw : Bytes) : Except PyError SessionRow :=
  let integer start stop : ℤ := unpackBigEndian (slice raw start stop)
  let flag index : Bool := integer index (index + 1) != 0
  if raw.length = 271 then
    .ok
      { dcId := some (integer 0 1)
        apiId := integer 1 5
        testMode := flag 5
        authKey := slice raw 6 262
        userId := integer 262 270
        isBot := flag 270 }
  else if raw.length = 267 then
    .ok
      { dcId := some (integer 0 1)
        testMode := flag 1
        authKey := slice raw 2 258
        userId := integer 258 266
        isBot := flag 266 }
  else if raw.length = 263 then
    .ok
      { dcId := some (integer 0 1)
        testMode := flag 1
        authKey := slice raw 2 258
        userId := integer 258 262
        isBot := flag 262 }
  else
    .error (valueError ("Cannot unpack Pyrogram session string: unexpected raw length " ++
      toString raw.length ++ " bytes"))

def importPyrogramStringSession (decoded : Except PyError Bytes) : Importing Unit := do
  let row ← ofExcept (decoded.bind unpackSessionString)
  createDatabase surroundings row

/-! ## The first connection -/

def resolveCredentials : Importing Unit :=
  match surroundings.credentials with
  | .ok _ => pure ()
  | .error _ => do
    cleanupFileAndAux .pyrogramTemp
    raise
      { name := "RuntimeError"
        message := "CREDENTIALS_RESOLUTION_FAILED: Telegram API credentials not configured" }

/-- The proxy of the request, or else the global one, unless it is blank. -/
def proxyInForce (proxy : Option String) : Option String :=
  let given := proxy.filter fun text => pyStrip text ≠ ""
  (given.or surroundings.globalProxy).filter fun text => pyStrip text ≠ ""

/-- The fail-closed gate, and `verify_account_proxy`. -/
def proxyGate (proxy : Option String) : Importing Unit :=
  match proxyInForce surroundings proxy with
  | some text =>
    if surroundings.isProxy text then
      exceptException surroundings.proxyCheck.await fun error => do
        cleanupFileAndAux .pyrogramTemp
        raise error
    else do
      cleanupFileAndAux .pyrogramTemp
      raise (valueError "PROXY_INVALID_BLOCKED: Configured proxy string is invalid")
  | none =>
    if surroundings.requireProxy then do
      cleanupFileAndAux .pyrogramTemp
      raise (valueError ("PROXY_REQUIRED_BLOCKED: Global policy requires a proxy for " ++
        "Telegram connections"))
    else pure ()

def unauthorized : PyError :=
  valueError "IMPORTED_SESSION_UNAUTHORIZED"

def disconnectClient : Importing Unit :=
  if surroundings.isConnected then
    exceptException surroundings.disconnect.await fun _ => pure ()
  else pure ()

def connectClient : Importing (Option User) :=
  finallyDo
    (exceptException
      (do
        surroundings.semaphore.await
        writeBeside .pyrogramTemp surroundings.clientFiles
        surroundings.connect.await
        surroundings.getMe.await)
      fun _ => do
        cleanupFileAndAux .pyrogramTemp
        raise unauthorized)
    (disconnectClient surroundings)

/-- The user, with an id that is not null or zero. -/
def authorizedUser (me : Option User) : Option (ℤ × Bool) :=
  me.bind fun user => (user.id.filter (· ≠ 0)).map fun id => (id, user.isBot)

def Content.withUser (userId : ℤ) (isBot : Bool) : Content → Content
  | .database rows => .database (rows.map fun row => { row with userId, isBot })
  | .fragment bytes => .fragment bytes

/-- `UPDATE sessions SET user_id = ?, is_bot = ?` -/
def updateSession (userId : ℤ) (isBot : Bool) : Importing Unit := do
  writeBeside .pyrogramTemp surroundings.updateFiles
  match surroundings.updateError with
  | some error => raise error
  | none =>
    edit .pyrogramTemp fun files =>
      Function.update files .main ((files .main).map (Content.withUser userId isBot))

def replaceSession : Importing Unit := do
  exceptException surroundings.closeClient.await fun _ => pure ()
  cleanupFileAndAux .target
  match surroundings.replaceError with
  | some error => raise error
  | none => do
    let imported := (← get) .pyrogramTemp .main
    edit .target fun files => Function.update files .main imported
    edit .pyrogramTemp fun files => Function.update files .main none

/-- `verify_imported_session` from the client on. -/
def connectAndReplace : Importing Unit := do
  ofExcept surroundings.construction
  match authorizedUser (← connectClient surroundings) with
  | none => do
    cleanupFileAndAux .pyrogramTemp
    raise unauthorized
  | some (userId, isBot) => do
    updateSession surroundings userId isBot
    replaceSession surroundings

def verifyImportedSession (proxy : Option String) : Importing Unit := do
  resolveCredentials surroundings
  proxyGate surroundings proxy
  connectAndReplace surroundings

/-! ## Imports -/

/-- What `import_session` checks before it takes the lock. -/
def checkRequest (request : Request) (directory : Directory) : Except PyError Unit := do
  let accountName ←
    validateStorageName surroundings.isRejected request.accountName "account_name"
  if let some error := surroundings.directoryError then
    throw error
  if ((directory .target .main).isSome || surroundings.listed) && !request.force then
    throw (valueError ("Account already exists: " ++ accountName))
  match request.payload with
  | .telethonString =>
    throw (valueError ("Telethon StringSession is not supported. Please use Telethon .session " ++
      "file or Pyrogram session string."))
  | .unknown => throw (valueError "Unknown or unsupported session payload format.")
  | _ =>
    if let some error := surroundings.readError then
      throw error

def importPayload : Payload → Importing Unit
  | .telethonSqlite upload entity => importTelethonSqliteSession surroundings upload entity
  | .pyrogramSqlite upload => importPyrogramSqliteSession surroundings upload
  | .pyrogramString decoded => importPyrogramStringSession surroundings decoded
  | _ => raise (valueError "Unsupported session payload type")

def importSession (request : Request) : Importing Unit := do
  ofExcept (checkRequest surroundings request (← get))
  surroundings.lock.await
  importPayload surroundings request.payload
  verifyImportedSession surroundings request.proxy

/-! ## What an import leaves -/

def importedKey : Payload → Option Bytes
  | .telethonSqlite (.database (row :: _)) _ | .pyrogramSqlite (.database (row :: _)) =>
    if row.authKey = [] then none else some row.authKey
  | .pyrogramString (.ok raw) =>
    match unpackSessionString raw with
    | .ok row => some row.authKey
    | .error _ => none
  | _ => none

/-- The account's own session is as before, and no temporary file holds the imported key. -/
structure Untouched (payload : Payload) (before after : Directory) : Prop where
  target : after .target = before .target
  pyrogramTemp : ∀ key ∈ importedKey payload, ¬(after .pyrogramTemp).HoldsKey key
  telethonTemp : ∀ key ∈ importedKey payload, ¬(after .telethonTemp).HoldsKey key

/-- The semaphore, `connect` and `get_me`, each after the one before it. -/
def connection : Ending (Option User) :=
  surroundings.semaphore.bind fun _ => surroundings.connect.bind fun _ => surroundings.getMe

/-- The first connection raises, or it finds no user and the client closes without a
cancellation. -/
def connectsTidily : Bool :=
  match surroundings.construction with
  | .error _ => false
  | .ok _ =>
    match connection surroundings with
    | .raised _ => true
    | .cancelled => false
    | .returned me =>
      !(surroundings.isConnected && surroundings.disconnect.isCancelled) &&
        (authorizedUser me).isNone

/-- The proxy is refused, its check raises, or the connection ends tidily. -/
def gateTidily (proxy : Option String) : Bool :=
  match proxyInForce surroundings proxy with
  | none => surroundings.requireProxy || connectsTidily surroundings
  | some text =>
    !surroundings.isProxy text || match surroundings.proxyCheck with
      | .raised _ => true
      | .cancelled => false
      | .returned _ => connectsTidily surroundings

/-- The credentials are missing, or the gate and the connection end tidily. -/
def verifiesTidily (proxy : Option String) : Bool :=
  match surroundings.credentials with
  | .error _ => true
  | .ok _ => gateTidily surroundings proxy

def StoresTidily (proxy : Option String) (record : SessionRow) : Prop :=
  match surroundings.schemaError, insertSessionRecord surroundings record,
    surroundings.recordFault with
  | some _, _, _ => True
  | none, .error _, _ => True
  | none, .ok _, some (_, files) => ¬files.HoldsKey record.authKey
  | none, .ok _, none => verifiesTidily surroundings proxy = true

def ImportsTidily (proxy : Option String) (telethonTemp : Files) (key : Bytes) : Payload → Prop
  | .telethonSqlite (.database (row :: _)) entity =>
    match surroundings.uploadFault with
    | some (_, written) => ¬key <:+: written
    | none => StoresTidily surroundings proxy (telethonRecord row entity)
  | .pyrogramSqlite _ =>
    ¬telethonTemp.HoldsKey key ∧ match surroundings.uploadFault with
      | some (_, written) => ¬key <:+: written
      | none => key.length = 256 ∧ verifiesTidily surroundings proxy = true
  | .pyrogramString (.ok raw) =>
    ¬telethonTemp.HoldsKey key ∧
      ∀ row, unpackSessionString raw = .ok row → StoresTidily surroundings proxy row
  | _ => True

/-- An import that is refused before it writes leaves what it has found, and another one ends
tidily. -/
def EndsTidily (request : Request) (before : Directory) (key : Bytes) : Prop :=
  match checkRequest surroundings request before, surroundings.lock with
  | .ok _, .returned _ =>
    ImportsTidily surroundings request.proxy (before .telethonTemp) key request.payload
  | _, _ => ¬(before .pyrogramTemp).HoldsKey key ∧ ¬(before .telethonTemp).HoldsKey key

end SignPulse.SessionImports
