import SignPulse.Plugin.PluginStorage

/-!
# A plugin's client of the store

A client works on one namespace.  What it does not find there it looks for in the legacy
namespaces, in their order, and copies what it finds.  Every call of the store reads the
clock once more; `clock n` is the time that the `n`-th reading returns.  Calls whose reading
has no effect, a write without `ttl` among them, are not counted.
-/

namespace SignPulse.Plugin

open Foundation

/-- `PluginStorageClient`: its namespace and the legacy ones beside it. -/
structure StorageClient where
  space : String
  legacyNamespaces : List String
  others : space ∉ legacyNamespaces

/-- `PluginStorageClient.__init__` -/
def StorageClient.ofGiven (space : String) (given : List String) : StorageClient where
  space := space
  legacyNamespaces := given.filter fun value => decide (value ≠ "" ∧ value ≠ space)
  others := by
    intro hmem
    exact (of_decide_eq_true (List.mem_filter.mp hmem).2).2 rfl

/-- `current != default` -/
def differs (current : PyValue) (default : ℤ) : Bool :=
  !PyValue.eq current (.int default)

/-- The table and the number of clock readings so far. -/
structure Session where
  table : Table
  readings : ℕ

namespace Session

variable (clock : ℕ → ℚ)

def now (session : Session) : ℚ := clock session.readings

def get (session : Session) (space key : String) : Option PyValue × Session :=
  let answer := PluginStore.get session.table (session.now clock) space key
  (answer.1, ⟨answer.2, session.readings + 1⟩)

/-- `self._store.set(namespace, key, value)` -/
def copy (session : Session) (space key : String) (value : PyValue) : Session :=
  { session with table := PluginStore.set session.table (session.now clock) space key value none }

end Session

namespace StorageClient

variable (clock : ℕ → ℚ) (client : StorageClient)

/-- The rest of `_migrate_key`, over the legacy namespaces that are left. -/
def migrateLegacy (key : String) : List String → Session → Option PyValue × Session
  | [], session => (none, session)
  | legacy :: rest, session =>
    match session.get clock legacy key with
    | (some value, after) => (some value, after.copy clock client.space key value)
    | (none, after) => migrateLegacy key rest after

/-- `_migrate_key`, with nothing where the default would be returned. -/
def migrateKey (session : Session) (key : String) : Option PyValue × Session :=
  match session.get clock client.space key with
  | (some value, after) => (some value, after)
  | (none, after) => client.migrateLegacy clock key client.legacyNamespaces after

/-- `values[key] = value` and `self._store.set(self.namespace, key, value)` -/
def addItem (found : Dict String PyValue × Session) (item : String × PyValue) :
    Dict String PyValue × Session :=
  (Dict.setItem found.1 item.1 item.2, found.2.copy clock client.space item.1 item.2)

def addItems : List (String × PyValue) → Dict String PyValue × Session →
    Dict String PyValue × Session
  | [], found => found
  | item :: rest, found =>
    if Dict.hasKey found.1 item.1 then addItems rest found
    else addItems rest (client.addItem clock found item)

def getAll (session : Session) (space start : String) : List (String × PyValue) × Session :=
  let answer := PluginStore.getAll session.table (session.now clock) space start
  (answer.1, ⟨answer.2, session.readings + 1⟩)

def migrateRest (start : String) : List String → Dict String PyValue × Session →
    Dict String PyValue × Session
  | [], found => found
  | legacy :: rest, found =>
    let answer := getAll clock found.2 legacy start
    migrateRest start rest (client.addItems clock answer.1 (found.1, answer.2))

/-- `_migrate_all` -/
def migrateAll (session : Session) (start : String) : Dict String PyValue × Session :=
  client.migrateRest clock start client.legacyNamespaces (getAll clock session client.space start)

/-- `mget`: the keys are looked up one after another. -/
def mget : List String → Dict String (Option PyValue) × Session →
    Dict String (Option PyValue) × Session
  | [], found => found
  | key :: rest, found =>
    let answer := client.migrateKey clock found.2 key
    mget rest (Dict.setItem found.1 key answer.1, answer.2)

/-- `_increment_migrating` -/
def incrementMigrating (session : Session) (key : String) (amount default : ℤ)
    (ttl : Option ℚ) : ℤ × Session :=
  let found := client.migrateKey clock session key
  let current := found.1.getD (.int default)
  let written :=
    if differs current default then found.2.copy clock client.space key current else found.2
  let answer := PluginStore.increment written.table (written.now clock) client.space key amount
    default ttl
  (answer.1, ⟨answer.2, written.readings + 1⟩)

/-- `_delete_all` -/
def deleteAll (session : Session) (key : String) : Session :=
  { session with
    table := client.legacyNamespaces.foldl (fun table legacy => PluginStore.delete table legacy key)
      (PluginStore.delete session.table client.space key) }

/-- `_clear_all` -/
def clearAll (session : Session) : Session :=
  { session with
    table := client.legacyNamespaces.foldl
      (fun table legacy => PluginStore.clear table (some legacy))
      (PluginStore.clear session.table (some client.space)) }

/-- `set` -/
def set (session : Session) (key : String) (value : PyValue) (ttl : Option ℚ) : Session :=
  ⟨PluginStore.set session.table (session.now clock) client.space key value ttl,
    session.readings + 1⟩

/-- `mset` -/
def mset (session : Session) (mapping : List (String × PyValue)) (ttl : Option ℚ) : Session :=
  ⟨PluginStore.mset session.table (session.now clock) client.space mapping ttl,
    session.readings + 1⟩

end StorageClient

end SignPulse.Plugin
