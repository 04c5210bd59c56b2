import SignPulse.Backend.StoreErrors

/-!
# Storage identities

Which identity `get_account_storage_id` returns for which account, over whole runs.  Accounts
are numbered when they are first seen; an identity stays with its account, and with no other,
if only `set_account_session_string` creates accounts under names that have served as
identities, and if no entry without a storage id is renamed.
-/

namespace SignPulse.AccountStore

open Foundation
open ChainedRuns (Config getEntry)

def namesOf (data : Data) : List String :=
  (accountsOf data).keyList

/-- What has been seen of the accounts of a run. -/
structure Ledger where
  /-- The number of the account that has a name. -/
  owners : String → Option ℕ := fun _ => none
  next : ℕ := 0
  /-- The accounts with the identities that were returned for them. -/
  seen : List (ℕ × String) := []

/-- The owner of a name is the one that had it before, under the name that `source` gives, or
else a new account. -/
def Ledger.ownerOf (ledger : Ledger) (source : String → String) (names : List String)
    (name : String) : ℕ :=
  (ledger.owners (source name)).getD (ledger.next + names.idxOf name)

/-- Look at every account. -/
def Ledger.observe (ledger : Ledger) (strOf : PyValue → String) (source : String → String)
    (data : Data) : Ledger where
  owners := fun name =>
    if name ∈ namesOf data then some (ledger.ownerOf source (namesOf data) name) else none
  next := ledger.next + (namesOf data).length
  seen := ledger.seen ++ (namesOf data).map fun name =>
    (ledger.ownerOf source (namesOf data) name, getAccountStorageId strOf data name)

/-- Every account has one identity, and every identity one account. -/
def Consistent (seen : List (ℕ × String)) : Prop :=
  ∀ left ∈ seen, ∀ right ∈ seen, left.1 = right.1 ↔ left.2 = right.2

section Ledgers

variable {ledger : Ledger} {strOf : PyValue → String} {data after : Data}
variable {source : String → String}

/-- What the ledger says of the accounts is so. -/
structure Ledger.Sound (ledger : Ledger) (strOf : PyValue → String) (data : Data) : Prop where
  owned : ∀ name, (ledger.owners name).isSome = true ↔ name ∈ namesOf data
  injective : ∀ left right number, ledger.owners left = some number →
    ledger.owners right = some number → left = right
  below : ∀ name number, ledger.owners name = some number → number < ledger.next
  seenBelow : ∀ pair ∈ ledger.seen, pair.1 < ledger.next
  current : ∀ name number, ledger.owners name = some number →
    (number, getAccountStorageId strOf data name) ∈ ledger.seen
  consistent : Consistent ledger.seen

/-- What is required of the accounts that are found: those that were there keep their
identities, and new ones have new identities. -/
structure Follows (ledger : Ledger) (strOf : PyValue → String) (data : Data)
    (source : String → String) (after : Data) : Prop where
  kept : ∀ name ∈ namesOf after, source name ∈ namesOf data →
    getAccountStorageId strOf after name = getAccountStorageId strOf data (source name)
  injective : ∀ left ∈ namesOf after, ∀ right ∈ namesOf after, source left ∈ namesOf data →
    source left = source right → left = right
  fresh : ∀ name ∈ namesOf after, source name ∉ namesOf data →
    ∀ pair ∈ ledger.seen, pair.2 ≠ getAccountStorageId strOf after name
  apart : ∀ left ∈ namesOf after, ∀ right ∈ namesOf after, source left ∉ namesOf data →
    source right ∉ namesOf data →
    getAccountStorageId strOf after left = getAccountStorageId strOf after right → left = right

theorem ownerOf_old (hsound : ledger.Sound strOf data) {names : List String} {name : String}
    (hold : source name ∈ namesOf data) :
    ledger.owners (source name) = some (ledger.ownerOf source names name) := by
  obtain ⟨number, hnumber⟩ := Option.isSome_iff_exists.mp ((hsound.owned _).mpr hold)
  rw [Ledger.ownerOf, hnumber]
  rfl

theorem ownerOf_new (hsound : ledger.Sound strOf data) {names : List String} {name : String}
    (hnew : source name ∉ namesOf data) :
    ledger.ownerOf source names name = ledger.next + names.idxOf name := by
  unfold Ledger.ownerOf
  cases howner : ledger.owners (source name) with
  | none => rfl
  | some number =>
    have hsome := (hsound.owned (source name)).mp (by rw [howner]; rfl)
    exact absurd hsome hnew

theorem mem_names_observe {name : String} :
    ((ledger.observe strOf source after).owners name).isSome = true ↔ name ∈ namesOf after := by
  simp only [Ledger.observe]
  split
  · exact iff_of_true rfl ‹_›
  · exact iff_of_false nofun ‹_›

theorem owners_observe {name : String} {number : ℕ}
    (howner : (ledger.observe strOf source after).owners name = some number) :
    name ∈ namesOf after ∧ ledger.ownerOf source (namesOf after) name = number := by
  simp only [Ledger.observe] at howner
  split at howner
  · exact ⟨‹_›, Option.some.inj howner⟩
  · cases howner

theorem seen_or_new (hsound : ledger.Sound strOf data)
    (hfollows : Follows ledger strOf data source after) {pair : ℕ × String}
    (hpair : pair ∈ (ledger.observe strOf source after).seen) :
    pair ∈ ledger.seen ∨ ∃ name ∈ namesOf after, source name ∉ namesOf data ∧
      pair = (ledger.next + (namesOf after).idxOf name, getAccountStorageId strOf after name) := by
  rcases List.mem_append.mp hpair with hseen | hnow
  · exact .inl hseen
  · obtain ⟨name, hname, rfl⟩ := List.mem_map.mp hnow
    by_cases hold : source name ∈ namesOf data
    · left
      have howner : ledger.owners (source name) =
          some (ledger.ownerOf source (namesOf after) name) := ownerOf_old hsound hold
      have hseen := hsound.current _ _ howner
      rw [← hfollows.kept name hname hold] at hseen
      exact hseen
    · right
      rw [ownerOf_new hsound hold]
      exact ⟨name, hname, hold, rfl⟩

theorem number_old_or_new (hsound : ledger.Sound strOf data) {name : String} {number : ℕ}
    (hname : name ∈ namesOf after) (hnumber : ledger.ownerOf source (namesOf after) name = number) :
    (source name ∈ namesOf data ∧ ledger.owners (source name) = some number ∧
        number < ledger.next) ∨
      (source name ∉ namesOf data ∧ number = ledger.next + (namesOf after).idxOf name ∧
        number < ledger.next + (namesOf after).length) := by
  by_cases hold : source name ∈ namesOf data
  · left
    have howner : ledger.owners (source name) =
        some (ledger.ownerOf source (namesOf after) name) := ownerOf_old hsound hold
    rw [hnumber] at howner
    exact ⟨hold, howner, hsound.below _ _ howner⟩
  · right
    rw [ownerOf_new hsound hold] at hnumber
    have hindex := List.idxOf_lt_length_of_mem hname
    exact ⟨hold, hnumber.symm, by omega⟩

theorem Ledger.Sound.observe (hsound : ledger.Sound strOf data)
    (hfollows : Follows ledger strOf data source after) :
    (ledger.observe strOf source after).Sound strOf after where
  owned := fun _ => mem_names_observe
  injective := by
    intro left right number hleft hright
    obtain ⟨hleftMem, hleftNumber⟩ := owners_observe hleft
    obtain ⟨hrightMem, hrightNumber⟩ := owners_observe hright
    rcases number_old_or_new hsound hleftMem hleftNumber with
      ⟨hleftOld, hleftOwner, hleftLt⟩ | ⟨hleftNew, hleftEq, -⟩
    · rcases number_old_or_new hsound hrightMem hrightNumber with
        ⟨-, hrightOwner, -⟩ | ⟨-, hrightEq, -⟩
      · have hsource := hsound.injective _ _ _ hleftOwner hrightOwner
        exact hfollows.injective left hleftMem right hrightMem hleftOld hsource
      · omega
    · rcases number_old_or_new hsound hrightMem hrightNumber with
        ⟨-, -, hrightLt⟩ | ⟨-, hrightEq, -⟩
      · omega
      · have hindex : (namesOf after).idxOf left = (namesOf after).idxOf right := by omega
        exact (List.idxOf_inj hleftMem).mp hindex
  below := by
    intro name number howner
    obtain ⟨hmem, hnumber⟩ := owners_observe howner
    change number < ledger.next + (namesOf after).length
    rcases number_old_or_new hsound hmem hnumber with ⟨-, -, hlt⟩ | ⟨-, -, hlt⟩
    · omega
    · exact hlt
  seenBelow := by
    intro pair hpair
    change pair.1 < ledger.next + (namesOf after).length
    rcases seen_or_new hsound hfollows hpair with hseen | ⟨name, hname, -, rfl⟩
    · have hlt := hsound.seenBelow pair hseen
      omega
    · have hindex := List.idxOf_lt_length_of_mem hname
      omega
  current := by
    intro name number howner
    obtain ⟨hmem, rfl⟩ := owners_observe howner
    exact List.mem_append_right _ (List.mem_map_of_mem hmem)
  consistent := by
    intro left hleft right hright
    rcases seen_or_new hsound hfollows hleft with
      hleftSeen | ⟨leftName, hleftMem, hleftNew, rfl⟩
    · rcases seen_or_new hsound hfollows hright with
        hrightSeen | ⟨rightName, hrightMem, hrightNew, rfl⟩
      · exact hsound.consistent left hleftSeen right hrightSeen
      · have hlt := hsound.seenBelow left hleftSeen
        have hne := hfollows.fresh rightName hrightMem hrightNew left hleftSeen
        exact iff_of_false (by dsimp only; omega) hne
    · rcases seen_or_new hsound hfollows hright with
        hrightSeen | ⟨rightName, hrightMem, hrightNew, rfl⟩
      · have hlt := hsound.seenBelow right hrightSeen
        have hne := hfollows.fresh leftName hleftMem hleftNew right hrightSeen
        exact iff_of_false (by dsimp only; omega) (Ne.symm hne)
      · constructor
        · intro hnumber
          have hindex : (namesOf after).idxOf leftName = (namesOf after).idxOf rightName := by
            omega
          rw [(List.idxOf_inj hleftMem).mp hindex]
        · intro hid
          have hsame := hfollows.apart leftName hleftMem rightName hrightMem hleftNew hrightNew hid
          rw [hsame]

end Ledgers

/-! ## Entries -/

def identityOf (strOf : PyValue → String) (accountName : String) (entry : Config) : String :=
  if storedId strOf entry = "" then accountName else storedId strOf entry

/-- The names are the same, and the identities are. -/
structure SameIdentities (strOf : PyValue → String) (left right : Data) : Prop where
  names : ∀ name, name ∈ namesOf left ↔ name ∈ namesOf right
  identities : ∀ name, getAccountStorageId strOf left name = getAccountStorageId strOf right name

section Entries

variable {ledger : Ledger} {strOf : PyValue → String} {data after left right : Data}
variable {name accountName : String} {entry : Config}

theorem mem_namesOf_setEntry :
    name ∈ namesOf (setEntry data accountName entry) ↔ name ∈ namesOf data ∨ name = accountName := by
  rw [namesOf, setEntry, accountsOf_withAccounts]
  exact Dict.mem_keyList_setItem.trans or_comm

theorem mem_namesOf_removeEntry :
    name ∈ namesOf (removeEntry data accountName) ↔ name ∈ namesOf data ∧ name ≠ accountName := by
  rw [namesOf, removeEntry, accountsOf_withAccounts]
  exact Dict.mem_keyList_popItem

theorem mem_namesOf_of_entryOf (hentry : entryOf data accountName = some entry) :
    accountName ∈ namesOf data := by
  unfold entryOf at hentry
  split at hentry
  · rename_i found hget
    exact Dict.mem_keyList_of_getItem hget
  · cases hentry

theorem storageId_of_entryOf (hentry : entryOf data accountName = some entry) :
    getAccountStorageId strOf data accountName = identityOf strOf accountName entry := by
  rw [getAccountStorageId, hentry]
  rfl

theorem storageId_of_no_entry (hentry : entryOf data accountName = none) :
    getAccountStorageId strOf data accountName = accountName := by
  rw [getAccountStorageId, hentry]

theorem storageId_congr (hsame : (accountsOf left).getItem name = (accountsOf right).getItem name) :
    getAccountStorageId strOf left name = getAccountStorageId strOf right name := by
  unfold getAccountStorageId entryOf
  rw [hsame]

theorem storageId_setEntry_self :
    getAccountStorageId strOf (setEntry data accountName entry) accountName =
      identityOf strOf accountName entry := by
  apply storageId_of_entryOf
  rw [entryOf, setEntry, accountsOf_withAccounts, Dict.getItem_setItem_self]

theorem storageId_setEntry_of_ne (hne : name ≠ accountName) :
    getAccountStorageId strOf (setEntry data accountName entry) name =
      getAccountStorageId strOf data name := by
  apply storageId_congr
  rw [setEntry, accountsOf_withAccounts, Dict.getItem_setItem_of_ne _ _ hne]

theorem storageId_removeEntry_of_ne (hne : name ≠ accountName) :
    getAccountStorageId strOf (removeEntry data accountName) name =
      getAccountStorageId strOf data name := by
  apply storageId_congr
  rw [removeEntry, accountsOf_withAccounts, Dict.getItem_popItem_of_ne _ hne]

/-! ## What the edits of entries do to the accounts -/

theorem SameIdentities.refl : SameIdentities strOf data data :=
  ⟨fun _ => .rfl, fun _ => rfl⟩

theorem SameIdentities.symm (hsame : SameIdentities strOf left right) :
    SameIdentities strOf right left :=
  ⟨fun name => (hsame.names name).symm, fun name => (hsame.identities name).symm⟩

theorem SameIdentities.trans (hfirst : SameIdentities strOf left data)
    (hsecond : SameIdentities strOf data right) : SameIdentities strOf left right :=
  ⟨fun name => (hfirst.names name).trans (hsecond.names name),
    fun name => (hfirst.identities name).trans (hsecond.identities name)⟩

theorem Ledger.Sound.of_same (hsound : ledger.Sound strOf left)
    (hsame : SameIdentities strOf left right) : ledger.Sound strOf right where
  owned := fun name => (hsound.owned name).trans (hsame.names name)
  injective := hsound.injective
  below := hsound.below
  seenBelow := hsound.seenBelow
  current := by
    intro name number howner
    rw [← hsame.identities name]
    exact hsound.current name number howner
  consistent := hsound.consistent

theorem follows_of_same {source : String → String} (hsame : SameIdentities strOf after data)
    (hsource : ∀ name ∈ namesOf after, source name = name) :
    Follows ledger strOf data source after where
  kept := by
    intro name hname _
    rw [hsource name hname]
    exact hsame.identities name
  injective := by
    intro left hleft right hright _ hsources
    rw [hsource left hleft, hsource right hright] at hsources
    exact hsources
  fresh := by
    intro name hname hnew
    rw [hsource name hname] at hnew
    exact absurd ((hsame.names name).mp hname) hnew
  apart := by
    intro left hleft _ _ hnew
    rw [hsource left hleft] at hnew
    exact absurd ((hsame.names left).mp hleft) hnew

theorem same_setEntry (hname : accountName ∈ namesOf data)
    (hid : identityOf strOf accountName entry = getAccountStorageId strOf data accountName) :
    SameIdentities strOf (setEntry data accountName entry) data where
  names := by
    intro name
    rw [mem_namesOf_setEntry]
    constructor
    · rintro (hold | rfl)
      · exact hold
      · exact hname
    · exact .inl
  identities := by
    intro name
    by_cases hne : name = accountName
    · rw [hne, storageId_setEntry_self, hid]
    · exact storageId_setEntry_of_ne hne

def Ledger.Unseen (ledger : Ledger) (identity : String) : Prop :=
  ∀ pair ∈ ledger.seen, pair.2 ≠ identity

theorem follows_setEntry (hname : accountName ∉ namesOf data)
    (hfresh : ledger.Unseen (identityOf strOf accountName entry)) :
    Follows ledger strOf data id (setEntry data accountName entry) where
  kept := by
    intro name _ hold
    have hne : name ≠ accountName := by
      rintro rfl
      exact hname hold
    exact storageId_setEntry_of_ne hne
  injective := fun _ _ _ _ _ hsources => hsources
  fresh := by
    intro name hafter hnew
    rcases mem_namesOf_setEntry.mp hafter with hold | rfl
    · exact absurd hold hnew
    · rw [storageId_setEntry_self]
      exact hfresh
  apart := by
    intro left hleft right hright hleftNew hrightNew _
    rcases mem_namesOf_setEntry.mp hleft with hold | rfl
    · exact absurd hold hleftNew
    · rcases mem_namesOf_setEntry.mp hright with hold | rfl
      · exact absurd hold hrightNew
      · rfl

theorem follows_removeEntry : Follows ledger strOf data id (removeEntry data accountName) where
  kept := fun _ hafter _ => storageId_removeEntry_of_ne (mem_namesOf_removeEntry.mp hafter).2
  injective := fun _ _ _ _ _ hsources => hsources
  fresh := fun _ hafter hnew => absurd (mem_namesOf_removeEntry.mp hafter).1 hnew
  apart := fun _ hleft _ _ hnew => absurd (mem_namesOf_removeEntry.mp hleft).1 hnew

theorem follows_rename {oldName newName : String} {source : String → String}
    (hsource : ∀ name, source name = if name = newName then oldName else name)
    (hold : oldName ∈ namesOf data) (hnew : newName ∉ namesOf data)
    (hid : identityOf strOf newName entry = getAccountStorageId strOf data oldName) :
    Follows ledger strOf data source (setEntry (removeEntry data oldName) newName entry) := by
  have hafter : ∀ name ∈ namesOf (setEntry (removeEntry data oldName) newName entry),
      name = newName ∧ source name = oldName ∨
        name ≠ newName ∧ name ≠ oldName ∧ source name = name ∧ name ∈ namesOf data := by
    intro name hname
    rw [hsource]
    rcases mem_namesOf_setEntry.mp hname with hkept | rfl
    · obtain ⟨hmem, hne⟩ := mem_namesOf_removeEntry.mp hkept
      have hneNew : name ≠ newName := by
        rintro rfl
        exact hnew hmem
      exact .inr ⟨hneNew, hne, if_neg hneNew, hmem⟩
    · exact .inl ⟨rfl, if_pos rfl⟩
  have hall : ∀ name ∈ namesOf (setEntry (removeEntry data oldName) newName entry),
      source name ∈ namesOf data := by
    intro name hname
    rcases hafter name hname with ⟨-, hsourced⟩ | ⟨-, -, hsourced, hmem⟩
    · rw [hsourced]
      exact hold
    · rw [hsourced]
      exact hmem
  refine ⟨?_, ?_, fun name hname habsent => absurd (hall name hname) habsent,
    fun left hleft _ _ habsent => absurd (hall left hleft) habsent⟩
  · intro name hname _
    rcases hafter name hname with ⟨rfl, hsourced⟩ | ⟨hneNew, hneOld, hsourced, -⟩
    · rw [hsourced, storageId_setEntry_self, hid]
    · rw [hsourced, storageId_setEntry_of_ne hneNew, storageId_removeEntry_of_ne hneOld]
  · intro left hleft right hright _ hsources
    rcases hafter left hleft with ⟨rfl, hleftSource⟩ | ⟨-, hleftOld, hleftSource, -⟩
    · rcases hafter right hright with ⟨rfl, -⟩ | ⟨-, hrightOld, hrightSource, -⟩
      · rfl
      · rw [hleftSource, hrightSource] at hsources
        exact absurd hsources.symm hrightOld
    · rcases hafter right hright with ⟨rfl, hrightSource⟩ | ⟨-, -, hrightSource, -⟩
      · rw [hleftSource, hrightSource] at hsources
        exact absurd hsources hleftOld
      · rw [hleftSource, hrightSource] at hsources
        exact hsources

end Entries

/-! ## Calls with care for identities -/

def Accepted (surroundings : Surroundings) (sessionString : String) : Prop :=
  surroundings.isValidSessionString (pyStrip sessionString) = true ∧
    (surroundings.encryptSecret (pyStrip sessionString)).isOk = true

def KeepsIdentities (ledger : Ledger) (strOf : PyValue → String) (surroundings : Surroundings)
    (data : Data) : Change → Prop
  | .setSessionString accountName sessionString =>
    (∃ entry, entryOf data accountName = some entry ∧
      (Dict.hasKey entry "storage_id" = true ∨ pyStrip accountName = accountName)) ∨
    (accountName ∉ namesOf data ∧ (Accepted surroundings sessionString →
      surroundings.writeFails = false ∧ pyStrip surroundings.freshId = surroundings.freshId ∧
        surroundings.freshId ≠ "" ∧ ledger.Unseen surroundings.freshId))
  | .deleteSessionString accountName =>
    accountName ∈ namesOf data → surroundings.writeFails = false
  | .renameEntry oldName newName =>
    oldName = newName ∨ oldName ∉ namesOf data ∨
      (newName ∉ namesOf data ∧ surroundings.writeFails = false ∧
        ∃ entry, entryOf data oldName = some entry ∧ storedId strOf entry ≠ "")
  | .setProfile accountName _ | .setStatus accountName _ =>
    accountName ∈ namesOf data ∨ (surroundings.writeFails = false ∧ ledger.Unseen accountName)

def sourceOf (data : Data) (operation : Operation) (name : String) : String :=
  match operation with
  | .change (.renameEntry oldName newName) =>
    if newName ∈ namesOf data then name else if name = newName then oldName else name
  | _ => name

section Changes

variable {ledger : Ledger} {strOf : PyValue → String} {surroundings : Surroundings}
variable {data : Data} {name accountName key : String} {entry : Config}

theorem storedId_congr {left right : Config}
    (hsame : Dict.getItem left "storage_id" = Dict.getItem right "storage_id") :
    storedId strOf left = storedId strOf right := by
  unfold storedId getEntry
  rw [hsame]

theorem storedId_setItem (value : PyValue) (hkey : "storage_id" ≠ key) :
    storedId strOf (Dict.setItem entry key value) = storedId strOf entry :=
  storedId_congr (Dict.getItem_setItem_of_ne _ _ hkey)

theorem storedId_setSome (value : Option PyValue) (hkey : "storage_id" ≠ key) :
    storedId strOf (setSome entry key value) = storedId strOf entry := by
  cases value with
  | none => rfl
  | some value => exact storedId_setItem value hkey

theorem storedId_popItem (hkey : "storage_id" ≠ key) :
    storedId strOf (Dict.popItem entry key) = storedId strOf entry :=
  storedId_congr (Dict.getItem_popItem_of_ne _ hkey)

theorem identityOf_getD (hstored : storedId strOf entry =
    storedId strOf ((entryOf data accountName).getD [])) :
    identityOf strOf accountName entry = getAccountStorageId strOf data accountName := by
  cases hentry : entryOf data accountName with
  | none =>
    rw [hentry] at hstored
    rw [storageId_of_no_entry hentry]
    exact if_pos hstored
  | some found =>
    rw [hentry] at hstored
    rw [storageId_of_entryOf hentry]
    rw [identityOf, hstored]
    rfl

theorem identityOf_setDefault
    (hsafe : Dict.hasKey entry "storage_id" = true ∨ pyStrip accountName = accountName) :
    identityOf strOf accountName (setDefault entry "storage_id" (.str accountName)) =
      identityOf strOf accountName entry := by
  unfold setDefault
  by_cases hkey : Dict.hasKey entry "storage_id" = true
  · rw [if_pos hkey]
  · rw [if_neg hkey]
    have hstrip := hsafe.resolve_left hkey
    have hnone : Dict.getItem entry "storage_id" = none := by
      simpa [Dict.hasKey] using hkey
    have hempty : storedId strOf entry = "" := by
      unfold storedId getEntry
      rw [hnone]
      rfl
    unfold identityOf
    rw [if_pos hempty]
    split
    · rfl
    · unfold storedId getEntry
      rw [Dict.getItem_setItem_self]
      dsimp only [Option.getD_some]
      split
      · exact hstrip
      · rename_i hfalse
        have hname : accountName = "" := by
          simpa [ChainedRuns.isTrue] using hfalse
        rw [hname]

/-- The attempt leaves the names and the identities, or what it saves follows. -/
def Faithful (ledger : Ledger) (strOf : PyValue → String) (surroundings : Surroundings)
    (data : Data) (source : String → String) (attempt : Attempt) : Prop :=
  SameIdentities strOf attempt.data data ∨
    (attempt.ending = .saves ∧ surroundings.writeFails = false ∧
      Follows ledger strOf data source attempt.data)

theorem faithful_setSessionString {sessionString : String}
    (hsafe : KeepsIdentities ledger strOf surroundings data
      (.setSessionString accountName sessionString)) :
    Faithful ledger strOf surroundings data id
      (setAccountSessionString surroundings data accountName sessionString) := by
  rcases hsafe with ⟨entry, hentry, hkept⟩ | ⟨habsent, hfresh⟩
  · left
    have hname := mem_namesOf_of_entryOf hentry
    have hdefault : identityOf strOf accountName
        (setDefault entry "storage_id" (.str accountName)) =
          getAccountStorageId strOf data accountName := by
      rw [identityOf_setDefault hkept, storageId_of_entryOf hentry]
    have hprepared := same_setEntry hname hdefault
    rw [setAccountSessionString, hentry]
    dsimp only [Option.isSome_some, if_true]
    split
    · exact hprepared
    · cases surroundings.encryptSecret (pyStrip sessionString) with
      | error error => exact hprepared
      | ok stored =>
        apply same_setEntry hname
        rw [identityOf, storedId_setItem _ (by decide), storedId_setItem _ (by decide)]
        exact hdefault
  · have hentry : entryOf data accountName = none := by
      cases hfound : entryOf data accountName with
      | none => rfl
      | some entry => exact absurd (mem_namesOf_of_entryOf hfound) habsent
    rw [setAccountSessionString, hentry]
    dsimp only [Option.isSome_none]
    split
    · exact .inl .refl
    · rename_i hvalid
      cases hstored : surroundings.encryptSecret (pyStrip sessionString) with
      | error error => exact .inl .refl
      | ok stored =>
        obtain ⟨hwrites, hstrip, hempty, hunseen⟩ :=
          hfresh ⟨not_not.mp hvalid, by rw [hstored]; rfl⟩
        have hid : storedId strOf [("storage_id", PyValue.str surroundings.freshId)] =
            surroundings.freshId := by
          have htrue : ChainedRuns.isTrue (.str surroundings.freshId) = true := by
            simpa [ChainedRuns.isTrue] using hempty
          exact (if_pos htrue).trans hstrip
        refine .inr ⟨rfl, hwrites, follows_setEntry habsent ?_⟩
        unfold identityOf
        rw [storedId_setItem _ (by decide), storedId_setItem _ (by decide), hid, if_neg hempty]
        exact hunseen

theorem faithful_delete
    (hsafe : KeepsIdentities ledger strOf surroundings data (.deleteSessionString accountName)) :
    Faithful ledger strOf surroundings data id (deleteAccountSessionString data accountName) := by
  unfold deleteAccountSessionString
  split
  · rename_i hkey
    have hname := (Dict.hasKey_iff_mem_keyList _ _).mp hkey
    exact .inr ⟨rfl, hsafe hname, follows_removeEntry⟩
  · exact .inl .refl

theorem faithful_rename {oldName newName : String} (hne : oldName ≠ newName)
    (hsafe : KeepsIdentities ledger strOf surroundings data (.renameEntry oldName newName)) :
    Faithful ledger strOf surroundings data (sourceOf data (.change (.renameEntry oldName newName)))
      (renameAccountEntry surroundings data oldName newName) := by
  rcases hsafe with hsame | habsent | ⟨hnew, hwrites, entry, hentry, hstored⟩
  · exact absurd hsame hne
  · have hnone : (accountsOf data).getItem oldName = none := by
      by_contra hsome
      obtain ⟨value, hvalue⟩ := Option.ne_none_iff_exists'.mp hsome
      exact habsent (Dict.mem_keyList_of_getItem hvalue)
    unfold renameAccountEntry
    rw [hnone]
    exact .inl .refl
  · have hvalue : (accountsOf data).getItem oldName = some (.dict entry) := by
      unfold entryOf at hentry
      split at hentry
      · rename_i found hget
        rw [hget, Option.some.inj hentry]
      · cases hentry
    have hfree : (accountsOf (removeEntry data oldName)).hasKey newName = false := by
      apply Bool.eq_false_iff.mpr
      intro hkey
      have hmem := (Dict.hasKey_iff_mem_keyList _ _).mp hkey
      exact hnew (mem_namesOf_removeEntry.mp hmem).1
    unfold renameAccountEntry
    rw [hvalue]
    dsimp only
    rw [hfree]
    refine .inr ⟨rfl, hwrites,
      follows_rename (fun _ => if_neg hnew) (mem_namesOf_of_entryOf hentry) hnew ?_⟩
    rw [storageId_of_entryOf hentry]
    unfold identityOf
    rw [storedId_setItem _ (by decide), if_neg hstored, if_neg hstored]

theorem faithful_setEntry
    (hsafe : accountName ∈ namesOf data ∨
      (surroundings.writeFails = false ∧ ledger.Unseen accountName))
    (hstored : storedId strOf entry = storedId strOf ((entryOf data accountName).getD [])) :
    Faithful ledger strOf surroundings data id
      { data := setEntry data accountName entry, ending := .saves } := by
  have hid := identityOf_getD hstored
  by_cases hname : accountName ∈ namesOf data
  · exact .inl (same_setEntry hname hid)
  · obtain ⟨hwrites, hunseen⟩ := hsafe.resolve_left hname
    refine .inr ⟨rfl, hwrites, follows_setEntry hname ?_⟩
    have hnone : entryOf data accountName = none := by
      cases hfound : entryOf data accountName with
      | none => rfl
      | some entry => exact absurd (mem_namesOf_of_entryOf hfound) hname
    rw [hid, storageId_of_no_entry hnone]
    exact hunseen

theorem faithful_attempt {change : Change} (hne : ∀ name, change ≠ .renameEntry name name)
    (hsafe : KeepsIdentities ledger strOf surroundings data change) :
    Faithful ledger strOf surroundings data (sourceOf data (.change change))
      (attempt surroundings data change) := by
  cases change with
  | setSessionString accountName sessionString => exact faithful_setSessionString hsafe
  | deleteSessionString accountName => exact faithful_delete hsafe
  | renameEntry oldName newName =>
    refine faithful_rename ?_ hsafe
    rintro rfl
    exact hne oldName rfl
  | setProfile accountName changes =>
    refine faithful_setEntry hsafe ?_
    rw [storedId_setItem _ (by decide), storedId_setSome _ (by decide),
      storedId_setSome _ (by decide), storedId_setSome _ (by decide),
      storedId_setSome _ (by decide), storedId_setSome _ (by decide),
      storedId_setSome _ (by decide)]
  | setStatus accountName change =>
    refine faithful_setEntry hsafe ?_
    rw [storedId_setItem _ (by decide)]
    split
    · rw [storedId_popItem (by decide), storedId_setSome _ (by decide),
        storedId_setItem _ (by decide), storedId_setItem _ (by decide),
        storedId_setItem _ (by decide), storedId_setItem _ (by decide),
        storedId_setItem _ (by decide)]
    · rw [storedId_setSome _ (by decide),
        storedId_setItem _ (by decide), storedId_setItem _ (by decide),
        storedId_setItem _ (by decide), storedId_setItem _ (by decide),
        storedId_setItem _ (by decide)]

end Changes

/-! ## Runs -/

/-- What a call finds, unless it reads the file again. -/
def State.viewed (state : State) : Data :=
  match state.cache with
  | some (_, data) => data
  | none => state.file.data

/-- The store of a running process, and what has been seen of its accounts. -/
structure Tracked where
  state : State
  ledger : Ledger

/-- The accounts are looked at when the process starts. -/
def Tracked.begin (strOf : PyValue → String) (state : State) : Tracked where
  state := state
  ledger := ({} : Ledger).observe strOf id state.viewed

/-- The accounts are looked at after every call. -/
def trackedStep (strOf : PyValue → String) (tracked : Tracked) (call : Call) : Option Tracked :=
  let next := (tracked.state.call call).1
  some
    { state := next
      ledger := tracked.ledger.observe strOf
        (sourceOf (tracked.state.load call.surroundings).2 call.operation) next.viewed }

def IdSafe (strOf : PyValue → String) (tracked : Tracked) (call : Call) : Prop :=
  match call.operation with
  | .change change => KeepsIdentities tracked.ledger strOf call.surroundings
      (tracked.state.load call.surroundings).2 change
  | .query _ => True

section Runs

variable {strOf : PyValue → String} {state loaded : State} {surroundings : Surroundings}

/-- The ledger is sound, and the file has the names and identities that are seen. -/
structure Tracked.Good (strOf : PyValue → String) (tracked : Tracked) : Prop where
  sound : tracked.ledger.Sound strOf tracked.state.viewed
  same : SameIdentities strOf tracked.state.viewed tracked.state.file.data

theorem viewed_load : (state.load surroundings).1.viewed = (state.load surroundings).2 := by
  unfold State.load
  cases hcache : state.cache with
  | none => rfl
  | some hit =>
    dsimp only
    split
    · rw [State.viewed, hcache]
    · rfl

theorem cache_load :
    ∃ time, (state.load surroundings).1.cache = some (time, (state.load surroundings).2) := by
  unfold State.load
  cases hcache : state.cache with
  | none => exact ⟨surroundings.now, rfl⟩
  | some hit =>
    dsimp only
    split
    · exact ⟨hit.1, hcache⟩
    · exact ⟨surroundings.now, rfl⟩

theorem same_load (hsame : SameIdentities strOf state.viewed state.file.data) :
    SameIdentities strOf (state.load surroundings).2 (state.load surroundings).1.file.data ∧
      SameIdentities strOf (state.load surroundings).2 state.viewed := by
  have hreread : SameIdentities strOf state.file.data (state.file.afterRead surroundings).data := by
    rw [data_afterRead]
    exact .refl
  unfold State.load
  cases hcache : state.cache with
  | none => exact ⟨hreread, hsame.symm⟩
  | some hit =>
    have hviewed : state.viewed = hit.2 := by
      rw [State.viewed, hcache]
    dsimp only
    split
    · rw [← hviewed]
      exact ⟨hsame, .refl⟩
    · exact ⟨hreread, hsame.symm⟩

theorem data_saved (data : Data) (accounts : Dict String PyValue) :
    (StoreFile.json (.dict (withAccounts data accounts))).data = withAccounts data accounts := by
  simp only [StoreFile.data]
  rw [withAccounts, Dict.getItem_setItem_self]

theorem data_saved_attempt {data : Data} {change : Change}
    (hending : (attempt surroundings data change).ending = .saves) :
    (StoreFile.json (.dict (attempt surroundings data change).data)).data =
      (attempt surroundings data change).data := by
  cases change with
  | setSessionString accountName sessionString =>
    simp only [attempt, setAccountSessionString] at hending ⊢
    split at hending
    · cases hending
    · rename_i hvalid
      rw [if_neg hvalid]
      cases hstored : surroundings.encryptSecret (pyStrip sessionString) with
      | error error =>
        rw [hstored] at hending
        cases hending
      | ok stored => exact data_saved _ _
  | deleteSessionString accountName =>
    simp only [attempt, deleteAccountSessionString] at hending ⊢
    split at hending
    · rename_i hkey
      rw [if_pos hkey]
      exact data_saved _ _
    · cases hending
  | renameEntry oldName newName =>
    simp only [attempt, renameAccountEntry] at hending ⊢
    cases hvalue : (accountsOf data).getItem oldName with
    | none =>
      rw [hvalue] at hending
      cases hending
    | some value =>
      rw [hvalue] at hending
      cases value with
      | none => cases hending
      | _ =>
        dsimp only at hending ⊢
        split at hending
        · cases hending
        · rename_i hfree
          rw [if_neg hfree]
          exact data_saved _ _
  | setProfile accountName changes => exact data_saved _ _
  | setStatus accountName change => exact data_saved _ _

theorem finish_faithful {ledger : Ledger} {data : Data} {source : String → String}
    {attempt : Attempt} (hcache : ∃ time, loaded.cache = some (time, data))
    (hsame : SameIdentities strOf data loaded.file.data)
    (hsource : ∀ name ∈ namesOf data, source name = name)
    (hsaved : attempt.ending = .saves → (StoreFile.json (.dict attempt.data)).data = attempt.data)
    (hfaithful : Faithful ledger strOf surroundings data source attempt) :
    Follows ledger strOf data source (loaded.finish surroundings attempt).1.viewed ∧
      SameIdentities strOf (loaded.finish surroundings attempt).1.viewed
        (loaded.finish surroundings attempt).1.file.data := by
  obtain ⟨time, hhit⟩ := hcache
  have hfollows : Follows ledger strOf data source attempt.data := by
    rcases hfaithful with hkept | ⟨-, -, hfollows⟩
    · exact follows_of_same hkept fun name hname => hsource name ((hkept.names name).mp hname)
    · exact hfollows
  have hunsaved : ¬(attempt.ending = .saves ∧ surroundings.writeFails = false) →
      SameIdentities strOf attempt.data loaded.file.data := by
    intro hnot
    rcases hfaithful with hkept | ⟨hending, hwrites, -⟩
    · exact hkept.trans hsame
    · exact absurd ⟨hending, hwrites⟩ hnot
  have hedited : ({ loaded with cache := loaded.cache.map fun hit => (hit.1, attempt.data) } :
      State).viewed = attempt.data := by
    rw [State.viewed, hhit]
    rfl
  unfold State.finish
  cases hending : attempt.ending with
  | raises error =>
    rw [hedited]
    exact ⟨hfollows, hunsaved fun hboth => by rw [hending] at hboth; cases hboth.1⟩
  | returns =>
    rw [hedited]
    exact ⟨hfollows, hunsaved fun hboth => by rw [hending] at hboth; cases hboth.1⟩
  | saves =>
    dsimp only
    split
    · rename_i hfails
      rw [hedited]
      refine ⟨hfollows, hunsaved fun hboth => ?_⟩
      rw [hfails] at hboth
      cases hboth.2
    · have hviewed : ({ file := .json (.dict attempt.data), cache := none } : State).viewed =
          attempt.data := hsaved hending
      rw [hviewed]
      refine ⟨hfollows, ?_⟩
      rw [hsaved hending]
      exact .refl

theorem sourceOf_of_mem {data : Data} {operation : Operation} {name : String}
    (hname : name ∈ namesOf data) : sourceOf data operation name = name := by
  unfold sourceOf
  split
  · split
    · rfl
    · rename_i hnew
      apply if_neg
      rintro rfl
      exact hnew hname
  · rfl

/-- A call with care shows accounts that follow those it found. -/
theorem follows_call {ledger : Ledger} {call : Call}
    (hsame : SameIdentities strOf state.viewed state.file.data)
    (hsafe : IdSafe strOf ⟨state, ledger⟩ call) :
    Follows ledger strOf (state.load call.surroundings).2
        (sourceOf (state.load call.surroundings).2 call.operation) (state.call call).1.viewed ∧
      SameIdentities strOf (state.call call).1.viewed (state.call call).1.file.data := by
  obtain ⟨surroundings, operation⟩ := call
  obtain ⟨hfile, hfound⟩ : SameIdentities strOf (state.load surroundings).2 _ ∧ _ :=
    same_load hsame
  cases operation with
  | query query =>
    change Follows ledger strOf _ _ (state.load surroundings).1.viewed ∧
      SameIdentities strOf (state.load surroundings).1.viewed (state.load surroundings).1.file.data
    rw [viewed_load]
    exact ⟨follows_of_same .refl fun name hname => sourceOf_of_mem hname, hfile⟩
  | change change =>
    have hfinish (hne : ∀ name, change ≠ .renameEntry name name) := finish_faithful cache_load hfile
      (fun name hname => sourceOf_of_mem hname) data_saved_attempt (faithful_attempt hne hsafe)
    cases change with
    | renameEntry oldName newName =>
      simp only [State.call, State.change]
      split
      · refine ⟨follows_of_same hfound.symm fun name hname => ?_, hsame⟩
        exact sourceOf_of_mem ((hfound.names name).mpr hname)
      · rename_i hne
        apply hfinish
        intro name hname
        obtain ⟨hold, hnew⟩ := Change.renameEntry.inj hname
        exact hne (hold.trans hnew.symm)
    | setSessionString accountName sessionString => exact hfinish fun _ heq => by cases heq
    | deleteSessionString accountName => exact hfinish fun _ heq => by cases heq
    | setProfile accountName changes => exact hfinish fun _ heq => by cases heq
    | setStatus accountName change => exact hfinish fun _ heq => by cases heq

theorem Tracked.Good.step {tracked next : Tracked} {call : Call} (hgood : tracked.Good strOf)
    (hsafe : IdSafe strOf tracked call) (hstep : trackedStep strOf tracked call = some next) :
    next.Good strOf := by
  cases hstep
  obtain ⟨hfollows, hsame⟩ := follows_call hgood.same hsafe
  obtain ⟨-, hfound⟩ : SameIdentities strOf (tracked.state.load call.surroundings).2 _ ∧ _ :=
    same_load hgood.same
  exact ⟨(hgood.sound.of_same hfound.symm).observe hfollows, hsame⟩

theorem Ledger.Sound.empty : ({} : Ledger).Sound strOf [] where
  owned := fun _ => iff_of_false nofun (List.not_mem_nil)
  injective := nofun
  below := nofun
  seenBelow := nofun
  current := nofun
  consistent := nofun

theorem Tracked.Good.begin (hcache : state.cache = none)
    (hdistinct : ∀ left ∈ namesOf state.file.data, ∀ right ∈ namesOf state.file.data,
      getAccountStorageId strOf state.file.data left =
        getAccountStorageId strOf state.file.data right → left = right) :
    (Tracked.begin strOf state).Good strOf := by
  have hviewed : state.viewed = state.file.data := by
    rw [State.viewed, hcache]
  have hfollows : Follows {} strOf [] id state.viewed := by
    rw [hviewed]
    exact ⟨fun _ _ hold => absurd hold List.not_mem_nil, fun _ _ _ _ _ hsources => hsources,
      nofun, fun left hleft right hright _ _ => hdistinct left hleft right hright⟩
  refine ⟨Ledger.Sound.empty.observe hfollows, ?_⟩
  change SameIdentities strOf state.viewed _
  rw [hviewed]
  exact .refl

end Runs

/-- In a run with care, from accounts that have different identities, an identity stays with
its account and with no other. -/
theorem identities_consistent {strOf : PyValue → String} {start : State} {calls : List Call}
    {last : Tracked} (hcache : start.cache = none)
    (hdistinct : ∀ left ∈ namesOf start.file.data, ∀ right ∈ namesOf start.file.data,
      getAccountStorageId strOf start.file.data left =
        getAccountStorageId strOf start.file.data right → left = right)
    (hrun : StepRun (trackedStep strOf) (IdSafe strOf) (Tracked.begin strOf start) calls last) :
    Consistent last.ledger.seen := by
  have hgood : last.Good strOf :=
    hrun.invariant (Tracked.Good strOf) (fun _ _ _ hcurrent hsafe hstep =>
      hcurrent.step hsafe hstep) (.begin hcache hdistinct)
  exact hgood.sound.consistent

def seenIn (strOf : PyValue → String) (start : State) (calls : List Call) : List (ℕ × String) :=
  match replay (trackedStep strOf) (fun _ _ => true) (Tracked.begin strOf start) calls with
  | some last => last.ledger.seen
  | none => []

/-- An account with a storage id and a legacy one. -/
def mixedAccounts : State :=
  { file := .json (.dict [("accounts", .dict
      [("first", .dict [("storage_id", .str "a1")]), ("legacy", .dict [])])]) }

def renameFirst : Call where
  surroundings := {}
  operation := .change (.renameEntry "first" "third")

/-- A new account takes the name that is free now. -/
def signInAsFirst : Call where
  surroundings := { freshId := "c3" }
  operation := .change (.setSessionString "first" "session")

theorem identities_after_rename :
    Consistent (seenIn (fun _ => "") mixedAccounts [renameFirst, signInAsFirst]) := by
  refine @identities_consistent _ mixedAccounts _ _ rfl ?_ (.act ?_ rfl (.act ?_ rfl (.done _)))
  · decide
  · refine .inr (.inr ⟨?_, rfl, [("storage_id", .str "a1")], rfl, ?_⟩)
    · decide
    · decide
  · refine .inr ⟨?_, fun _ => ⟨rfl, ?_, ?_, ?_⟩⟩
    · decide
    · decide
    · decide
    · unfold Ledger.Unseen
      decide

/-- The status of a check that ends after its account has been deleted. -/
def lateStatus : Call where
  surroundings := {}
  operation := .change (.setStatus "legacy" { status := "connected" })

def deleteLegacy : Call where
  surroundings := {}
  operation := .change (.deleteSessionString "legacy")

def renameLegacy : Call where
  surroundings := {}
  operation := .change (.renameEntry "legacy" "renamed")

/-- An account that is created again by a status has the identity of the one that was deleted,
and a legacy account loses its identity with its name. -/
theorem identity_inherited_and_lost :
    (¬∀ (strOf : PyValue → String) (start : State) (calls : List Call), start.cache = none →
      (∀ left ∈ namesOf start.file.data, ∀ right ∈ namesOf start.file.data,
        getAccountStorageId strOf start.file.data left =
          getAccountStorageId strOf start.file.data right → left = right) →
      Consistent (seenIn strOf start calls)) ∧
    ¬Consistent (seenIn (fun _ => "") mixedAccounts [renameLegacy]) := by
  refine ⟨fun hall => ?_, fun hconsistent => ?_⟩
  · have hconsistent := hall (fun _ => "") mixedAccounts [deleteLegacy, lateStatus] rfl (by decide)
    unfold Consistent at hconsistent
    revert hconsistent
    decide
  · unfold Consistent at hconsistent
    revert hconsistent
    decide

end SignPulse.AccountStore
