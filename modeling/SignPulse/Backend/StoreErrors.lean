import SignPulse.Backend.AccountStore

/-!
# Calls that raise

A call on the account store that raises goes unnoticed afterwards, if no call has left an edit
in the cached dictionary without saving it: a rename to a name that is taken does, a session
string that is refused for an entry without a storage id, and a write that fails.
-/

namespace SignPulse.AccountStore

open Foundation
open FlowModels (PyError)
open ChainedRuns (Config)
open TaskConfigs (valueError)

def SavesEdits (surroundings : Surroundings) (data : Data) : Change → Prop
  | .setSessionString accountName sessionString =>
    (surroundings.isValidSessionString (pyStrip sessionString) = true ∧
      (surroundings.encryptSecret (pyStrip sessionString)).isOk = true) ∨
    ∀ entry, entryOf data accountName = some entry → Dict.hasKey entry "storage_id" = true
  | .renameEntry oldName newName =>
    oldName = newName ∨ (accountsOf data).hasKey oldName = false ∨
      ((accountsOf data).hasKey newName = false ∧ (accountsOf data).getItem oldName ≠ some .none)
  | _ => True

/-- The write succeeds, and edits are saved. -/
def Careful (state : State) (call : Call) : Prop :=
  match call.operation with
  | .change change => call.surroundings.writeFails = false ∧
      SavesEdits call.surroundings (state.load call.surroundings).2 change
  | .query _ => True

def step (state : State) (call : Call) : Option State :=
  some (state.call call).1

/-- What the calls return and save, one after another. -/
def outputs : State → List Call → List Output
  | _, [] => []
  | state, call :: rest => (state.call call).2 :: outputs (state.call call).1 rest

/-- The cached dictionary is what the file holds. -/
def Coherent (state : State) : Prop :=
  ∀ time data, state.cache = some (time, data) → data = state.file.data

section Errors

variable {state left right : State} {surroundings : Surroundings} {data : Data}

/-! ## Dictionaries -/

theorem setItem_of_getItem {κ ν : Type*} [DecidableEq κ] {d : Dict κ ν} {key : κ} {value : ν}
    (hget : d.getItem key = some value) : d.setItem key value = d := by
  induction d with
  | nil => cases hget
  | cons item rest ih =>
    obtain ⟨k, v⟩ := item
    rw [Dict.getItem_cons] at hget
    rw [Dict.setItem_cons]
    split
    · rename_i hk
      rw [if_pos hk] at hget
      rw [Option.some.inj hget]
    · rename_i hk
      rw [if_neg hk] at hget
      rw [ih hget]

theorem setEntry_of_entryOf {accountName : String} {entry : Config}
    (hentry : entryOf data accountName = some entry) : setEntry data accountName entry = data := by
  unfold entryOf at hentry
  split at hentry
  · rename_i found hget
    cases hentry
    rw [setEntry, setItem_of_getItem hget]
    unfold accountsOf at hget ⊢
    split at hget
    · rename_i accounts haccounts
      exact setItem_of_getItem haccounts
    · cases hget
  · cases hentry

theorem accountsOf_withAccounts (accounts : Dict String PyValue) :
    accountsOf (withAccounts data accounts) = accounts := by
  rw [accountsOf, withAccounts, Dict.getItem_setItem_self]

theorem hasKey_removeEntry {oldName newName : String}
    (habsent : (accountsOf data).hasKey newName = false) :
    (accountsOf (removeEntry data oldName)).hasKey newName = false := by
  rw [Bool.eq_false_iff] at habsent ⊢
  intro hkey
  apply habsent
  rw [Dict.hasKey_iff_mem_keyList] at hkey ⊢
  rw [removeEntry, accountsOf_withAccounts] at hkey
  exact (Dict.mem_keyList_popItem.mp hkey).1

/-! ## Loading -/

theorem data_afterRead (file : StoreFile) : (file.afterRead surroundings).data = file.data := by
  cases file with
  | missing => rfl
  | damaged =>
    simp only [StoreFile.afterRead]
    split
    · rfl
    · rfl
  | json value => rfl

theorem Coherent.load (hcoherent : Coherent state) (surroundings : Surroundings) :
    (state.load surroundings).2 = state.file.data ∧
      (state.load surroundings).1.file.data = state.file.data ∧
      Coherent (state.load surroundings).1 := by
  have hreread : Coherent
      { file := state.file.afterRead surroundings
        cache := some (surroundings.now, state.file.data) } := by
    intro time data hhit
    rw [data_afterRead]
    exact (Prod.mk.inj (Option.some.inj hhit)).2.symm
  unfold State.load
  cases hcache : state.cache with
  | none => exact ⟨rfl, data_afterRead _, hreread⟩
  | some hit =>
    obtain ⟨time, data⟩ := hit
    dsimp only
    split
    · exact ⟨hcoherent time data hcache, rfl, hcoherent⟩
    · exact ⟨rfl, data_afterRead _, hreread⟩

/-! ## Changes -/

theorem data_prepared {accountName : String}
    (hkey : ∀ entry, entryOf data accountName = some entry →
      Dict.hasKey entry "storage_id" = true) :
    (if (entryOf data accountName).isSome = true then
      setEntry data accountName
        (match entryOf data accountName with
        | some entry => setDefault entry "storage_id" (.str accountName)
        | none => [("storage_id", .str surroundings.freshId)])
      else data) = data := by
  cases hentry : entryOf data accountName with
  | none => rfl
  | some entry =>
    have hdefault : setDefault entry "storage_id" (.str accountName) = entry :=
      if_pos (hkey entry hentry)
    dsimp only
    rw [hdefault, if_pos Option.isSome_some]
    exact setEntry_of_entryOf hentry

theorem data_attempt {change : Change} (hsaves : SavesEdits surroundings data change)
    (hchange : ∀ name, change ≠ .renameEntry name name)
    (hending : (attempt surroundings data change).ending ≠ .saves) :
    (attempt surroundings data change).data = data := by
  cases change with
  | setSessionString accountName sessionString =>
    simp only [attempt, setAccountSessionString] at hending ⊢
    by_cases hvalid : surroundings.isValidSessionString (pyStrip sessionString) = true
    · rw [if_neg (not_not.mpr hvalid)] at hending ⊢
      cases hstored : surroundings.encryptSecret (pyStrip sessionString) with
      | ok stored =>
        rw [hstored] at hending
        exact absurd rfl hending
      | error error =>
        rcases hsaves with ⟨-, hok⟩ | hkey
        · rw [hstored] at hok
          cases hok
        · exact data_prepared hkey
    · rw [if_pos hvalid]
      rcases hsaves with ⟨hok, -⟩ | hkey
      · exact absurd hok hvalid
      · exact data_prepared hkey
  | deleteSessionString accountName =>
    simp only [attempt, deleteAccountSessionString] at hending ⊢
    split at hending
    · exact absurd rfl hending
    · rename_i habsent
      rw [if_neg habsent]
  | renameEntry oldName newName =>
    simp only [attempt, renameAccountEntry] at hending ⊢
    cases hold : (accountsOf data).getItem oldName with
    | none => rfl
    | some value =>
      rw [hold] at hending
      rcases hsaves with rfl | habsent | ⟨hnew, hnull⟩
      · exact absurd rfl (hchange oldName)
      · rw [Dict.hasKey, hold] at habsent
        cases habsent
      · rw [hold] at hnull
        cases value with
        | none => exact absurd rfl hnull
        | _ =>
          rw [hasKey_removeEntry hnew] at hending
          exact absurd rfl hending
  | setProfile accountName changes => exact absurd rfl hending
  | setStatus accountName change => exact absurd rfl hending

/-- A cached dictionary that is not edited stays what it is. -/
theorem coherent_map_cache (state : State) :
    Coherent { state with cache := state.cache.map fun hit => (hit.1, state.file.data) } := by
  intro time data hhit
  obtain ⟨hit, -, heq⟩ := Option.map_eq_some_iff.mp hhit
  exact (Prod.mk.inj heq).2.symm

/-- The two states answer alike: their caches are what their files hold, which is the same. -/
structure Alike (left right : State) : Prop where
  coherentLeft : Coherent left
  coherentRight : Coherent right
  data : left.file.data = right.file.data

theorem Alike.load (halike : Alike left right) (surroundings : Surroundings) :
    Alike (left.load surroundings).1 (right.load surroundings).1 ∧
      (left.load surroundings).2 = (right.load surroundings).2 := by
  obtain ⟨hleft, hleftFile, hleftLoaded⟩ := halike.coherentLeft.load surroundings
  obtain ⟨hright, hrightFile, hrightLoaded⟩ := halike.coherentRight.load surroundings
  refine ⟨⟨hleftLoaded, hrightLoaded, ?_⟩, ?_⟩
  · rw [hleftFile, hrightFile, halike.data]
  · rw [hleft, hright, halike.data]

theorem Alike.finish (halike : Alike left right) {attempt : Attempt}
    (hwrites : surroundings.writeFails = false)
    (hkept : attempt.ending ≠ .saves → attempt.data = left.file.data) :
    Alike (left.finish surroundings attempt).1 (right.finish surroundings attempt).1 ∧
      (left.finish surroundings attempt).2 = (right.finish surroundings attempt).2 := by
  have hedited : attempt.ending ≠ .saves →
      Alike { left with cache := left.cache.map fun hit => (hit.1, attempt.data) }
        { right with cache := right.cache.map fun hit => (hit.1, attempt.data) } := by
    intro hending
    refine ⟨?_, ?_, halike.data⟩
    · rw [hkept hending]
      exact coherent_map_cache left
    · rw [hkept hending, halike.data]
      exact coherent_map_cache right
  unfold State.finish
  cases hending : attempt.ending with
  | raises error =>
    rw [hending] at hedited
    exact ⟨hedited nofun, rfl⟩
  | returns =>
    rw [hending] at hedited
    exact ⟨hedited nofun, rfl⟩
  | saves =>
    rw [hwrites]
    exact ⟨⟨nofun, nofun, rfl⟩, rfl⟩

/-- A call with care answers alike in both states, and leaves them so. -/
theorem Alike.call (halike : Alike left right) {call : Call} (hcareful : Careful left call) :
    Alike (left.call call).1 (right.call call).1 ∧ (left.call call).2 = (right.call call).2 := by
  obtain ⟨surroundings, operation⟩ := call
  obtain ⟨hloaded, hdata⟩ := halike.load surroundings
  cases operation with
  | query query =>
    refine ⟨hloaded, ?_⟩
    simp only [State.call]
    rw [hdata]
  | change change =>
    obtain ⟨hwrites, hsaves⟩ := hcareful
    have hfile : (left.load surroundings).2 = (left.load surroundings).1.file.data := by
      obtain ⟨hleft, hleftFile, -⟩ := halike.coherentLeft.load surroundings
      rw [hleft, hleftFile]
    have hfinish : (∀ name, change ≠ .renameEntry name name) →
        Alike ((left.load surroundings).1.finish surroundings
            (attempt surroundings (left.load surroundings).2 change)).1
          ((right.load surroundings).1.finish surroundings
            (attempt surroundings (right.load surroundings).2 change)).1 ∧
        ((left.load surroundings).1.finish surroundings
            (attempt surroundings (left.load surroundings).2 change)).2 =
          ((right.load surroundings).1.finish surroundings
            (attempt surroundings (right.load surroundings).2 change)).2 := by
      intro hchange
      rw [← hdata]
      apply hloaded.finish hwrites
      intro hending
      rw [← hfile]
      exact data_attempt hsaves hchange hending
    cases change with
    | renameEntry oldName newName =>
      by_cases hsame : oldName = newName
      · unfold State.call State.change
        dsimp only
        rw [if_pos hsame, if_pos hsame]
        exact ⟨halike, rfl⟩
      · unfold State.call State.change
        dsimp only
        rw [if_neg hsame, if_neg hsame]
        apply hfinish
        intro name hname
        obtain ⟨hold, hnew⟩ := Change.renameEntry.inj hname
        exact hsame (hold.trans hnew.symm)
    | setSessionString accountName sessionString => exact hfinish nofun
    | deleteSessionString accountName => exact hfinish nofun
    | setProfile accountName changes => exact hfinish nofun
    | setStatus accountName change => exact hfinish nofun

theorem Coherent.call (hcoherent : Coherent state) {call : Call}
    (hcareful : Careful state call) : Coherent (state.call call).1 :=
  (Alike.call ⟨hcoherent, hcoherent, rfl⟩ hcareful).1.coherentLeft

theorem file_finish {attempt : Attempt}
    (hsaved : (state.finish surroundings attempt).2.saved = none) :
    (state.finish surroundings attempt).1.file = state.file := by
  unfold State.finish at hsaved ⊢
  cases hending : attempt.ending with
  | raises error => rfl
  | returns => rfl
  | saves =>
    rw [hending] at hsaved
    dsimp only at hsaved ⊢
    split at hsaved
    · rename_i hfails
      rw [if_pos hfails]
    · cases hsaved

theorem Coherent.data_call (hcoherent : Coherent state) {call : Call}
    (hsaved : (state.call call).2.saved = none) :
    (state.call call).1.file.data = state.file.data := by
  obtain ⟨surroundings, operation⟩ := call
  obtain ⟨-, hfile, -⟩ := hcoherent.load surroundings
  have hfinish : ∀ attempt,
      ((state.load surroundings).1.finish surroundings attempt).2.saved = none →
      ((state.load surroundings).1.finish surroundings attempt).1.file.data = state.file.data := by
    intro attempt hnone
    rw [file_finish hnone, hfile]
  cases operation with
  | query query => exact hfile
  | change change =>
    cases change with
    | renameEntry oldName newName =>
      simp only [State.call, State.change] at hsaved ⊢
      split at hsaved
      · rename_i hsame
        rw [if_pos hsame]
      · rename_i hne
        rw [if_neg hne]
        exact hfinish _ hsaved
    | setSessionString accountName sessionString => exact hfinish _ hsaved
    | deleteSessionString accountName => exact hfinish _ hsaved
    | setProfile accountName changes => exact hfinish _ hsaved
    | setStatus accountName change => exact hfinish _ hsaved

theorem saved_of_raised {attempt : Attempt} {error : PyError}
    (hraised : (state.finish surroundings attempt).2.answer = .raised error) :
    (state.finish surroundings attempt).2.saved = none := by
  unfold State.finish at hraised ⊢
  cases hending : attempt.ending with
  | raises other => rfl
  | returns => rfl
  | saves =>
    rw [hending] at hraised
    dsimp only at hraised ⊢
    split at hraised
    · rename_i hfails
      rw [if_pos hfails]
    · cases hraised

theorem saved_call {call : Call} {error : PyError}
    (hraised : (state.call call).2.answer = .raised error) :
    (state.call call).2.saved = none := by
  obtain ⟨surroundings, operation⟩ := call
  cases operation with
  | query query => rfl
  | change change =>
    cases change with
    | renameEntry oldName newName =>
      simp only [State.call, State.change] at hraised ⊢
      split at hraised
      · cases hraised
      · rename_i hne
        rw [if_neg hne]
        exact saved_of_raised hraised
    | setSessionString accountName sessionString => exact saved_of_raised hraised
    | deleteSessionString accountName => exact saved_of_raised hraised
    | setProfile accountName changes => exact saved_of_raised hraised
    | setStatus accountName change => exact saved_of_raised hraised

theorem Alike.outputs (halike : Alike left right) {calls : List Call} {last : State}
    (hrun : StepRun step Careful left calls last) :
    AccountStore.outputs left calls = AccountStore.outputs right calls := by
  induction calls generalizing left right with
  | nil => rfl
  | cons call rest ih =>
    cases hrun with
    | act hcareful hstep hrest =>
      cases hstep
      obtain ⟨hnext, houtput⟩ := halike.call hcareful
      unfold AccountStore.outputs
      rw [houtput, ih hnext hrest]

end Errors

/-- In a run with care, a call that raises changes nothing of what later calls return and
save. -/
theorem raised_unnoticed {start state last : State} {before after : List Call} {call : Call}
    {error : PyError} (hstart : start.cache = none)
    (hbefore : StepRun step Careful start before state) (hcareful : Careful state call)
    (hraised : (state.call call).2.answer = .raised error)
    (hafter : StepRun step Careful (state.call call).1 after last) :
    outputs (state.call call).1 after = outputs state after := by
  have hcoherent : Coherent state := by
    apply hbefore.invariant Coherent
    · intro current next other hcurrent hallowed hstep
      cases hstep
      exact hcurrent.call hallowed
    · intro time data hcache
      rw [hstart] at hcache
      cases hcache
  have halike : Alike (state.call call).1 state :=
    ⟨hcoherent.call hcareful, hcoherent, hcoherent.data_call (saved_call hraised)⟩
  exact halike.outputs hafter

def twoAccounts : State :=
  { file := .json (.dict [("accounts", .dict
      [("first", .dict [("storage_id", .str "a1")]),
        ("second", .dict [("storage_id", .str "b2")])])]) }

def refusedSession : Call where
  surroundings := { isValidSessionString := fun _ => false }
  operation := .change (.setSessionString "first" "no session")

def listing : Call where
  surroundings := {}
  operation := .query .listNames

theorem refused_unnoticed :
    outputs (twoAccounts.call refusedSession).1 [listing] = outputs twoAccounts [listing] := by
  have hcareful : Careful twoAccounts refusedSession := by
    refine ⟨rfl, .inr fun entry hentry => ?_⟩
    have hfirst : entryOf (twoAccounts.load refusedSession.surroundings).2 "first" =
        some [("storage_id", .str "a1")] := rfl
    obtain rfl := Option.some.inj (hfirst.symm.trans hentry)
    rfl
  exact raised_unnoticed rfl (.done twoAccounts) hcareful rfl (.act trivial rfl (.done _))

/-- A name that is taken is refused, but the old entry is gone from the cached dictionary. -/
def renameToTaken : Call where
  surroundings := {}
  operation := .change (.renameEntry "first" "second")

/-- The next status that is saved, of another account, loses the account for good. -/
theorem account_lost_after_raise :
    ¬∀ (start state : State) (before after : List Call) (call : Call) (error : PyError),
      start.cache = none → StepRun step (fun _ _ => True) start before state →
      (state.call call).2.answer = .raised error →
      outputs (state.call call).1 after = outputs state after := by
  intro hall
  have hsame := hall twoAccounts twoAccounts []
    [{ surroundings := {}, operation := .change (.setStatus "second" { status := "checking" }) }]
    renameToTaken (valueError "account_name second already exists") rfl (.done _) rfl
  have hnames := congrArg
    (List.map fun output => (output.saved.map fun data => (accountsOf data).keyList)) hsame
  revert hnames
  decide +kernel

end SignPulse.AccountStore
