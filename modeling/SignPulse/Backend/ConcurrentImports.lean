import SignPulse.Backend.ImportPhases
import SignPulse.Foundation.StepRun

/-!
# Imports beside each other

Calls of `import_session` share a directory.  Each takes a step from one await to the next, in any
order, and a call takes the lock of its account when nobody has it.  The temporary session of the
account `a` is the file that an account `a.pyrogram.tmp` has its session in.
-/

namespace SignPulse.ConcurrentImports

open Foundation
open SessionImports

deriving instance DecidableEq for SessionRow, Content

/-! ## The shared directory -/

def baseText : Base → String
  | .target => ".session"
  | .pyrogramTemp => ".pyrogram.tmp.session"
  | .telethonTemp => ".telethon.tmp"

def suffixText : Suffix → String
  | .main => ""
  | .journal => "-journal"
  | .wal => "-wal"
  | .shm => "-shm"

def fileName (accountName : String) (base : Base) (suffix : Suffix) : String :=
  accountName ++ baseText base ++ suffixText suffix

def sessionFile (accountName : String) : String :=
  fileName accountName .target .main

/-- The account whose session file is the temporary one of this account. -/
def tempAccount (accountName : String) : String :=
  accountName ++ ".pyrogram.tmp"

/-- The files that an import may write. -/
def ownFiles : List (Base × Suffix) :=
  [.target, .pyrogramTemp, .telethonTemp].flatMap fun base =>
    [.main, .journal, .wal, .shm].map fun suffix => (base, suffix)

abbrev SharedDirectory := String → Option Content

def view (accountName : String) (files : SharedDirectory) : Directory :=
  fun base suffix => files (fileName accountName base suffix)

def putBack (accountName : String) (directory : Directory) (files : SharedDirectory) :
    SharedDirectory := fun name =>
  match ownFiles.find? fun file => fileName accountName file.1 file.2 == name with
  | some (base, suffix) => directory base suffix
  | none => files name

/-! ## Steps -/

structure Call where
  accountName : String
  request : Request
  surroundings : Surroundings
  phase : Phase

structure World where
  files : SharedDirectory
  /-- `list_account_names` -/
  listed : List String := []
  /-- The accounts whose session file is the one that has been put in place for them. -/
  held : List String := []
  calls : List Call := []

/-- The account has a session file. -/
def World.has (world : World) (accountName : String) : Bool :=
  accountName ∈ world.held && (world.files (sessionFile accountName)).isSome

inductive Action where
  | start (request : Request) (surroundings : Surroundings)
  | resume (index : ℕ)

/-- A new call, up to its lock. -/
def startCall (world : World) (request : Request) (surroundings : Surroundings) : Call :=
  let accountName := pyStrip request.accountName
  let checked := checkRequest { surroundings with listed := accountName ∈ world.listed } request
    (view accountName world.files)
  { accountName
    request
    surroundings
    phase :=
      match checked with
      | .ok _ => .locking
      | .error _ => .ended }

def World.isLocked (world : World) (accountName : String) : Bool :=
  world.calls.any fun call => call.accountName == accountName && call.phase.isUnderWay

/-- The lock of the account is being taken. -/
def Call.takesLock (call : Call) : Bool :=
  match call.phase, call.surroundings.lock with
  | .locking, .returned _ => true
  | _, _ => false

def canResume (world : World) (call : Call) : Bool :=
  match call.phase with
  | .ended => false
  | _ => !call.takesLock || !world.isLocked call.accountName

/-- The world when the files of a call have changed.  A session file is the account's own as long
as it stays as it is. -/
def store (world : World) (index : ℕ) (call : Call) (directory : Directory) : World :=
  let files := putBack call.accountName directory world.files
  { world with
    files
    held := world.held.filter fun name => files (sessionFile name) = world.files (sessionFile name)
    calls := world.calls.set index call }

/-- The new session file has been put in place. -/
def install (world : World) (accountName : String) : World :=
  { world with
    listed := world.listed ++ [accountName]
    held := world.held ++ [accountName] }

def advance (world : World) (index : ℕ) (call : Call) : World :=
  match segment call.surroundings call.request call.phase (view call.accountName world.files) with
  | .error _ directory => store world index { call with phase := .ended } directory
  | .ok phase directory =>
    let next := store world index { call with phase } directory
    if call.phase.isClosing then install next call.accountName else next

def step (world : World) : Action → Option World
  | .start request surroundings =>
    some { world with calls := world.calls ++ [startCall world request surroundings] }
  | .resume index =>
    match world.calls[index]? with
    | none => none
    | some call => if canResume world call then some (advance world index call) else none

/-! ## What imports owe -/

/-- The action belongs to a call that is made with `force`. -/
def World.isForced (world : World) : Action → Bool
  | .start request _ => request.force
  | .resume index => world.calls[index]?.any fun call => call.request.force

/-- The session files that accounts have are neither replaced nor removed. -/
def KeepsSessions (before after : World) : Prop :=
  ∀ name ∈ before.held, (before.files (sessionFile name)).isSome = true →
    after.files (sessionFile name) = before.files (sessionFile name)

instance (before after : World) : Decidable (KeepsSessions before after) :=
  inferInstanceAs (Decidable (∀ name ∈ before.held, _))

/-- No other call is under way that this one shares a file with, and where `force` is not given, no
account has a session in a file of this one. -/
def clearOf (world : World) (call : Call) : Bool :=
  (call.request.force || !world.has call.accountName && !world.has (tempAccount call.accountName) &&
      !world.isLocked (tempAccount call.accountName)) &&
  !world.calls.any fun other =>
    other.phase.isUnderWay && !other.request.force &&
      tempAccount other.accountName == call.accountName

def locksClear (world : World) : Action → Bool
  | .start .. => true
  | .resume index =>
    match world.calls[index]? with
    | none => true
    | some call => !call.takesLock || clearOf world call

/-! ## Whose files they are -/

section Files

variable {accountName name file : String} {base : Base} {suffix : Suffix}
variable {directory : Directory} {files : SharedDirectory}

theorem owner_of_fileName (hname : fileName accountName base suffix = sessionFile name) :
    name = accountName ∨ name = tempAccount accountName := by
  have hlast := congrArg (fun text => text.toList.getLast?) hname
  unfold sessionFile fileName at hname hlast
  cases suffix with
  | main =>
    have hname := (String.append_left_inj _).mp hname
    cases base with
    | target => exact .inl ((String.append_left_inj _).mp hname).symm
    | pyrogramTemp =>
      have htemp : accountName ++ baseText .pyrogramTemp =
          tempAccount accountName ++ baseText .target := by
        rw [tempAccount, String.append_assoc]
        rfl
      exact .inr ((String.append_left_inj _).mp (htemp.symm.trans hname)).symm
    | telethonTemp => simp [baseText, suffixText] at hlast
  | journal => simp [baseText, suffixText] at hlast
  | wal => simp [baseText, suffixText] at hlast
  | shm => simp [baseText, suffixText] at hlast

theorem putBack_of_ne (hfile : ∀ base suffix, fileName accountName base suffix ≠ file) :
    putBack accountName directory files file = files file := by
  unfold putBack
  split
  · next base suffix hfind =>
    have hfound := List.find?_some hfind
    exact absurd (beq_iff_eq.mp hfound) (hfile base suffix)
  · rfl

theorem putBack_view : putBack accountName (view accountName files) files = files := by
  funext file
  unfold putBack
  split
  · next base suffix hfind =>
    have hfound := List.find?_some hfind
    exact congrArg files (beq_iff_eq.mp hfound)
  · rfl

theorem putBack_sessionFile (hname : name ≠ accountName) (htemp : name ≠ tempAccount accountName) :
    putBack accountName directory files (sessionFile name) = files (sessionFile name) := by
  refine putBack_of_ne fun base suffix hfile => ?_
  rcases owner_of_fileName hfile with hown | hother
  · exact hname hown
  · exact htemp hother

end Files

/-! ## What one step does -/

/-- A call goes on to another phase. -/
structure Advances (before : World) (index : ℕ) (call : Call) (phase : Phase)
    (directory : Directory) (after : World) : Prop where
  files : after.files = putBack call.accountName directory before.files
  calls : after.calls = before.calls.set index { call with phase }
  has : ∀ name, after.has name = true → before.has name = true ∨
    name = call.accountName ∧ call.phase.isUnderWay = true ∧ phase.isUnderWay = false
  refused : call.phase.isUnderWay = false → call.takesLock = false →
    directory = view call.accountName before.files ∧ phase.isUnderWay = false

section Steps

variable {before after world : World} {index : ℕ} {call : Call} {action : Action}

variable {phase : Phase} {directory : Directory}

theorem has_store {name : String}
    (hhas : (store before index { call with phase } directory).has name = true) :
    before.has name = true := by
  unfold World.has at hhas ⊢
  obtain ⟨hheld, hfile⟩ := (Bool.and_eq_true _ _).mp hhas
  obtain ⟨hmem, hsame⟩ := List.mem_filter.mp (of_decide_eq_true hheld)
  have heq := of_decide_eq_true hsame
  rw [Bool.and_eq_true]
  refine ⟨decide_eq_true hmem, ?_⟩
  rw [← heq]
  exact hfile

theorem advances_store (hrefused : call.phase.isUnderWay = false → call.takesLock = false →
      directory = view call.accountName before.files ∧ phase.isUnderWay = false) :
    Advances before index call phase directory
      (store before index { call with phase } directory) where
  files := rfl
  calls := rfl
  has _ hhas := .inl (has_store hhas)
  refused := hrefused

theorem has_install {name accountName : String}
    (hhas : (install world accountName).has name = true) :
    world.has name = true ∨ name = accountName := by
  unfold World.has at hhas ⊢
  obtain ⟨hheld, hfile⟩ := (Bool.and_eq_true _ _).mp hhas
  rcases List.mem_append.mp (of_decide_eq_true hheld) with hold | hnew
  · exact .inl ((Bool.and_eq_true _ _).mpr ⟨decide_eq_true hold, hfile⟩)
  · exact .inr (List.mem_singleton.mp hnew)

theorem segment_refused (hcan : canResume before call = true) (hway : call.phase.isUnderWay = false)
    (hlock : call.takesLock = false) :
    ∃ exit, segment call.surroundings call.request call.phase directory =
      .error exit directory := by
  unfold canResume at hcan
  unfold Call.takesLock at hlock
  cases hphase : call.phase with
  | locking =>
    rw [hphase] at hlock
    change ∃ exit, (call.surroundings.lock.await >>= fun _ =>
      importLocked call.surroundings call.request) directory = .error exit directory
    cases hend : call.surroundings.lock with
    | returned value =>
      rw [hend] at hlock
      cases hlock
    | raised error => exact ⟨.raised error, rfl⟩
    | cancelled => exact ⟨.cancelled, rfl⟩
  | ended =>
    rw [hphase] at hcan
    cases hcan
  | checkingProxy | entering | connecting | gettingMe | disconnecting | closing =>
    rw [hphase] at hway
    cases hway

theorem ended_of_closing {surroundings : Surroundings} {request : Request} {next : Phase}
    {last : Directory} (hclosing : phase.isClosing = true)
    (hrun : segment surroundings request phase directory = .ok next last) :
    phase.isUnderWay = true ∧ next = .ended := by
  cases phase with
  | closing =>
    change (replaceSession surroundings >>= fun _ => pure Phase.ended) directory = _ at hrun
    rw [bind_apply] at hrun
    cases hreplace : replaceSession surroundings directory with
    | ok value after =>
      rw [hreplace] at hrun
      cases hrun
      exact ⟨rfl, rfl⟩
    | error exit after =>
      rw [hreplace] at hrun
      cases hrun
  | locking | checkingProxy | entering | connecting | gettingMe | disconnecting | ended =>
    cases hclosing

theorem exists_advances (hcan : canResume before call = true) :
    ∃ phase directory, Advances before index call phase directory (advance before index call) := by
  unfold advance
  split
  · next exit directory hrun =>
    refine ⟨.ended, directory, advances_store fun hway hlock => ⟨?_, rfl⟩⟩
    obtain ⟨refusal, hrefused⟩ := segment_refused hcan hway hlock
    rw [hrefused] at hrun
    cases hrun
    rfl
  · next phase directory hrun =>
    have hrefused : call.phase.isUnderWay = false → call.takesLock = false →
        directory = view call.accountName before.files ∧ phase.isUnderWay = false := by
      intro hway hlock
      obtain ⟨refusal, hrefused⟩ := segment_refused hcan hway hlock
      rw [hrefused] at hrun
      cases hrun
    split
    · next hclosing =>
      refine ⟨phase, directory, rfl, rfl, fun name hhas => ?_, hrefused⟩
      rcases has_install hhas with hold | rfl
      · exact .inl (has_store hold)
      · obtain ⟨hway, rfl⟩ := ended_of_closing hclosing hrun
        exact .inr ⟨rfl, hway, rfl⟩
    · exact ⟨phase, directory, advances_store hrefused⟩

/-! ## Runs -/

/-- Imports that are under way have files of their own, and accounts have no session in those that
an import without `force` writes. -/
structure Apart (world : World) : Prop where
  clear : ∀ call ∈ world.calls, call.phase.isUnderWay = true → call.request.force = false →
    world.has call.accountName = false ∧ world.has (tempAccount call.accountName) = false
  pairs : ∀ (first second : ℕ) (one other : Call), first ≠ second → world.calls[first]? = some one →
    world.calls[second]? = some other → one.phase.isUnderWay = true →
    other.phase.isUnderWay = true → one.accountName ≠ other.accountName ∧
      (one.request.force = false → other.accountName ≠ tempAccount one.accountName)

/-- A call may write its files beside the other calls. -/
structure Engaged (world : World) (index : ℕ) (call : Call) : Prop where
  clear : call.request.force = false →
    world.has call.accountName = false ∧ world.has (tempAccount call.accountName) = false
  others : ∀ (position : ℕ) (other : Call), position ≠ index → world.calls[position]? = some other →
    other.phase.isUnderWay = true → call.accountName ≠ other.accountName ∧
      (call.request.force = false → other.accountName ≠ tempAccount call.accountName) ∧
      (other.request.force = false → call.accountName ≠ tempAccount other.accountName)

theorem Apart.engaged (hapart : Apart world) (hcall : world.calls[index]? = some call)
    (hway : call.phase.isUnderWay = true) : Engaged world index call where
  clear := hapart.clear call (List.mem_of_getElem? hcall) hway
  others position other hne hother hotherWay := by
    have hours := hapart.pairs index position call other hne.symm hcall hother hway hotherWay
    have htheirs := hapart.pairs position index other call hne hother hcall hotherWay hway
    exact ⟨hours.1, hours.2, htheirs.2⟩

theorem not_isLocked {accountName : String} (hfree : world.isLocked accountName = false)
    {other : Call} (hother : other ∈ world.calls) (hway : other.phase.isUnderWay = true) :
    other.accountName ≠ accountName := by
  rintro rfl
  have hlocked := List.any_eq_false.mp hfree other hother
  rw [hway, beq_self_eq_true] at hlocked
  exact hlocked rfl

theorem engaged_of_clearOf (hclear : clearOf world call = true)
    (hfree : world.isLocked call.accountName = false) : Engaged world index call := by
  unfold clearOf at hclear
  obtain ⟨hours, htheirs⟩ := (Bool.and_eq_true _ _).mp hclear
  have hunforced : call.request.force = false →
      (world.has call.accountName = false ∧ world.has (tempAccount call.accountName) = false) ∧
        world.isLocked (tempAccount call.accountName) = false := by
    intro hforce
    rw [hforce, Bool.false_or] at hours
    simpa only [Bool.and_eq_true, Bool.not_eq_true'] using hours
  refine ⟨fun hforce => (hunforced hforce).1, fun position other _ hother hway => ?_⟩
  have hmem := List.mem_of_getElem? hother
  refine ⟨(not_isLocked hfree hmem hway).symm,
    fun hforce => not_isLocked (hunforced hforce).2 hmem hway, fun hforce heq => ?_⟩
  have hnone := List.any_eq_false.mp (Bool.not_eq_true' _ ▸ htheirs) other hmem
  rw [hway, hforce, heq, beq_self_eq_true] at hnone
  exact hnone rfl

/-- A call that goes on may write its files. -/
theorem engaged_of_canResume (hapart : Apart world) (hcall : world.calls[index]? = some call)
    (hcan : canResume world call = true) (hclear : locksClear world (.resume index) = true)
    (hgoes : call.phase.isUnderWay = true ∨ call.takesLock = true) :
    Engaged world index call := by
  rcases hgoes with hway | hlock
  · exact hapart.engaged hcall hway
  · unfold locksClear at hclear
    dsimp only at hclear
    rw [hcall] at hclear
    have hcleared : clearOf world call = true := by
      simpa only [hlock, Bool.not_true, Bool.false_or] using hclear
    refine engaged_of_clearOf hcleared ?_
    rw [canResume, hlock, Bool.not_true, Bool.false_or] at hcan
    split at hcan
    · cases hcan
    · simpa only [Bool.not_eq_true'] using hcan

theorem Advances.engaged (hadvances : Advances before index call phase directory after)
    (hway : phase.isUnderWay = true) :
    call.phase.isUnderWay = true ∨ call.takesLock = true := by
  by_contra hneither
  obtain ⟨hphase, hlock⟩ := not_or.mp hneither
  have hended := (hadvances.refused (eq_false_of_ne_true hphase) (eq_false_of_ne_true hlock)).2
  rw [hway] at hended
  cases hended

theorem startCall_idle (world : World) (request : Request) (surroundings : Surroundings) :
    (startCall world request surroundings).phase.isUnderWay = false := by
  simp only [startCall]
  split
  · rfl
  · rfl

theorem getElem?_of_concat {calls : List Call} {new one : Call} {position : ℕ}
    (hone : (calls ++ [new])[position]? = some one) (hnew : new.phase.isUnderWay = false)
    (hway : one.phase.isUnderWay = true) : calls[position]? = some one := by
  by_cases hlength : position < calls.length
  · rwa [List.getElem?_append_left hlength] at hone
  · rw [List.getElem?_append_right (Nat.le_of_not_lt hlength)] at hone
    rw [List.mem_singleton.mp (List.mem_of_getElem? hone), hnew] at hway
    cases hway

theorem apart_start (hapart : Apart before) (request : Request) (surroundings : Surroundings) :
    Apart { before with calls := before.calls ++ [startCall before request surroundings] } := by
  have hidle := startCall_idle before request surroundings
  constructor
  · intro call hcall hway hforce
    rcases List.mem_append.mp hcall with hold | hnew
    · exact hapart.clear call hold hway hforce
    · rw [List.mem_singleton.mp hnew, hidle] at hway
      cases hway
  · intro first second one other hne hone hother hway hotherWay
    exact hapart.pairs first second one other hne (getElem?_of_concat hone hidle hway)
      (getElem?_of_concat hother hidle hotherWay) hway hotherWay

theorem getElem?_of_set {calls : List Call} {new one : Call} {position : ℕ}
    (hone : (calls.set index new)[position]? = some one) :
    position = index ∧ one = new ∨ position ≠ index ∧ calls[position]? = some one := by
  by_cases heq : index = position
  · subst heq
    rw [List.getElem?_set_self'] at hone
    obtain ⟨old, -, rfl⟩ := Option.map_eq_some_iff.mp hone
    exact .inl ⟨rfl, rfl⟩
  · rw [List.getElem?_set_ne heq] at hone
    exact .inr ⟨fun h => heq h.symm, hone⟩

theorem Advances.apart (hadvances : Advances before index call phase directory after)
    (hapart : Apart before) (hcall : before.calls[index]? = some call)
    (hengaged : phase.isUnderWay = true → Engaged before index call) : Apart after := by
  constructor
  · intro one hone hway hforce
    obtain ⟨position, hone⟩ := List.getElem?_of_mem hone
    rw [hadvances.calls] at hone
    rcases getElem?_of_set hone with ⟨-, rfl⟩ | ⟨hne, hold⟩
    · have hclear := (hengaged hway).clear hforce
      have hnone : ∀ name, before.has name = false → after.has name = false := by
        intro name hbefore
        by_contra hafter
        rcases hadvances.has name (eq_true_of_ne_false hafter) with hhad | ⟨-, -, hended⟩
        · rw [hbefore] at hhad
          cases hhad
        · exact absurd (hended.symm.trans hway) Bool.false_ne_true
      exact ⟨hnone _ hclear.1, hnone _ hclear.2⟩
    · have hclear := hapart.clear one (List.mem_of_getElem? hold) hway hforce
      have hnone : ∀ name, before.has name = false →
          (call.phase.isUnderWay = true → call.accountName ≠ name) → after.has name = false := by
        intro name hbefore hother
        by_contra hafter
        rcases hadvances.has name (eq_true_of_ne_false hafter) with hhad | ⟨rfl, hway, -⟩
        · rw [hbefore] at hhad
          cases hhad
        · exact hother hway rfl
      have hpair := fun hcallWay =>
        hapart.pairs position index one call hne hold hcall hway hcallWay
      exact ⟨hnone _ hclear.1 fun hcallWay => (hpair hcallWay).1.symm,
        hnone _ hclear.2 fun hcallWay => (hpair hcallWay).2 hforce⟩
  · intro first second one other hne hone hother hway hotherWay
    rw [hadvances.calls] at hone hother
    rcases getElem?_of_set hone with ⟨rfl, rfl⟩ | ⟨hfirst, hold⟩
    · rcases getElem?_of_set hother with ⟨rfl, -⟩ | ⟨hsecond, hrest⟩
      · exact absurd rfl hne
      · have hours := (hengaged hway).others second other hsecond hrest hotherWay
        exact ⟨hours.1, hours.2.1⟩
    · rcases getElem?_of_set hother with ⟨rfl, rfl⟩ | ⟨hsecond, hrest⟩
      · have htheirs := (hengaged hotherWay).others first one hfirst hold hway
        exact ⟨htheirs.1.symm, htheirs.2.2⟩
      · exact hapart.pairs first second one other hne hold hrest hway hotherWay

theorem advances_of_resume {index : ℕ} (hstep : step before (.resume index) = some after) :
    ∃ call phase directory, before.calls[index]? = some call ∧ canResume before call = true ∧
      Advances before index call phase directory after := by
  simp only [step] at hstep
  split at hstep
  · cases hstep
  · next call hcall =>
    split at hstep
    · next hcan =>
      cases hstep
      obtain ⟨phase, directory, hadvances⟩ := @exists_advances before index call hcan
      exact ⟨call, phase, directory, hcall, hcan, hadvances⟩
    · cases hstep

theorem apart_step (hapart : Apart before) (hclear : locksClear before action = true)
    (hstep : step before action = some after) : Apart after := by
  cases action with
  | start request surroundings =>
    cases hstep
    exact apart_start hapart request surroundings
  | resume index =>
    obtain ⟨call, phase, directory, hcall, hcan, hadvances⟩ := advances_of_resume hstep
    exact hadvances.apart hapart hcall fun hway =>
      engaged_of_canResume hapart hcall hcan hclear (hadvances.engaged hway)

theorem keeps_step (hapart : Apart before) (hclear : locksClear before action = true)
    (hforce : before.isForced action = false) (hstep : step before action = some after) :
    KeepsSessions before after := by
  intro name hheld hfile
  cases action with
  | start request surroundings =>
    cases hstep
    rfl
  | resume index =>
    obtain ⟨call, phase, directory, hcall, hcan, hadvances⟩ := advances_of_resume hstep
    rw [hadvances.files]
    by_cases hgoes : call.phase.isUnderWay = true ∨ call.takesLock = true
    · have hengaged := engaged_of_canResume hapart hcall hcan hclear hgoes
      have hunforced : call.request.force = false := by
        simp only [World.isForced] at hforce
        rw [hcall] at hforce
        exact hforce
      obtain ⟨hown, htemp⟩ := hengaged.clear hunforced
      have hhas : before.has name = true := by
        rw [World.has, hfile, Bool.and_true]
        exact decide_eq_true hheld
      refine putBack_sessionFile ?_ ?_
      · rintro rfl
        rw [hhas] at hown
        cases hown
      · rintro rfl
        rw [hhas] at htemp
        cases htemp
    · obtain ⟨hphase, hlock⟩ := not_or.mp hgoes
      obtain ⟨rfl, -⟩ := hadvances.refused (eq_false_of_ne_true hphase) (eq_false_of_ne_true hlock)
      rw [putBack_view]

theorem sessions_kept {first : World} {actions : List Action} (hidle : first.calls = [])
    (hrun : StepRun step (fun world action => locksClear world action = true) first actions before)
    (hclear : locksClear before action = true) (hforce : before.isForced action = false)
    (hstep : step before action = some after) : KeepsSessions before after := by
  have hfirst : Apart first := by
    constructor
    · rw [hidle]
      exact fun _ hmem => absurd hmem List.not_mem_nil
    · intro position _ _ _ _ hone
      rw [hidle] at hone
      cases hone
  have hapart := hrun.invariant Apart (fun _ _ _ hapart hclear hstep =>
    apart_step hapart hclear hstep) hfirst
  exact keeps_step hapart hclear hforce hstep

end Steps

/-- A session with a key that consists of one byte. -/
def importOf (accountName : String) (byte : UInt8) : Request where
  accountName := accountName
  payload := .pyrogramSqlite (.database [{ dcId := some 2, authKey := List.replicate 256 byte }])

/-- Telegram answers, and nothing fails. -/
def quietSurroundings : Surroundings where
  datacenters := fun _ _ => none
  credentials := .ok (1, "hash")
  getMe := .returned (some { id := some 7 })

def emptyWorld : World where
  files := fun _ => none

/-- A call that nothing holds up resumes six times. -/
def wholeImport (index : ℕ) : List Action :=
  List.replicate 6 (.resume index)

def twoAccounts : List Action :=
  [.start (importOf "alice" 1) quietSurroundings, .start (importOf "bob" 2) quietSurroundings] ++
    wholeImport 0 ++ List.replicate 5 (.resume 1)

/-- Bob's session is put in place beside that of Alice. -/
theorem sessions_kept_twoAccounts : (stateAfter step emptyWorld twoAccounts).held = ["alice"] ∧
      ∃ after, step (stateAfter step emptyWorld twoAccounts) (.resume 1) = some after ∧
        KeepsSessions (stateAfter step emptyWorld twoAccounts) after := by
  have hrun : StepRun step (fun world action => locksClear world action = true) emptyWorld
      twoAccounts (stateAfter step emptyWorld twoAccounts) :=
    stepRun_stateAfter (by decide +kernel)
  have hsome : (step (stateAfter step emptyWorld twoAccounts) (.resume 1)).isSome = true := by
    decide +kernel
  obtain ⟨after, hstep⟩ := Option.isSome_iff_exists.mp hsome
  refine ⟨by decide +kernel, after, hstep, ?_⟩
  exact sessions_kept rfl hrun (by decide +kernel) (by decide +kernel) hstep

/-- Two imports of one account have both been checked before the first one ends. -/
def sameAccount : List Action :=
  [.start (importOf "alice" 1) quietSurroundings, .start (importOf "alice" 2) quietSurroundings] ++
    wholeImport 0 ++ List.replicate 5 (.resume 1)

/-- An account with the name of a temporary file, before an import that has this file. -/
def tempNamed : List Action :=
  .start (importOf "bob.pyrogram.tmp" 1) quietSurroundings :: wholeImport 0 ++
    [.start (importOf "bob" 2) quietSurroundings]

/-- After these actions, a call without `force` takes a step that replaces or removes a session
that an account has. -/
def Loses (actions : List Action) (action : Action) : Prop :=
  ∃ before after, StepRun step (fun _ _ => True) emptyWorld actions before ∧
    before.isForced action = false ∧ step before action = some after ∧
    ¬KeepsSessions before after

theorem loses_of_replay {actions : List Action} {action : Action}
    (hreplay : (replay step (fun _ _ => decide True) emptyWorld actions).isSome = true)
    (hforce : (stateAfter step emptyWorld actions).isForced action = false)
    (hloses : (step (stateAfter step emptyWorld actions) action).any (fun after =>
      !decide (KeepsSessions (stateAfter step emptyWorld actions) after)) = true) :
    Loses actions action := by
  obtain ⟨after, hstep, hlost⟩ := (Option.any_eq_true _ _).mp hloses
  have hkeeps := of_decide_eq_false ((Bool.not_eq_true' _).mp hlost)
  exact ⟨_, after, stepRun_stateAfter hreplay, hforce, hstep, hkeeps⟩

theorem sessions_lost : Loses sameAccount (.resume 1) ∧ Loses tempNamed (.resume 1) := by
  constructor
  · exact loses_of_replay (by decide +kernel) (by decide +kernel) (by decide +kernel)
  · exact loses_of_replay (by decide +kernel) (by decide +kernel) (by decide +kernel)

end SignPulse.ConcurrentImports
