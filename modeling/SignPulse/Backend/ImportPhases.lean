import SignPulse.Backend.SessionImports

/-!
# Imports between their awaits

Another call may run wherever an import awaits something.  An import is therefore cut into the
phases in which it waits, with what it does from the end of each wait to the beginning of the next.
Without anything in between, the phases make up `import_session`.
-/

namespace SignPulse.SessionImports

open Foundation
open FlowModels (PyError)

/-- What an import waits for.  The outcome of the connection is kept while the client
disconnects. -/
inductive Phase where
  | locking
  | checkingProxy
  | entering
  | connecting
  | gettingMe
  | disconnecting (outcome : Ending (Option User))
  | closing
  | ended

/-- The call has the lock of its account. -/
def Phase.isUnderWay : Phase → Bool
  | locking | ended => false
  | _ => true

def Phase.isClosing : Phase → Bool
  | closing => true
  | _ => false

variable (surroundings : Surroundings)

/-- `verify_account_proxy` is awaited. -/
def awaitsProxy (proxy : Option String) : Bool :=
  (proxyInForce surroundings proxy).any surroundings.isProxy

def constructClient : Importing Phase := do
  ofExcept surroundings.construction
  return .entering

/-- `try` with `except Exception`, up to its `finally`. -/
def attempt {α : Type} (program : Importing α) : Importing (Ending α) :=
  tryCatch (do return .returned (← program)) fun
    | .raised _ => do
      cleanupFileAndAux .pyrogramTemp
      return .raised unauthorized
    | .cancelled => return .cancelled

/-- What is done with the value of an await inside the `try`. -/
def Ending.carry {α β : Type} : Ending α → (α → Importing (Ending β)) → Importing (Ending β)
  | .returned value, later => later value
  | .raised error, _ => return .raised error
  | .cancelled, _ => return .cancelled

/-- What follows the `finally`. -/
def afterClient : Ending (Option User) → Importing Phase
  | .returned me =>
    match authorizedUser me with
    | none => do
      cleanupFileAndAux .pyrogramTemp
      raise unauthorized
    | some (userId, isBot) => do
      updateSession surroundings userId isBot
      return .closing
  | .raised error => raise error
  | .cancelled => throw .cancelled

/-- The `finally`. -/
def finish (outcome : Ending (Option User)) : Importing Phase :=
  if surroundings.isConnected then return .disconnecting outcome
  else afterClient surroundings outcome

/-- An await inside the `try` has ended, and the next one follows. -/
def proceed (next : Phase) : Ending Unit → Importing Phase
  | .returned _ => return next
  | .raised error => finish surroundings (.raised error)
  | .cancelled => finish surroundings .cancelled

/-- From the lock to the first await of `verify_imported_session`. -/
def importLocked (request : Request) : Importing Phase := do
  importPayload surroundings request.payload
  resolveCredentials surroundings
  if awaitsProxy surroundings request.proxy then return .checkingProxy
  else do
    proxyGate surroundings request.proxy
    constructClient surroundings

/-- From the end of a wait to the beginning of the next one. -/
def segment (request : Request) : Phase → Importing Phase
  | .locking => do
    surroundings.lock.await
    importLocked surroundings request
  | .checkingProxy => do
    proxyGate surroundings request.proxy
    constructClient surroundings
  | .entering => do
    let ending ← attempt do
      surroundings.semaphore.await
      writeBeside .pyrogramTemp surroundings.clientFiles
    proceed surroundings .connecting ending
  | .connecting => do
    let ending ← attempt surroundings.connect.await
    proceed surroundings .gettingMe ending
  | .gettingMe => do
    let outcome ← attempt surroundings.getMe.await
    finish surroundings outcome
  | .disconnecting outcome => do
    exceptException surroundings.disconnect.await fun _ => pure ()
    afterClient surroundings outcome
  | .closing => do
    replaceSession surroundings
    return .ended
  | .ended => return .ended

/-- The phases one after another, for at most as many as are given. -/
def runPhases (request : Request) : ℕ → Phase → Importing Unit
  | 0, _ => pure ()
  | _ + 1, .ended => pure ()
  | phases + 1, phase => do
    let next ← segment surroundings request phase
    runPhases request phases next

def importInPhases (request : Request) : Importing Unit := do
  ofExcept (checkRequest surroundings request (← get))
  runPhases surroundings request 8 .locking

/-! ## The phases make up the import -/

/-- What is left of the import when the client has disconnected. -/
def conclude (outcome : Ending (Option User)) : Importing Unit := do
  match authorizedUser (← outcome.await) with
  | none => do
    cleanupFileAndAux .pyrogramTemp
    raise unauthorized
  | some (userId, isBot) => do
    updateSession surroundings userId isBot
    replaceSession surroundings

section Phases

variable {surroundings : Surroundings} {request : Request} {α β : Type}

/-- The directory when an attempt has failed. -/
def cleaned (directory : Directory) : Directory :=
  Function.update directory .pyrogramTemp .empty

theorem bind_apply (first : Importing α) (later : α → Importing β) (directory : Directory) :
    (first >>= later) directory = match first directory with
      | .ok value next => later value next
      | .error exit next => .error exit next := by
  change EStateM.bind first later directory = _
  unfold EStateM.bind
  cases first directory with
  | ok value next => rfl
  | error exit next => rfl

theorem tryCatch_apply (program : Importing α) (handler : Exit → Importing α)
    (directory : Directory) :
    tryCatch program handler directory = match program directory with
      | .ok value next => .ok value next
      | .error exit next => handler exit next := by
  change EStateM.tryCatch program handler directory = _
  unfold EStateM.tryCatch
  cases program directory with
  | ok value next => rfl
  | error exit next => rfl

theorem attempt_apply (program : Importing α) (directory : Directory) : attempt program directory =
      match program directory with
      | .ok value next => .ok (.returned value) next
      | .error (.raised _) next => .ok (.raised unauthorized) (cleaned next)
      | .error .cancelled next => .ok .cancelled next := by
  rw [attempt, tryCatch_apply, bind_apply]
  cases program directory with
  | ok value next => rfl
  | error exit next =>
    cases exit with
    | raised error => rfl
    | cancelled => rfl

theorem attempt_bind (first : Importing α) (later : α → Importing β) : attempt (first >>= later) =
      (attempt first >>= fun ending => ending.carry fun value => attempt (later value)) := by
  funext directory
  rw [bind_apply, attempt_apply, attempt_apply, bind_apply]
  cases hfirst : first directory with
  | ok value next => exact (attempt_apply (later value) next).symm
  | error exit next =>
    cases exit with
    | raised error => rfl
    | cancelled => rfl

theorem exceptException_apply (program : Importing α) (handler : PyError → Importing α)
    (directory : Directory) :
    exceptException program handler directory = match program directory with
      | .ok value next => .ok value next
      | .error (.raised error) next => handler error next
      | .error .cancelled next => .error .cancelled next := by
  rw [exceptException, tryCatch_apply]
  cases program directory with
  | ok value next => rfl
  | error exit next =>
    cases exit with
    | raised error => rfl
    | cancelled => rfl

theorem finallyDo_apply (program : Importing α) (closing : Importing Unit) (directory : Directory) :
    finallyDo program closing directory = match program directory with
      | .ok value next => (closing >>= fun _ => pure value) next
      | .error exit next => (closing >>= fun _ => throw exit) next := by
  rw [finallyDo, bind_apply, tryCatch_apply]
  cases program directory with
  | ok value next => rfl
  | error exit next =>
    dsimp only
    rw [bind_apply]
    cases closing next with
    | ok _ _ => rfl
    | error _ _ => rfl

/-- `try`, `except` and `finally`, and what follows them. -/
theorem finallyDo_attempt (program : Importing α) (closing : Importing Unit)
    (rest : α → Importing β) :
    (finallyDo (exceptException program fun _ => do
        cleanupFileAndAux .pyrogramTemp
        raise unauthorized) closing >>= rest) =
      (attempt program >>= fun outcome => closing >>= fun _ => outcome.await >>= rest) := by
  funext directory
  rw [bind_apply, finallyDo_apply, exceptException_apply, bind_apply, attempt_apply]
  cases hprogram : program directory with
  | ok value next =>
    dsimp only
    rw [bind_apply, bind_apply]
    cases closing next with
    | ok _ _ => rfl
    | error _ _ => rfl
  | error exit next =>
    cases exit with
    | raised error =>
      change (match (closing >>= fun _ => throw _ : Importing α) (cleaned next) with
        | .ok value after => rest value after
        | .error exit after => .error exit after) = _
      dsimp only
      rw [bind_apply, bind_apply]
      cases closing (cleaned next) with
      | ok _ _ => rfl
      | error _ _ => rfl
    | cancelled =>
      dsimp only
      rw [bind_apply, bind_apply]
      cases closing next with
      | ok _ _ => rfl
      | error _ _ => rfl

theorem runPhases_closing (phases : ℕ) :
    runPhases surroundings request (phases + 2) .closing = replaceSession surroundings := by
  simp [runPhases, segment]

theorem runPhases_afterClient (phases : ℕ) (outcome : Ending (Option User)) :
    (afterClient surroundings outcome >>= runPhases surroundings request (phases + 2)) =
      conclude surroundings outcome := by
  cases outcome with
  | returned me =>
    change _ = match authorizedUser me with
      | none => do
        cleanupFileAndAux .pyrogramTemp
        raise unauthorized
      | some (userId, isBot) => do
        updateSession surroundings userId isBot
        replaceSession surroundings
    cases huser : authorizedUser me with
    | none => simp only [afterClient, huser]; rfl
    | some user =>
      simp [afterClient, huser, runPhases_closing]
  | raised error => rfl
  | cancelled => rfl

theorem runPhases_finish (phases : ℕ) (outcome : Ending (Option User)) :
    (finish surroundings outcome >>= runPhases surroundings request (phases + 3)) = (do
      disconnectClient surroundings
      conclude surroundings outcome) := by
  unfold finish disconnectClient
  split
  · rw [pure_bind]
    change (segment surroundings request (.disconnecting outcome) >>= _) = _
    simp [segment, runPhases_afterClient]
  · rw [runPhases_afterClient]
    rfl

theorem runPhases_proceed (phases : ℕ) (next : Phase) (ending : Ending Unit) :
    (proceed surroundings next ending >>= runPhases surroundings request (phases + 3)) =
      match ending with
      | .returned _ => runPhases surroundings request (phases + 3) next
      | .raised error =>
        disconnectClient surroundings >>= fun _ => conclude surroundings (.raised error)
      | .cancelled => disconnectClient surroundings >>= fun _ => conclude surroundings .cancelled := by
  cases ending with
  | returned value => exact pure_bind _ _
  | raised error => exact runPhases_finish phases (.raised error)
  | cancelled => exact runPhases_finish phases .cancelled

theorem runPhases_gettingMe (phases : ℕ) : runPhases surroundings request (phases + 4) .gettingMe =
      (attempt surroundings.getMe.await >>= fun outcome =>
        disconnectClient surroundings >>= fun _ => conclude surroundings outcome) := by
  change (segment surroundings request .gettingMe >>= _) = _
  rw [segment, bind_assoc]
  congr 1
  funext outcome
  exact runPhases_finish phases outcome

theorem attempt_carry {first : Importing Unit} {later : Importing (Option User)} {next : Phase}
    {phases : ℕ}
    (hlater : runPhases surroundings request (phases + 3) next =
      (attempt later >>= fun outcome =>
        disconnectClient surroundings >>= fun _ => conclude surroundings outcome)) :
    (attempt first >>= fun ending => proceed surroundings next ending >>=
        runPhases surroundings request (phases + 3)) =
      (attempt (first >>= fun _ => later) >>= fun outcome =>
        disconnectClient surroundings >>= fun _ => conclude surroundings outcome) := by
  rw [attempt_bind, bind_assoc]
  congr 1
  funext ending
  rw [runPhases_proceed]
  cases ending with
  | returned value => exact hlater
  | raised error => exact (pure_bind _ _).symm
  | cancelled => exact (pure_bind _ _).symm

theorem runPhases_connecting (phases : ℕ) :
    runPhases surroundings request (phases + 5) .connecting =
      (attempt (surroundings.connect.await >>= fun _ => surroundings.getMe.await) >>= fun outcome =>
        disconnectClient surroundings >>= fun _ => conclude surroundings outcome) := by
  change (segment surroundings request .connecting >>= _) = _
  rw [segment, bind_assoc]
  exact attempt_carry (runPhases_gettingMe phases)

theorem await_conclude (outcome : Ending (Option User)) :
    (outcome.await >>= fun me => conclude surroundings (.returned me)) =
      conclude surroundings outcome := by
  cases outcome with
  | returned me => rfl
  | raised error => rfl
  | cancelled => rfl

theorem runPhases_entering (phases : ℕ) : runPhases surroundings request (phases + 6) .entering =
      (connectClient surroundings >>= fun me => conclude surroundings (.returned me)) := by
  have hcarry := @attempt_carry surroundings request
    (surroundings.semaphore.await >>= fun _ =>
      writeBeside .pyrogramTemp surroundings.clientFiles) _ _ _ (runPhases_connecting phases)
  rw [bind_assoc] at hcarry
  change (segment surroundings request .entering >>= _) = _
  rw [segment, connectClient, bind_assoc, finallyDo_attempt]
  simp only [await_conclude]
  exact hcarry

theorem runPhases_construct (phases : ℕ) :
    (constructClient surroundings >>= runPhases surroundings request (phases + 6)) =
      connectAndReplace surroundings := by
  rw [constructClient, connectAndReplace, bind_assoc]
  congr 1
  funext _
  rw [pure_bind, runPhases_entering]
  rfl

/-- An import that nothing comes between is the one that `importSession` makes. -/
theorem importInPhases_eq :
    importInPhases surroundings request = importSession surroundings request := by
  have hlocking : runPhases surroundings request 8 .locking = (do
      surroundings.lock.await
      importPayload surroundings request.payload
      verifyImportedSession surroundings request.proxy) := by
    change (segment surroundings request .locking >>= _) = _
    unfold segment importLocked verifyImportedSession
    simp only [bind_assoc]
    congr 1
    funext _
    congr 1
    funext _
    congr 1
    funext _
    split
    · rw [pure_bind]
      change (segment surroundings request .checkingProxy >>= _) = _
      rw [segment, bind_assoc]
      congr 1
      funext _
      exact runPhases_construct 0
    · rw [bind_assoc]
      congr 1
      funext _
      exact runPhases_construct 1
  rw [importInPhases, importSession, hlocking]

end Phases

end SignPulse.SessionImports
