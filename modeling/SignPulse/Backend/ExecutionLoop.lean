import SignPulse.Signer.ConfigRun

/-!
# The execution loop of the backend

`_runner_execute_with_retry` of `sign_task_runner.py`: `run_once` is called again when
the text of its exception mentions a locked database.  What a call did is a record
over which the loop has no say.
-/

namespace SignPulse.ExecutionLoop

open Foundation
open FlowModels
open RunEnvironment
open WorldLaws
open TelegramExecutor
open ExecutorReceipts
open ChatRun
open ConfigRun

variable {W R : Type}

def SQLITE_LOCK_MAX_RETRIES : ℕ := 5

def SQLITE_LOCK_BACKOFF_BASE_SECONDS : ℕ := 3

def SQLITE_LOCK_BACKOFF_STEP_SECONDS : ℕ := 3

/-- A call of `run_once` under its time limit: how it ends and what it did. -/
structure OnceReply (W R : Type) where
  exit : Exit Unit
  record : R
  world : W

/-- The signer and the surroundings of the loop. -/
structure Execution (W R : Type) where
  /-- `wait_for(signer.run_once(…), timeout=task_timeout)`. -/
  runOnce : W → OnceReply W R
  /-- `asyncio.sleep(delay)`. -/
  sleep : ℕ → W → Exit Unit × W
  taskTimeout : ℚ := 120

/-- The arguments of `record_flood_wait`. -/
structure FloodWait where
  waitSeconds : ℤ
  reason : String

/-- How the loop ends, with the calls it made. -/
structure LoopReply (W R : Type) where
  exit : Exit Unit
  timedOut : Bool := false
  world : W
  calls : List (OnceReply W R)
  floodWaits : List FloodWait := []

/-- `"database is locked" in str(e).lower()`. -/
def isLockError (error : PyError) : Bool :=
  pyContains (pyLower error.message) "database is locked"

/-- `delay`. -/
def lockDelay (attempt : ℕ) : ℕ :=
  SQLITE_LOCK_BACKOFF_BASE_SECONDS + attempt * SQLITE_LOCK_BACKOFF_STEP_SECONDS

def timeoutError (taskTimeout : ℚ) : PyError :=
  let seconds := taskTimeout.floor
  { name := "RuntimeError", message := s!"任务执行超时（{seconds}秒），已强制终止" }

def floodWaitsOf (error : PyError) : List FloodWait :=
  match error.floodWait with
  | some waitSeconds =>
    let excerpt := String.ofList (error.message.toList.take 100)
    [{ waitSeconds, reason := s!"Telegram API FloodWait: {excerpt}" }]
  | none => []

namespace Execution

/-- The loop, given how many turns are left. -/
def executeLoop (execution : Execution W R) : ℕ → ℕ → W → LoopReply W R
  | 0, _, world => { exit := .returned (), world, calls := [] }
  | remaining + 1, attempt, world =>
    let reply := execution.runOnce world
    match reply.exit with
    | .returned () => { exit := .returned (), world := reply.world, calls := [reply] }
    | .cancelled level =>
      { exit := .cancelled level, world := reply.world, calls := [reply] }
    | .raised error =>
      if error.isTimeout then
        { exit := .raised (timeoutError execution.taskTimeout)
          timedOut := true
          world := reply.world
          calls := [reply] }
      else
        let floodWaits := floodWaitsOf error
        if isLockError error && decide (attempt < SQLITE_LOCK_MAX_RETRIES - 1) then
          match execution.sleep (lockDelay attempt) reply.world with
          | (.returned (), world) =>
            let later := executeLoop execution remaining (attempt + 1) world
            { later with
              calls := reply :: later.calls
              floodWaits := floodWaits ++ later.floodWaits }
          | (.raised error, world) =>
            { exit := .raised error, world, calls := [reply], floodWaits }
          | (.cancelled level, world) =>
            { exit := .cancelled level, world, calls := [reply], floodWaits }
        else
          { exit := .raised error, world := reply.world, calls := [reply], floodWaits }

/-- `_runner_execute_with_retry`. -/
def executeWithRetry (execution : Execution W R) (world : W) : LoopReply W R :=
  execution.executeLoop SQLITE_LOCK_MAX_RETRIES 0 world

/-! ## The calls that are followed by another -/

def worldBefore (execution : Execution W R) (world : W) : ℕ → W
  | 0 => world
  | attempt + 1 =>
    (execution.sleep (lockDelay attempt)
      (execution.runOnce (worldBefore execution world attempt)).world).2

/-- What `run_once` does in an attempt. -/
def answer (execution : Execution W R) (world : W) (attempt : ℕ) : OnceReply W R :=
  execution.runOnce (execution.worldBefore world attempt)

/-- An attempt ends with the text of a locked database, and the pause after it is
waited for to its end. -/
def meetsLock (execution : Execution W R) (world : W) (attempt : ℕ) : Prop :=
  (execution.sleep (lockDelay attempt) (execution.answer world attempt).world).1 = .returned () ∧
    ∃ error, (execution.answer world attempt).exit = .raised error ∧
      error.isTimeout = false ∧ isLockError error = true

variable (execution : Execution W R) (world : W)

theorem executeLoop_calls (remaining attempt : ℕ) :
    let calls := (execution.executeLoop (remaining + 1) attempt
      (execution.worldBefore world attempt)).calls
    (execution.meetsLock world attempt ∧ attempt + 1 < SQLITE_LOCK_MAX_RETRIES ∧
      calls = execution.answer world attempt ::
        (execution.executeLoop remaining (attempt + 1)
          (execution.worldBefore world (attempt + 1))).calls) ∨
    (¬(execution.meetsLock world attempt ∧ attempt + 1 < SQLITE_LOCK_MAX_RETRIES) ∧
      calls = [execution.answer world attempt]) := by
  intro calls
  have hlast : ∀ error, (execution.answer world attempt).exit = .raised error →
      ¬(error.isTimeout = false ∧ isLockError error = true ∧
        attempt + 1 < SQLITE_LOCK_MAX_RETRIES) →
      ¬(execution.meetsLock world attempt ∧ attempt + 1 < SQLITE_LOCK_MAX_RETRIES) := by
    rintro error hexit hnot ⟨⟨-, other, hother, htimeout, hlock⟩, hfew⟩
    rw [hexit] at hother
    cases hother
    exact hnot ⟨htimeout, hlock, hfew⟩
  have hcut : (execution.sleep (lockDelay attempt)
        (execution.answer world attempt).world).1 ≠ .returned () →
      ¬(execution.meetsLock world attempt ∧ attempt + 1 < SQLITE_LOCK_MAX_RETRIES) :=
    fun hsleep hmeets => hsleep hmeets.1.1
  have hreply : execution.runOnce (execution.worldBefore world attempt) =
      execution.answer world attempt := rfl
  simp only [calls, executeLoop, hreply]
  split
  · next hexit =>
    refine Or.inr ⟨?_, rfl⟩
    rintro ⟨⟨-, error, herror, -⟩, -⟩
    rw [hexit] at herror
    cases herror
  · next level hexit =>
    refine Or.inr ⟨?_, rfl⟩
    rintro ⟨⟨-, error, herror, -⟩, -⟩
    rw [hexit] at herror
    cases herror
  · next error hexit =>
    split
    · next htimeout =>
      refine Or.inr ⟨hlast error hexit ?_, rfl⟩
      simp [htimeout]
    · next htimeout =>
      split
      · next hagain =>
        simp only [Bool.and_eq_true, decide_eq_true_eq] at hagain
        split
        · next after hsleep =>
          refine Or.inl ⟨⟨by rw [hsleep], error, hexit, by simpa using htimeout,
            hagain.1⟩, by omega, ?_⟩
          rw [worldBefore, hreply, hsleep]
        · next hsleep =>
          exact Or.inr ⟨hcut (by simp [hsleep]), rfl⟩
        · next hsleep =>
          exact Or.inr ⟨hcut (by simp [hsleep]), rfl⟩
      · next hagain =>
        refine Or.inr ⟨hlast error hexit ?_, rfl⟩
        rintro ⟨-, hlock, hfew⟩
        simp [hlock] at hagain
        omega

theorem executeLoop_calls_ne_nil (remaining attempt : ℕ) :
    (execution.executeLoop (remaining + 1) attempt
      (execution.worldBefore world attempt)).calls ≠ [] := by
  rcases execution.executeLoop_calls world remaining attempt with ⟨-, -, hcalls⟩ | ⟨-, hcalls⟩
  · rw [hcalls]
    exact List.cons_ne_nil _ _
  · rw [hcalls]
    exact List.cons_ne_nil _ _

theorem mem_dropLast_executeLoop {call : OnceReply W R} :
    ∀ (remaining attempt : ℕ), attempt + remaining = SQLITE_LOCK_MAX_RETRIES →
      (call ∈ (execution.executeLoop remaining attempt
          (execution.worldBefore world attempt)).calls.dropLast ↔
        ∃ last, attempt ≤ last ∧ last + 1 < SQLITE_LOCK_MAX_RETRIES ∧
          (∀ turn, attempt ≤ turn → turn ≤ last → execution.meetsLock world turn) ∧
          call = execution.answer world last) := by
  intro remaining
  induction remaining with
  | zero =>
    intro attempt hsum
    constructor
    · intro hcall
      cases hcall
    · rintro ⟨last, hle, hfew, -, -⟩
      omega
  | succ remaining ih =>
    intro attempt hsum
    rcases execution.executeLoop_calls world remaining attempt with
      ⟨hmeets, hfew, hcalls⟩ | ⟨hends, hcalls⟩
    · obtain ⟨further, rfl⟩ : ∃ further, remaining = further + 1 :=
        ⟨remaining - 1, by omega⟩
      rw [hcalls, List.dropLast_cons_of_ne_nil
        (execution.executeLoop_calls_ne_nil world further (attempt + 1)), List.mem_cons,
        ih (attempt + 1) (by omega)]
      constructor
      · rintro (rfl | ⟨last, hle, hlast, hall, rfl⟩)
        · refine ⟨attempt, le_rfl, hfew, ?_, rfl⟩
          intro turn hlow hhigh
          rwa [le_antisymm hhigh hlow]
        · refine ⟨last, by omega, hlast, ?_, rfl⟩
          intro turn hlow hhigh
          rcases Nat.eq_or_lt_of_le hlow with rfl | hlater
          · exact hmeets
          · exact hall turn hlater hhigh
      · rintro ⟨last, hle, hlast, hall, rfl⟩
        rcases Nat.eq_or_lt_of_le hle with rfl | hlater
        · exact Or.inl rfl
        · exact Or.inr ⟨last, hlater, hlast, fun turn hlow => hall turn (by omega), rfl⟩
    · rw [hcalls]
      constructor
      · intro hcall
        cases hcall
      · rintro ⟨last, hle, hlast, hall, -⟩
        exact absurd ⟨hall attempt le_rfl hle, by omega⟩ hends

end Execution

/-! ## Replays -/

def UNKNOWN_OPERATION_TEXT : String :=
  "External operation result is unknown; automatic replay stopped"

/-- The exception reports an external operation whose result is unknown. -/
def reportsUnknown (exit : Exit Unit) : Bool :=
  match exit with
  | .raised error => pyContains error.message UNKNOWN_OPERATION_TEXT
  | _ => false

/-- Nothing speaks against calling `run_once` again: the call performed no external
operation and reports none whose result is unknown. -/
structure Replayable (Performed : R → Prop) (call : OnceReply W R) : Prop where
  idle : ¬Performed call.record
  known : reportsUnknown call.exit = false

/-- The loop calls `run_once` again only after calls that may be replayed. -/
def ReplaysOnlyIdle (Performed : R → Prop) (reply : LoopReply W R) : Prop :=
  ∀ call ∈ reply.calls.dropLast, Replayable Performed call

/-- No attempt that is reached through locked databases alone, and is not the last
possible one, performs an operation and then meets a locked database itself. -/
def LocksComeFirst (Performed : R → Prop) (execution : Execution W R) (world : W) : Prop :=
  ∀ attempt, attempt + 1 < SQLITE_LOCK_MAX_RETRIES →
    (∀ turn ≤ attempt, execution.meetsLock world turn) →
      Replayable Performed (execution.answer world attempt)

/-- The loop replays nothing exactly where the locks come before the operations. -/
theorem replaysOnlyIdle_iff (Performed : R → Prop) (execution : Execution W R) (world : W) :
    ReplaysOnlyIdle Performed (execution.executeWithRetry world) ↔
      LocksComeFirst Performed execution world := by
  have hcalls := fun call => @Execution.mem_dropLast_executeLoop _ _ execution world call
    SQLITE_LOCK_MAX_RETRIES 0 (Nat.zero_add _)
  constructor
  · intro honly attempt hfew hlocks
    apply honly
    rw [Execution.executeWithRetry]
    exact (hcalls _).mpr ⟨attempt, Nat.zero_le _, hfew, fun turn _ hle => hlocks turn hle, rfl⟩
  · intro hfirst call hcall
    rw [Execution.executeWithRetry] at hcall
    obtain ⟨last, -, hfew, hlocks, rfl⟩ := (hcalls call).mp hcall
    exact hfirst last hfew fun turn hle => hlocks turn (Nat.zero_le _) hle

/-! ## The signer under the loop -/

/-- `run_once` of a signer whose chats are run once. -/
def Execution.ofTask (task : SignTask W) (sleep : ℕ → RunnerWorld W → Exit Unit × RunnerWorld W) :
    Execution (RunnerWorld W) (List (RunLog ActionRun)) where
  runOnce world :=
    { exit := (signOnce task world).1
      record := (signOnce task world).2.attempts
      world := (signOnce task world).2.world }
  sleep := sleep

/-- Some call of the executor left its receipt in another state than it began with. -/
def OperationPerformed (attempts : List (RunLog ActionRun)) : Prop :=
  ∃ log ∈ attempts, ∃ run, CalledIn run log ∧ Touched run

def lockedError : PyError where
  name := "OperationalError"
  message := "database is locked"

/-- A task of one chat with one action. -/
def checkinTask : SignTask (List (Bool × Exit RunnerResult)) where
  signer := Signer.scripted
  env := scriptedEnv
  chats := [{ chatId := .number 1, compiled := .ok checkinGraph }]
  warmUp _ world := (.returned (), world)
  interval world := (.returned (), world)
  writeRecord _ world := (.returned (), world)

def checkinExecution : Execution
    (RunnerWorld (List (Bool × Exit RunnerResult))) (List (RunLog ActionRun)) :=
  .ofTask checkinTask fun _ world => (.returned (), world)

/-- The calls of the backend where the storage is locked after the message was sent. -/
def lockedCalls : List (OnceReply (RunnerWorld (List (Bool × Exit RunnerResult)))
    (List (RunLog ActionRun))) :=
  (checkinExecution.executeWithRetry
    { runner := [(true, .raised lockedError), (true, .returned {})] }).calls

/-- Some call of an outermost run touched its receipt. -/
def touches (attempts : List (RunLog ActionRun)) : Bool :=
  attempts.any fun log => log.visits.any fun visit => visit.attempts.any fun attempt =>
    attempt.calls.any fun run => run.receiptState != .notStarted

theorem operationPerformed_of_touches {attempts : List (RunLog ActionRun)}
    (htouches : touches attempts = true) : OperationPerformed attempts := by
  simp only [touches, List.any_eq_true, bne_iff_ne] at htouches
  obtain ⟨log, hlog, visit, hvisit, attempt, hattempt, run, hrun, hstate⟩ := htouches
  exact ⟨log, hlog, run, .own hvisit hattempt hrun, hstate⟩

/-- One call is followed by another, and it sent the message. -/
theorem lockedCalls_shown : lockedCalls.dropLast.map
      (fun call => (touches call.record, reportsUnknown call.exit)) = [(true, true)] := by
  decide +kernel

/-- The storage is locked after the message was sent.  The executor reports that the
result is unknown and stops the replay; the backend finds the text it quotes and calls
`run_once` again. -/
theorem sent_message_replayed : ¬ReplaysOnlyIdle OperationPerformed
      (checkinExecution.executeWithRetry
        { runner := [(true, .raised lockedError), (true, .returned {})] }) := by
  intro honly
  obtain ⟨call, hcall, hshown⟩ := List.mem_map.mp
    (lockedCalls_shown.symm ▸ List.mem_singleton_self (true, true))
  rw [lockedCalls] at hcall
  have htouches : touches call.record = true := congrArg Prod.fst hshown
  exact (honly call hcall).idle (operationPerformed_of_touches htouches)

end SignPulse.ExecutionLoop
