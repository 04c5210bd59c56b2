import SignPulse.Signer.ChatRun

/-!
# The chats of a task

`_run_config_chats` and `sign_once` of `signer_runner.py`: the chats of a task are
run in turn, and what one of them raises is kept until all of them are done.  If none
succeeded, an exception with the text of the last one is raised, and with nothing else
of it.
-/

namespace SignPulse.ConfigRun

open FlowModels
open RunEnvironment
open TelegramExecutor
open ChatRun

variable {W : Type}

/-- The columns of a row of `target_results` that `sign_once` reads; the error of a
row is that of its column `error`. -/
structure TargetRow where
  chatId : ChatId
  threadId : Option ℤ
  completed : Bool
  error : Option PyError := none

/-- The signer with the chats of its task and what surrounds their runs. -/
structure SignTask (W : Type) where
  signer : Signer W
  env : Env (RunnerWorld W) ActionRun
  chats : List Chat
  /-- `sign_a_chat` up to the run of the flow: resolving the peer. -/
  warmUp : Chat → RunnerWorld W → Exit Unit × RunnerWorld W
  /-- `asyncio.sleep(config.sign_interval)`. -/
  interval : RunnerWorld W → Exit Unit × RunnerWorld W
  /-- Noting the targets that are done in the file of the records. -/
  writeRecord : List TargetRow → RunnerWorld W → Exit Unit × RunnerWorld W

/-- The state of `_run_config_chats`, with the logs of all attempts. -/
structure ChatsState (W : Type) where
  world : RunnerWorld W
  rows : List TargetRow := []
  lastChatError : Option PyError := none
  attempts : List (RunLog ActionRun) := []

/-- `sign_a_chat`. -/
def signAChat (task : SignTask W) (chat : Chat) (world : RunnerWorld W) : ChatReply W :=
  match task.warmUp chat world with
  | (.returned (), world) => task.signer.runPulseflowChat task.env chat world
  | (.raised error, world) => { exit := .raised error, world, attempts := [] }
  | (.cancelled level, world) => { exit := .cancelled level, world, attempts := [] }

namespace ChatsState

/-- A chat was run, whatever came of it. -/
def took (state : ChatsState W) (reply : ChatReply W) : ChatsState W :=
  { state with world := reply.world, attempts := state.attempts ++ reply.attempts }

def completeRow (state : ChatsState W) (chat : Chat) : ChatsState W :=
  { state with
    rows := state.rows ++
      [{ chatId := chat.chatId, threadId := chat.messageThreadId, completed := true }] }

def failRow (state : ChatsState W) (chat : Chat) (error : PyError) : ChatsState W :=
  { state with
    rows := state.rows ++
      [{ chatId := chat.chatId, threadId := chat.messageThreadId, completed := false,
         error := some error }]
    lastChatError := some error }

end ChatsState

/-- `_run_config_chats`. -/
def runConfigChats (task : SignTask W) : List Chat → ChatsState W → Exit Unit × ChatsState W
  | [], state => (.returned (), state)
  | chat :: rest, state =>
    let reply := signAChat task chat state.world
    let state := state.took reply
    match reply.exit with
    | .cancelled level => (.cancelled level, state.completeRow chat)
    | .raised error => runConfigChats task rest (state.failRow chat error)
    | .returned () =>
      let state := state.completeRow chat
      match task.interval state.world with
      | (.returned (), world) => runConfigChats task rest { state with world }
      | (.raised error, world) => (.raised error, { state with world })
      | (.cancelled level, world) => (.cancelled level, { state with world })

/-- The exception of a task none of whose chats succeeded. -/
def allFailedError : Option PyError → PyError
  | some lastChatError => { name := "RuntimeError", message := lastChatError.message }
  | none =>
    { name := "RuntimeError", message := "所有会话均执行失败（详细请看运行日志）" }

/-- `sign_once`. -/
def signOnce (task : SignTask W) (world : RunnerWorld W) : Exit Unit × ChatsState W :=
  match runConfigChats task task.chats { world } with
  | (.returned (), state) =>
    if !state.rows.any TargetRow.completed && !task.chats.isEmpty then
      (.raised (allFailedError state.lastChatError), state)
    else
      let (exit, world) := task.writeRecord state.rows state.world
      (exit, { state with world })
  | reply => reply

/-! ## What is kept of the exceptions -/

end SignPulse.ConfigRun
