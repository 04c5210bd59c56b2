import SignPulse.Signer.CarriedPolicies
import SignPulse.Signer.Requirements

/-!
# Routing to an engine

`task_requires_semantic` looks for semantic policies in what is configured, and
`resolve_execution_engine` sends a chat or a task to one of the two engines.  A chat comes as an
object or as a dictionary, a task with `chats` as well.
-/

namespace SignPulse.FlowRouting

open Foundation
open FlowModels (PyError SupportAction)
open ChainedRuns (Config getEntry isTrue)
open ChatConfigs
open ChatGraphs
open GraphData (actionName actionValue)
open Requirements (orNext)

/-! ## What is routed -/

/-- The dictionary of a chat.  One with `chats` is that of a task. -/
structure ChatDict where
  entries : Config
  noChats : Dict.hasKey entries "chats" = false

inductive ChatSource where
  | object (chat : ValidChat)
  | dict (chat : ChatDict)

/-- A chat or a task, which has its `execution_engine` beside its chats. -/
inductive Routed where
  | chat (source : ChatSource)
  | taskObject (engine : Option String) (chats : List ValidChat)
  | taskDict (engine : PyValue) (chats : List ChatSource)

def Routed.sources : Routed → List ChatSource
  | .chat source => [source]
  | .taskObject _ chats => chats.map .object
  | .taskDict _ chats => chats

/-! ## Compiling -/

def allActions : List SupportAction :=
  [.sendText, .sendDice, .clickKeyboardByText, .chooseOptionByImage, .replyByCalculationProblem,
    .replyByImageRecognition, .clickButtonByCalculationProblem, .keywordNotify, .customPlugin]

/-- `act["action"] = SupportAction[act["action"].upper()]`, where there is one of this name. -/
def namedAction : PyValue → PyValue
  | .dict act =>
    match getEntry act "action" with
    | .str name =>
      match allActions.find? fun action => actionName action = pyUpper name with
      | some action => .dict (Dict.setItem act "action" (.int (actionValue action)))
      | none => .dict act
    | _ => .dict act
  | value => value

/-- The dictionary that is given to `SignChatV3`. -/
def chatEntries (entries : Config) : Config :=
  let entries := setDefault entries "chat_id" (.int 0)
  match Dict.getItem entries "actions" with
  | some (.list actions) => Dict.setItem entries "actions" (.list (actions.map namedAction))
  | _ => entries

/-- A dictionary that is compiled as a graph. -/
def isGraph (entries : Config) : Bool :=
  Dict.hasKey entries "nodes" &&
    (Dict.hasKey entries "entry_node_id" || Dict.hasKey entries "max_total_steps")

section Compiling

variable (classes : NodeClasses) (models : Models) (settings : Settings)
  (load : Config → Except PyError ValidChat)

/-- `GraphNormalizer.compile`.  `load` is the constructor of `SignChatV3`. -/
def compileSource : ChatSource → Except PyError ChatGraph
  | .object chat => compile (models.reading classes) settings chat.toSignChatV3
  | .dict chat =>
    if isGraph chat.entries then do
      let graph ← fromDict classes chat.entries
      let graph := { graph with maxTotalSteps := maxTotalSteps graph.nodes }
      models.validate graph
      return graph
    else do
      let loaded ← load (chatEntries chat.entries)
      compile (models.reading classes) settings loaded.toSignChatV3

/-- An active policy is configured somewhere in what is compiled. -/
def SourceConfigured : ChatSource → Prop
  | .object chat => ChatConfigured classes models chat.toSignChatV3
  | .dict chat =>
    if isGraph chat.entries = true then Configured classes chat.entries
    else ∃ loaded, load (chatEntries chat.entries) = .ok loaded ∧
      ChatConfigured classes models loaded.toSignChatV3

theorem carries_compileSource {source : ChatSource} {graph : ChatGraph}
    (hcompile : compileSource classes models settings load source = .ok graph) :
    Carries graph ↔ SourceConfigured classes models load source := by
  cases source with
  | object chat => exact carries_compile chat hcompile
  | dict chat =>
    unfold compileSource at hcompile
    unfold SourceConfigured
    dsimp only at hcompile ⊢
    split at hcompile
    · next hgraph =>
      obtain ⟨parsed, hparsed, hcompile⟩ := bind_eq_ok.mp hcompile
      obtain ⟨-, -, hcompile⟩ := bind_eq_ok.mp hcompile
      cases hcompile
      rw [if_pos hgraph, ← carries_iff_configured hparsed, carries_iff, carries_iff]
    · next hgraph =>
      obtain ⟨loaded, hload, hcompile⟩ := bind_eq_ok.mp hcompile
      rw [if_neg hgraph, carries_compile loaded hcompile]
      constructor
      · exact fun hconfigured => ⟨loaded, hload, hconfigured⟩
      · rintro ⟨other, hother, hconfigured⟩
        obtain rfl := Except.ok.inj (hload.symm.trans hother)
        exact hconfigured

end Compiling

/-! ## Detection -/

/-- `mode in {"observe", "assist"}`.  A value that cannot be hashed cannot be looked up. -/
def modeShown : PyValue → Except PyError Bool
  | .str mode => .ok (decide (mode ∈ ["observe", "assist"]))
  | .list _ | .dict _ =>
    .error { name := "TypeError", message := "unhashable type", isTypeError := true }
  | _ => .ok false

def policyShown : PyValue → Except PyError Bool
  | .dict policy => modeShown (getEntry policy "mode")
  | _ => .ok false

/-- `_has_sem`, of what an object has under the keys of policies. -/
def hasSem (values : List PyValue) : Except PyError Bool := values.anyM policyShown

def ofPolicy : Option Config → PyValue
  | some policy => .dict policy
  | none => .none

def actionValues (act : SignAction) : List PyValue :=
  [ofPolicy act.semanticResult, ofPolicy act.semanticButton, ofPolicy act.semanticTriage]

/-- A step of the older class has none of the attributes. -/
def stepValues : StepConfig → List PyValue
  | .workflow _ => []
  | .flow step => [ofPolicy step.semanticResult]

def itemValues : PyValue → List PyValue
  | .dict entries => semanticKeys.map fun key => getEntry entries key
  | _ => []

/-- The items of a loop that is only run over what is true. -/
def iterated (value : PyValue) : Except PyError (List PyValue) :=
  if isTrue value then
    match value with
    | .list items => .ok items
    | .dict entries => .ok (entries.map fun entry => .str entry.1)
    | .str text => .ok (text.toList.map fun c => .str (String.singleton c))
    | _ => .error { name := "TypeError", message := "object is not iterable", isTypeError := true }
  else .ok []

/-- `task_requires_semantic`, of a chat.  A chat that is an object has no policies of its own. -/
def chatRequiresSemantic : ChatSource → Except PyError Bool
  | .object chat =>
    orNext ((chat.steps.getD []).anyM fun step => hasSem (stepValues step))
      ((chat.actions.getD []).anyM fun act => hasSem (actionValues act))
  | .dict chat =>
    orNext (hasSem (itemValues (.dict chat.entries))) <| orNext
        (do
          let steps ← iterated (getEntry chat.entries "steps")
          steps.anyM fun step => hasSem (itemValues step))
        (do
          let actions ← iterated (getEntry chat.entries "actions")
          actions.anyM fun act => hasSem (itemValues act))

/-- `task_requires_semantic`. -/
def taskRequiresSemantic : Routed → Except PyError Bool
  | .chat source => chatRequiresSemantic source
  | .taskObject _ chats => chats.anyM fun chat => chatRequiresSemantic (.object chat)
  | .taskDict _ chats => chats.anyM chatRequiresSemantic

/-! ## Engines -/

inductive Engine where
  | v4 | v3
  deriving DecidableEq, Repr

def Engine.code : Engine → String
  | .v4 => "v4"
  | .v3 => "v3"

structure EngineResolutionResult where
  engine : Engine
  source : String

/-- Environment variables, and `int` and `str` of what they are called with. -/
structure Environment where
  getenv : String → Option String
  intOf : String → Option ℤ
  strOf : PyValue → String

def flowStepKeys : List String :=
  ["node_type", "cases", "filter_patterns", "success_patterns", "failure_patterns",
    "delay_seconds", "regex", "subflow_graph", "branches", "terminal_branch_target"]

def isFlowStep : PyValue → Bool
  | .dict step => flowStepKeys.any fun key => Dict.hasKey step key
  | _ => false

def waitsForReply : PyValue → Bool
  | .dict act => isTrue (getEntry act "wait_for_reply")
  | _ => false

def StepConfig.isFlow : StepConfig → Bool
  | .workflow _ => false
  | .flow _ => true

/-- The rest of `_chat_requires_flow_engine`. -/
def hasFlowParts : ChatSource → Except PyError Bool
  | .object chat =>
    .ok ((chat.flowGraph.any fun graph => !graph.isEmpty) ||
      (chat.steps.getD []).any StepConfig.isFlow ||
        (chat.actions.getD []).any SignAction.waitForReply)
  | .dict chat =>
    orNext (.ok (isTrue (getEntry chat.entries "flow_graph"))) <| orNext
        (do
          let steps ← iterated (getEntry chat.entries "steps")
          return steps.any isFlowStep)
        (do
          let actions ← iterated (getEntry chat.entries "actions")
          return actions.any waitsForReply)

/-- `_chat_requires_flow_engine`. -/
def chatRequiresFlowEngine (source : ChatSource) : Except PyError Bool :=
  orNext (chatRequiresSemantic source) (hasFlowParts source)

/-- `requires_flow`.  A task that is an object has none of the parts of a chat. -/
def requiresFlow : Option Routed → Except PyError Bool
  | none => .ok false
  | some (.chat source) => chatRequiresFlowEngine source
  | some (.taskObject engine chats) => taskRequiresSemantic (.taskObject engine chats)
  | some (.taskDict _ chats) => chats.anyM chatRequiresFlowEngine

section Resolution

variable (env : Environment)

def Environment.toStr : PyValue → String
  | .str text => text
  | value => env.strOf value

/-- `os.getenv(name, default).strip().lower()`. -/
def Environment.setting (name default : String) : String :=
  pyLower (pyStrip ((env.getenv name).getD default))

/-- `env_engine_override`. -/
def engineOverride : Option Engine :=
  let raw := env.setting "PULSEFLOW_ENGINE_OVERRIDE" ""
  if raw ∈ ["classic", "v3"] then some .v3
  else if raw ∈ ["pulseflow", "v4"] then some .v4
  else none

/-- `value is not None and str(value).strip().lower() == engine`. -/
def names (value : PyValue) (engine : Engine) : Bool :=
  match value with
  | .none => false
  | value => pyLower (pyStrip (env.toStr value)) = engine.code

def sourceEngine : ChatSource → PyValue
  | .object chat => ofText chat.executionEngine
  | .dict chat => getEntry chat.entries "execution_engine"

/-- `execution_engine` of `target_chat`. -/
def targetEngine : Option Routed → PyValue
  | some (.chat source) => sourceEngine source
  | some (.taskObject engine _) => ofText engine
  | _ => .none

/-- `task_cfg_chats`. -/
def taskCfgChats : Option Routed → List ChatSource
  | some (.taskDict _ chats) => chats
  | _ => []

/-- `task_engine`: what is given, or that of the task. -/
def taskEngineOf : Option Routed → PyValue → PyValue
  | some (.taskDict engine _), .none => engine
  | _, taskEngine => taskEngine

def crcBit (crc : ℕ) : ℕ :=
  if crc % 2 = 1 then crc / 2 ^^^ 0xEDB88320 else crc / 2

def crcByte (crc : ℕ) (byte : UInt8) : ℕ := crcBit^[8] (crc ^^^ byte.toNat)

/-- `zlib.crc32`. -/
def crc32 (bytes : List UInt8) : ℕ := bytes.foldl crcByte 0xFFFFFFFF ^^^ 0xFFFFFFFF

def canaryHashBucket (key : String) (totalBuckets : ℕ) : ℕ :=
  if key = "" then 0
  else crc32 (key.toList.flatMap String.utf8EncodeChar) % max 1 totalBuckets

/-- `str(hash_target)`. -/
def hashTarget : Option Routed → Option String
  | some (.chat (.object chat)) =>
    if chat.chatId ≠ 0 then some (env.toStr (.int chat.chatId))
    else chat.name.filter (· ≠ "")
  | some (.chat (.dict chat)) =>
    let target := orElse (getEntry chat.entries "chat_id") (getEntry chat.entries "name")
    if isTrue target then some (env.toStr target) else none
  | _ => none

def inCanary (routed : Option Routed) (canaryPercentage : Option ℤ) : Bool :=
  let percentage :=
    canaryPercentage <|> (env.getenv "CANARY_PULSEFLOW_PERCENTAGE").bind env.intOf
  match percentage, hashTarget env routed with
  | some pct, some target =>
    0 < pct && pct ≤ 100 && (canaryHashBucket target 100 : ℤ) < pct
  | _, _ => false

/-- `USE_PULSEFLOW_ENGINE` asks for the newer engine. -/
def envAsks : Bool :=
  decide (env.setting "USE_PULSEFLOW_ENGINE" "" ∈ ["1", "true", "yes", "on", "v4"]) ||
    (((env.getenv "USE_PULSEFLOW_ENGINE").bind env.intOf).any fun value => max value 0 = 1)

/-- Why the newer engine is taken where nothing requires it and nothing overrides it. -/
def defaultSource (routed : Option Routed) (taskEngine globalEngine : PyValue)
    (canaryPercentage : Option ℤ) : String :=
  if names env (targetEngine routed) .v4 || names env taskEngine .v4 then "task"
  else if names env globalEngine .v4 then "settings"
  else if inCanary env routed canaryPercentage then "canary"
  else if envAsks env then
    let source := env.setting "PULSEFLOW_ENGINE_SOURCE" "env"
    if source ∈ ["env", "settings"] then source else "env"
  else "default"

/-- `explicit_v3`. -/
def explicitV3 (routed : Option Routed) (taskEngine : PyValue) : Bool :=
  engineOverride env = some .v3 || names env taskEngine .v3 ||
    names env (targetEngine routed) .v3 ||
      (taskCfgChats routed).any fun source => names env (sourceEngine source) .v3

/-- `explicit_v4`. -/
def explicitV4 (routed : Option Routed) (taskEngine : PyValue) : Bool :=
  engineOverride env = some .v4 || names env taskEngine .v4 || names env (targetEngine routed) .v4

/-- `resolve_execution_engine`. -/
def resolveExecutionEngine (routed : Option Routed) (givenEngine globalEngine : PyValue)
    (canaryPercentage : Option ℤ) : Except PyError EngineResolutionResult := do
  let taskEngine := taskEngineOf routed givenEngine
  if ← requiresFlow routed then
    if explicitV3 env routed taskEngine then
      throw
        { name := "ValueError"
          message :=
            "工作流包含图结构/控制节点，无法在经典执行引擎上运行，请移除 execution_engine='v3' 或配置为 'v4'" }
    return {
      engine := .v4
      source :=
        if explicitV4 env routed taskEngine then "task"
        else if engineOverride env = some .v4 then "override" else "auto" }
  match engineOverride env with
  | some engine => return { engine, source := "override" }
  | none =>
    return {
      engine := .v4
      source := defaultSource env routed taskEngine globalEngine canaryPercentage }

end Resolution

end SignPulse.FlowRouting
