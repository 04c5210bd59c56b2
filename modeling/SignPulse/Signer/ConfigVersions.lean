import SignPulse.Signer.ChatConfigs

/-!
# Versions of a configuration

A configuration of an older version is converted when it is loaded as one of the current version.
What the model classes accept for a value of each type is given, and so is what they make of the
actions and steps of a chat.
-/

namespace SignPulse.ConfigVersions

open Foundation
open ChainedRuns (Config)
open ChatConfigs

/-- What a field of each type makes of a value.  A value of the type itself is accepted as it
is. -/
structure Validators where
  Time : Type
  int : PyValue → Option ℤ
  str : PyValue → Option String
  bool : PyValue → Option Bool
  float : PyValue → Option ℚ
  time : PyValue → Option Time
  list : PyValue → Option (List PyValue)
  dict : PyValue → Option Config
  /-- `str(time)`. -/
  timeText : Time → String
  actions : PyValue → Option (List SignAction)
  steps : PyValue → Option (List StepConfig)
  /-- What `_validate_flow_sources` demands of steps. -/
  stepsSound : List StepConfig → Option String → Bool
  int_int : ∀ value, int (.int value) = some value
  str_str : ∀ value, str (.str value) = some value
  bool_bool : ∀ value, bool (.bool value) = some value
  list_list : ∀ items, list (.list items) = some items
  dict_dict : ∀ entries, dict (.dict entries) = some entries

/-! ## Fields -/

section Fields

variable {α : Type*} (parse : PyValue → Option α) (d : Config) (name : String)

def required : Option α :=
  (Dict.getItem d name).bind parse

def withDefault (default : α) : Option α :=
  match Dict.getItem d name with
  | none => some default
  | some value => parse value

def optional : Option (Option α) :=
  match Dict.getItem d name with
  | none => some none
  | some .none => some none
  | some value => (parse value).map some

end Fields

/-! ## The versions -/

structure SignConfigV1 (Time : Type) where
  chatId : ℤ
  signText : String
  signAt : Time
  randomSeconds : ℤ

structure SignChatV2 where
  chatId : ℤ
  deleteAfter : Option ℤ := none
  signText : String
  asDice : Bool := false
  textOfBtnToClick : Option String := none
  chooseOptionByImage : Bool := false
  hasCalculationProblem : Bool := false

structure SignConfigV2 where
  chats : List SignChatV2
  signAt : String
  randomSeconds : ℤ := 0
  signInterval : ℤ := 1
  executionEngine : Option String := none

structure SignConfigV3 where
  chats : List SignChatV3
  signAt : String
  randomSeconds : ℤ := 0
  signInterval : ℤ := 1
  executionEngine : Option String := none

section Loading

variable (validators : Validators)

def SignConfigV1.valid (d : Config) : Option (SignConfigV1 validators.Time) := do
  let chatId ← required validators.int d "chat_id"
  let signText ← required validators.str d "sign_text"
  let signAt ← required validators.time d "sign_at"
  let randomSeconds ← required validators.int d "random_seconds"
  return { chatId, signText, signAt, randomSeconds }

def SignChatV2.ofDict (d : Config) : Option SignChatV2 := do
  let chatId ← required validators.int d "chat_id"
  let deleteAfter ← optional validators.int d "delete_after"
  let signText ← required validators.str d "sign_text"
  let asDice ← withDefault validators.bool d "as_dice" false
  let textOfBtnToClick ← optional validators.str d "text_of_btn_to_click"
  let chooseOptionByImage ← withDefault validators.bool d "choose_option_by_image" false
  let hasCalculationProblem ← withDefault validators.bool d "has_calculation_problem" false
  return {
    chatId
    deleteAfter
    signText
    asDice
    textOfBtnToClick
    chooseOptionByImage
    hasCalculationProblem }

def modelList {α : Type} (ofDict : Config → Option α) (value : PyValue) : Option (List α) :=
  (validators.list value).bind fun items =>
    items.mapM fun item => (validators.dict item).bind ofDict

def SignConfigV2.valid (d : Config) : Option SignConfigV2 := do
  let chats ← required (modelList validators (SignChatV2.ofDict validators)) d "chats"
  let signAt ← required validators.str d "sign_at"
  let randomSeconds ← withDefault validators.int d "random_seconds" 0
  let signInterval ← withDefault validators.int d "sign_interval" 1
  let executionEngine ← optional validators.str d "execution_engine"
  return { chats, signAt, randomSeconds, signInterval, executionEngine }

/-- `_validate_flow_sources`. -/
def flowSourcesValid (chat : SignChatV3) : Bool :=
  [chat.actions.isSome, chat.steps.isSome, chat.flowGraph.isSome].count true = 1 &&
    match chat.steps with
    | none => true
    | some steps => validators.stepsSound steps chat.initialStepId

/-- The constructor. -/
def buildChat (chat : SignChatV3) : Option SignChatV3 :=
  if flowSourcesValid validators chat then some chat else none

def chatOfDict (d : Config) : Option SignChatV3 := do
  let chatId ← required validators.int d "chat_id"
  let name ← optional validators.str d "name"
  let deleteAfter ← optional validators.int d "delete_after"
  let actions ← optional validators.actions d "actions"
  let steps ← optional validators.steps d "steps"
  let flowGraph ← optional validators.dict d "flow_graph"
  let initialStepId ← optional validators.str d "initial_step_id"
  let actionInterval ← withDefault validators.float d "action_interval" 1
  let messageThreadId ← optional validators.int d "message_thread_id"
  let nextTaskOnSuccess ← optional validators.str d "next_task_on_success"
  let nextTaskDelaySeconds ← optional validators.float d "next_task_delay_seconds"
  let executionEngine ← optional validators.str d "execution_engine"
  buildChat validators {
    chatId
    name
    deleteAfter
    actions
    steps
    flowGraph
    initialStepId
    actionInterval
    messageThreadId
    nextTaskOnSuccess
    nextTaskDelaySeconds
    executionEngine }

def SignConfigV3.valid (d : Config) : Option SignConfigV3 := do
  let chats ← required (modelList validators (chatOfDict validators)) d "chats"
  let signAt ← required validators.str d "sign_at"
  let randomSeconds ← withDefault validators.int d "random_seconds" 0
  let signInterval ← withDefault validators.int d "sign_interval" 1
  let executionEngine ← optional validators.str d "execution_engine"
  return { chats, signAt, randomSeconds, signInterval, executionEngine }

/-! ## Conversions -/

/-- `SignConfigV1.to_current`. -/
def SignConfigV1.toCurrent (obj : SignConfigV1 validators.Time) : SignConfigV2 where
  chats := [{ chatId := obj.chatId, signText := obj.signText, deleteAfter := none }]
  signAt := validators.timeText obj.signAt
  randomSeconds := obj.randomSeconds

def actionsOf (chat : SignChatV2) : List SignAction :=
  let send : List SignAction :=
    if chat.signText = "" then []
    else if chat.asDice then [{ kind := .sendDice chat.signText, fieldsSet := ["dice"] }]
    else [{ kind := .sendText chat.signText, fieldsSet := ["text"] }]
  let click : List SignAction :=
    match chat.textOfBtnToClick with
    | none => []
    | some text =>
      if text = "" then []
      else [{ kind := .clickKeyboardByText text, fieldsSet := ["text"] }]
  let choose : List SignAction :=
    if chat.chooseOptionByImage then [{ kind := .chooseOptionByImage none, fieldsSet := [] }]
    else []
  let calculate : List SignAction :=
    if chat.hasCalculationProblem then
      [{ kind := .replyByCalculationProblem none, fieldsSet := [] }]
    else []
  send ++ click ++ choose ++ calculate

/-- `SignConfigV2.to_current`. -/
def SignConfigV2.toCurrent (obj : SignConfigV2) : Option SignConfigV3 := do
  let chats ← obj.chats.mapM fun chat =>
    buildChat validators
      { chatId := chat.chatId, deleteAfter := chat.deleteAfter, actions := some (actionsOf chat) }
  return {
    chats
    signAt := obj.signAt
    randomSeconds := obj.randomSeconds
    signInterval := obj.signInterval }

/-- `SignConfigV3.load`, and whether the configuration was converted. -/
def load (d : Config) : Option (SignConfigV3 × Bool) :=
  match SignConfigV3.valid validators d with
  | some config => some (config, false)
  | none =>
    match SignConfigV2.valid validators d with
    | some old => (SignConfigV2.toCurrent validators old).map fun config => (config, true)
    | none => none

def optionValue {α : Type*} (value : α → PyValue) : Option α → PyValue
  | none => .none
  | some found => value found

def SignChatV2.toJsonable (chat : SignChatV2) : Config :=
  [("chat_id", .int chat.chatId), ("delete_after", optionValue .int chat.deleteAfter),
    ("sign_text", .str chat.signText), ("as_dice", .bool chat.asDice),
    ("text_of_btn_to_click", optionValue .str chat.textOfBtnToClick),
    ("choose_option_by_image", .bool chat.chooseOptionByImage),
    ("has_calculation_problem", .bool chat.hasCalculationProblem)]

/-- `to_jsonable` of version 2. -/
def SignConfigV2.toJsonable (config : SignConfigV2) : Config :=
  [("chats", .list (config.chats.map fun chat => .dict chat.toJsonable)),
    ("sign_at", .str config.signAt), ("random_seconds", .int config.randomSeconds),
    ("sign_interval", .int config.signInterval),
    ("execution_engine", optionValue .str config.executionEngine)]

end Loading

/-! ## What a configuration expresses -/

/-- What is done in a chat. -/
inductive Deed where
  | sendText (text : String)
  | sendDice (dice : String)
  | clickButton (text : String)
  | chooseByImage
  | calculate

/-- What is done is done in this order. -/
def Deed.rank : Deed → ℕ
  | .sendText _ => 0
  | .sendDice _ => 0
  | .clickButton _ => 1
  | .chooseByImage => 2
  | .calculate => 3

def SignChatV2.Asks (chat : SignChatV2) : Deed → Prop
  | .sendText text => chat.signText = text ∧ text ≠ "" ∧ chat.asDice = false
  | .sendDice dice => chat.signText = dice ∧ dice ≠ "" ∧ chat.asDice = true
  | .clickButton text => chat.textOfBtnToClick = some text ∧ text ≠ ""
  | .chooseByImage => chat.chooseOptionByImage = true
  | .calculate => chat.hasCalculationProblem = true

def Deed.action : Deed → SignAction
  | .sendText text => { kind := .sendText text, fieldsSet := ["text"] }
  | .sendDice dice => { kind := .sendDice dice, fieldsSet := ["dice"] }
  | .clickButton text => { kind := .clickKeyboardByText text, fieldsSet := ["text"] }
  | .chooseByImage => { kind := .chooseOptionByImage none, fieldsSet := [] }
  | .calculate => { kind := .replyByCalculationProblem none, fieldsSet := [] }

/-- The chat is the same one, with all that is asked for as its actions, each once and in order,
and has no other settings. -/
def SameChat (old : SignChatV2) (new : SignChatV3) : Prop :=
  ∃ deeds : List Deed, (∀ deed, deed ∈ deeds ↔ old.Asks deed) ∧
    deeds.Pairwise (fun first second => first.rank < second.rank) ∧
    new = { chatId := old.chatId, deleteAfter := old.deleteAfter,
            actions := some (deeds.map Deed.action) }

structure SameSettings (old : SignConfigV2) (new : SignConfigV3) : Prop where
  chats : List.Forall₂ SameChat old.chats new.chats
  signAt : new.signAt = old.signAt
  randomSeconds : new.randomSeconds = old.randomSeconds
  signInterval : new.signInterval = old.signInterval
  executionEngine : new.executionEngine = old.executionEngine

/-- The text of version 1 is sent to its one chat at its time. -/
structure SameAsV1 (validators : Validators) (old : SignConfigV1 validators.Time)
    (new : SignConfigV3) : Prop where
  chats : ∃ chat, new.chats = [chat] ∧
    SameChat { chatId := old.chatId, signText := old.signText } chat
  signAt : new.signAt = validators.timeText old.signAt
  randomSeconds : new.randomSeconds = old.randomSeconds
  defaults : new.signInterval = 1 ∧ new.executionEngine = none

/-- What is sent. -/
def sendDeeds (chat : SignChatV2) : List Deed :=
  if chat.signText = "" then []
  else if chat.asDice then [.sendDice chat.signText] else [.sendText chat.signText]

def clickDeeds (chat : SignChatV2) : List Deed :=
  match chat.textOfBtnToClick with
  | none => []
  | some text => if text = "" then [] else [.clickButton text]

def deedsOf (chat : SignChatV2) : List Deed :=
  sendDeeds chat ++ clickDeeds chat ++
    (if chat.chooseOptionByImage then [.chooseByImage] else []) ++
    (if chat.hasCalculationProblem then [.calculate] else [])

theorem actionsOf_eq (chat : SignChatV2) : actionsOf chat = (deedsOf chat).map Deed.action := by
  simp only [actionsOf, deedsOf, sendDeeds, clickDeeds]
  rw [List.map_append, List.map_append, List.map_append]
  congr 1
  · congr 1
    · congr 1
      · split
        · rfl
        · split <;> rfl
      · split
        · rfl
        · split <;> rfl
    · split <;> rfl
  · split <;> rfl

variable {chat : SignChatV2} {deed : Deed}

theorem mem_sendDeeds : deed ∈ sendDeeds chat ↔ chat.signText ≠ "" ∧
      deed = if chat.asDice then .sendDice chat.signText else .sendText chat.signText := by
  unfold sendDeeds
  split
  · next hempty => simp [hempty]
  · next hsome =>
    split
    · simp [hsome]
    · simp [hsome]

theorem mem_clickDeeds : deed ∈ clickDeeds chat ↔
      ∃ text, chat.textOfBtnToClick = some text ∧ text ≠ "" ∧ deed = .clickButton text := by
  unfold clickDeeds
  split
  · next hnone => simp [hnone]
  · next text hsome =>
    rw [hsome]
    split
    · next hempty => simp [hempty]
    · next hfull => simp [hfull]

theorem mem_deedsOf (chat : SignChatV2) (deed : Deed) : deed ∈ deedsOf chat ↔ chat.Asks deed := by
  have hchoose : (deed ∈ if chat.chooseOptionByImage then [Deed.chooseByImage] else []) ↔
      chat.chooseOptionByImage = true ∧ deed = .chooseByImage := by
    split <;> simp_all
  have hcalculate : (deed ∈ if chat.hasCalculationProblem then [Deed.calculate] else []) ↔
      chat.hasCalculationProblem = true ∧ deed = .calculate := by
    split <;> simp_all
  unfold deedsOf
  rw [List.mem_append, List.mem_append, List.mem_append, mem_sendDeeds, mem_clickDeeds, hchoose,
    hcalculate]
  cases deed with
  | sendText text =>
    unfold SignChatV2.Asks
    cases chat.asDice
    · simp
      grind
    · simp
  | sendDice dice =>
    unfold SignChatV2.Asks
    cases chat.asDice
    · simp
    · simp
      grind
  | clickButton text =>
    unfold SignChatV2.Asks
    cases chat.asDice <;> simp
  | chooseByImage =>
    unfold SignChatV2.Asks
    cases chat.asDice <;> simp
  | calculate =>
    unfold SignChatV2.Asks
    cases chat.asDice <;> simp

theorem rank_of_mem_send (hmem : deed ∈ sendDeeds chat) : deed.rank = 0 := by
  rw [(mem_sendDeeds.mp hmem).2]
  split <;> rfl

theorem rank_of_mem_click (hmem : deed ∈ clickDeeds chat) : deed.rank = 1 := by
  obtain ⟨text, -, -, rfl⟩ := mem_clickDeeds.mp hmem
  rfl

theorem rank_of_mem_if {asked : Bool} {only : Deed} (hmem : deed ∈ if asked then [only] else []) :
    deed.rank = only.rank := by
  split at hmem
  · rw [List.mem_singleton.mp hmem]
  · exact absurd hmem List.not_mem_nil

theorem pairwise_deedsOf (chat : SignChatV2) :
    (deedsOf chat).Pairwise (fun first second => first.rank < second.rank) := by
  have hif : ∀ (asked : Bool) (only : Deed), (if asked then [only] else []).Pairwise
      (fun first second : Deed => first.rank < second.rank) := by
    intro asked only
    split
    · exact List.pairwise_singleton _ _
    · exact List.Pairwise.nil
  have hsend : (sendDeeds chat).Pairwise (fun first second => first.rank < second.rank) := by
    unfold sendDeeds
    split
    · exact List.Pairwise.nil
    · split
      · exact List.pairwise_singleton _ _
      · exact List.pairwise_singleton _ _
  have hclick : (clickDeeds chat).Pairwise (fun first second => first.rank < second.rank) := by
    unfold clickDeeds
    split
    · exact List.Pairwise.nil
    · split
      · exact List.Pairwise.nil
      · exact List.pairwise_singleton _ _
  unfold deedsOf
  refine List.pairwise_append.mpr ⟨List.pairwise_append.mpr ⟨List.pairwise_append.mpr
    ⟨hsend, hclick, fun first hfirst second hsecond => ?_⟩, hif _ _,
      fun first hfirst second hsecond => ?_⟩, hif _ _, fun first hfirst second hsecond => ?_⟩
  · rw [rank_of_mem_send hfirst, rank_of_mem_click hsecond]
    decide
  · rw [rank_of_mem_if hsecond]
    rcases List.mem_append.mp hfirst with hmem | hmem
    · rw [rank_of_mem_send hmem]
      decide
    · rw [rank_of_mem_click hmem]
      decide
  · rw [rank_of_mem_if hsecond]
    rcases List.mem_append.mp hfirst with hearly | hmem
    · rcases List.mem_append.mp hearly with hmem | hmem
      · rw [rank_of_mem_send hmem]
        decide
      · rw [rank_of_mem_click hmem]
        decide
    · rw [rank_of_mem_if hmem]
      decide

variable {validators : Validators}

theorem buildChat_of_actions {chat : SignChatV3} (hactions : chat.actions.isSome = true)
    (hsteps : chat.steps = none) (hgraph : chat.flowGraph = none) :
    buildChat validators chat = some chat := by
  refine if_pos ?_
  rw [flowSourcesValid, hactions, hsteps, hgraph]
  rfl

theorem buildChat_of_none {chat : SignChatV3} (hactions : chat.actions = none)
    (hsteps : chat.steps = none) (hgraph : chat.flowGraph = none) :
    buildChat validators chat = none := by
  refine if_neg ?_
  rw [flowSourcesValid, hactions, hsteps, hgraph]
  exact Bool.false_ne_true

theorem mapM_some {α β : Type*} (f : α → β) {g : α → Option β} (hall : ∀ item, g item = some (f item))
    (items : List α) : items.mapM g = some (items.map f) := by
  have hg : g = fun item => some (f item) := funext hall
  rw [hg]
  exact List.mapM_pure

def converted (chat : SignChatV2) : SignChatV3 :=
  { chatId := chat.chatId, deleteAfter := chat.deleteAfter, actions := some (actionsOf chat) }

theorem sameChat_converted (chat : SignChatV2) : SameChat chat (converted chat) :=
  ⟨deedsOf chat, mem_deedsOf chat, pairwise_deedsOf chat, by rw [converted, actionsOf_eq]⟩

/-- A conversion never fails, and keeps all but the execution engine. -/
theorem toCurrent_eq (old : SignConfigV2) : SignConfigV2.toCurrent validators old = some
      { chats := old.chats.map converted, signAt := old.signAt,
        randomSeconds := old.randomSeconds, signInterval := old.signInterval } := by
  have hchats : old.chats.mapM (fun chat => buildChat validators (converted chat)) =
      some (old.chats.map converted) :=
    mapM_some converted (fun chat => buildChat_of_actions rfl rfl rfl) old.chats
  change (old.chats.mapM (fun chat => buildChat validators (converted chat))).bind _ = _
  rw [hchats]
  rfl

theorem sameChats_map (chats : List SignChatV2) :
    List.Forall₂ SameChat chats (chats.map converted) := by
  rw [List.forall₂_map_right_iff]
  exact List.forall₂_same.mpr fun chat _ => sameChat_converted chat

/-! ## Loading -/

theorem loaded_iff {d : Config} {old : SignConfigV2}
    (hvalid : SignConfigV2.valid validators d = some old) :
    (∃ new, load validators d = some (new, true) ∧ SameSettings old new) ↔
      SignConfigV3.valid validators d = none ∧ old.executionEngine = none := by
  unfold load
  constructor
  · rintro ⟨new, hload, hsame⟩
    cases hthird : SignConfigV3.valid validators d with
    | some config =>
      rw [hthird] at hload
      cases hload
    | none =>
      rw [hthird, hvalid] at hload
      dsimp only at hload
      rw [toCurrent_eq, Option.map_some] at hload
      obtain ⟨rfl, -⟩ := Prod.mk.inj (Option.some.inj hload)
      exact ⟨rfl, hsame.executionEngine.symm⟩
  · rintro ⟨hthird, hengine⟩
    rw [hthird, hvalid]
    dsimp only
    rw [toCurrent_eq]
    exact ⟨_, rfl, sameChats_map old.chats, rfl, rfl, rfl, hengine.symm⟩

theorem optional_int (found : Option ℤ) {d : Config} {name : String}
    (hget : Dict.getItem d name = some (optionValue .int found)) :
    optional validators.int d name = some found := by
  rw [optional, hget]
  cases found with
  | none => rfl
  | some value => exact congrArg (Option.map some) (validators.int_int value)

theorem optional_str (found : Option String) {d : Config} {name : String}
    (hget : Dict.getItem d name = some (optionValue .str found)) :
    optional validators.str d name = some found := by
  rw [optional, hget]
  cases found with
  | none => rfl
  | some value => exact congrArg (Option.map some) (validators.str_str value)

theorem ofDict_toJsonable (chat : SignChatV2) :
    SignChatV2.ofDict validators chat.toJsonable = some chat := by
  have hchatId : required validators.int chat.toJsonable "chat_id" = some chat.chatId :=
    validators.int_int chat.chatId
  have hdelete : optional validators.int chat.toJsonable "delete_after" = some chat.deleteAfter :=
    optional_int chat.deleteAfter rfl
  have htext : required validators.str chat.toJsonable "sign_text" = some chat.signText :=
    validators.str_str chat.signText
  have hdice : withDefault validators.bool chat.toJsonable "as_dice" false = some chat.asDice :=
    validators.bool_bool chat.asDice
  have hclick : optional validators.str chat.toJsonable "text_of_btn_to_click" =
      some chat.textOfBtnToClick := optional_str chat.textOfBtnToClick rfl
  have hchoose : withDefault validators.bool chat.toJsonable "choose_option_by_image" false =
      some chat.chooseOptionByImage := validators.bool_bool chat.chooseOptionByImage
  have hcalculate : withDefault validators.bool chat.toJsonable "has_calculation_problem" false =
      some chat.hasCalculationProblem := validators.bool_bool chat.hasCalculationProblem
  rw [SignChatV2.ofDict, hchatId, hdelete, htext, hdice, hclick, hchoose, hcalculate]
  rfl

theorem required_chats {α : Type} (ofDict : Config → Option α) (config : SignConfigV2) :
    required (modelList validators ofDict) config.toJsonable "chats" =
      config.chats.mapM fun chat => ofDict chat.toJsonable := by
  have hlist : required (modelList validators ofDict) config.toJsonable "chats" =
      (config.chats.map fun chat => PyValue.dict chat.toJsonable).mapM
        fun item => (validators.dict item).bind ofDict :=
    congrArg (Option.bind · _) (validators.list_list _)
  rw [hlist, List.mapM_map]
  refine congrArg (fun step => config.chats.mapM step) (funext fun chat => ?_)
  exact congrArg (Option.bind · ofDict) (validators.dict_dict chat.toJsonable)

theorem valid_toJsonable (config : SignConfigV2) :
    SignConfigV2.valid validators config.toJsonable = some config := by
  have hchats : required (modelList validators (SignChatV2.ofDict validators)) config.toJsonable
      "chats" = some config.chats := by
    rw [required_chats, mapM_some id ofDict_toJsonable, List.map_id]
  have hsignAt : required validators.str config.toJsonable "sign_at" = some config.signAt :=
    validators.str_str config.signAt
  have hrandom : withDefault validators.int config.toJsonable "random_seconds" 0 =
      some config.randomSeconds := validators.int_int config.randomSeconds
  have hinterval : withDefault validators.int config.toJsonable "sign_interval" 1 =
      some config.signInterval := validators.int_int config.signInterval
  have hengine : optional validators.str config.toJsonable "execution_engine" =
      some config.executionEngine := optional_str config.executionEngine rfl
  rw [SignConfigV2.valid, hchats, hsignAt, hrandom, hinterval, hengine]
  rfl

/-- A chat of version 2 has no actions, no steps and no graph. -/
theorem chatOfDict_toJsonable (chat : SignChatV2) :
    chatOfDict validators chat.toJsonable = none := by
  unfold chatOfDict
  refine Option.bind_eq_none_iff.mpr fun chatId _ => ?_
  refine Option.bind_eq_none_iff.mpr fun name _ => ?_
  refine Option.bind_eq_none_iff.mpr fun deleteAfter _ => ?_
  refine Option.bind_eq_none_iff.mpr fun actions hactions => ?_
  refine Option.bind_eq_none_iff.mpr fun steps hsteps => ?_
  refine Option.bind_eq_none_iff.mpr fun flowGraph hgraph => ?_
  refine Option.bind_eq_none_iff.mpr fun initialStepId _ => ?_
  refine Option.bind_eq_none_iff.mpr fun actionInterval _ => ?_
  refine Option.bind_eq_none_iff.mpr fun messageThreadId _ => ?_
  refine Option.bind_eq_none_iff.mpr fun nextTaskOnSuccess _ => ?_
  refine Option.bind_eq_none_iff.mpr fun nextTaskDelaySeconds _ => ?_
  refine Option.bind_eq_none_iff.mpr fun executionEngine _ => ?_
  exact buildChat_of_none (Option.some.inj hactions).symm (Option.some.inj hsteps).symm
    (Option.some.inj hgraph).symm

/-- A dictionary of version 1, dumped as version 2, is converted and loses nothing. -/
theorem loaded_of_v1 (old : SignConfigV1 validators.Time) :
    ∃ new, load validators (SignConfigV1.toCurrent validators old).toJsonable = some (new, true) ∧
      SameAsV1 validators old new := by
  have hthird : SignConfigV3.valid validators
      (SignConfigV1.toCurrent validators old).toJsonable = none := by
    have hchats : (SignConfigV1.toCurrent validators old).chats.mapM
        (fun chat => chatOfDict validators chat.toJsonable) = none := by
      rw [SignConfigV1.toCurrent, List.mapM_cons, chatOfDict_toJsonable]
      rfl
    rw [SignConfigV3.valid, required_chats, hchats]
    rfl
  have hload : load validators (SignConfigV1.toCurrent validators old).toJsonable = some
      ({ chats := (SignConfigV1.toCurrent validators old).chats.map converted,
         signAt := (SignConfigV1.toCurrent validators old).signAt,
         randomSeconds := (SignConfigV1.toCurrent validators old).randomSeconds,
         signInterval := (SignConfigV1.toCurrent validators old).signInterval }, true) := by
    rw [load, hthird, valid_toJsonable]
    dsimp only
    rw [toCurrent_eq]
    rfl
  exact ⟨_, hload, ⟨_, rfl, sameChat_converted _⟩, rfl, rfl, rfl, rfl⟩

/-- A dictionary of version 2 is converted, and keeps all it expresses, if and only if it is not
of version 3 as well and names no execution engine.  One of version 1 keeps everything on its way
through version 2, and one of version 3 is loaded as it is. -/
theorem loads (validators : Validators) :
    (∀ d old, SignConfigV2.valid validators d = some old →
      ((∃ new, load validators d = some (new, true) ∧ SameSettings old new) ↔
        SignConfigV3.valid validators d = none ∧ old.executionEngine = none)) ∧
    (∀ d old, SignConfigV1.valid validators d = some old →
      ∃ new, load validators (SignConfigV1.toCurrent validators old).toJsonable =
          some (new, true) ∧ SameAsV1 validators old new) ∧
    (∀ d config, SignConfigV3.valid validators d = some config →
      load validators d = some (config, false)) := by
  refine ⟨fun d old hvalid => loaded_iff hvalid, fun d old _ => loaded_of_v1 old,
    fun d config hvalid => ?_⟩
  rw [load, hvalid]

/-! ## Two dictionaries -/

/-- Every field takes values of its type only. -/
def plainValidators : Validators where
  Time := String
  int
    | .int value => some value
    | _ => none
  str
    | .str text => some text
    | _ => none
  bool
    | .bool value => some value
    | _ => none
  float
    | .int value => some value
    | .float value => some value
    | _ => none
  time
    | .str text => some text
    | _ => none
  list
    | .list items => some items
    | _ => none
  dict
    | .dict entries => some entries
    | _ => none
  timeText text := text
  actions _ := none
  steps _ := none
  stepsSound _ _ := false
  int_int _ := rfl
  str_str _ := rfl
  bool_bool _ := rfl
  list_list _ := rfl
  dict_dict _ := rfl

/-- A chat of version 2 in which a button is clicked. -/
def oldChat : PyValue :=
  .dict [("chat_id", .int (-100)), ("sign_text", .str "/checkin"),
    ("text_of_btn_to_click", .str "OK"), ("delete_after", .int 60)]

def oldDictionary : Config :=
  [("version", .int 2), ("chats", .list [oldChat]), ("sign_at", .str "0 6 * * *")]

theorem loads_oldDictionary : ∃ old, SignConfigV2.valid plainValidators oldDictionary = some old ∧
      ((∃ new, load plainValidators oldDictionary = some (new, true) ∧ SameSettings old new) ↔
        SignConfigV3.valid plainValidators oldDictionary = none ∧ old.executionEngine = none) :=
  ⟨_, rfl, (loads plainValidators).1 oldDictionary _ rfl⟩

def engineDictionary : Config :=
  ("execution_engine", .str "v3") :: oldDictionary

theorem engine_lost : ¬ ∀ (validators : Validators) (d : Config) (old : SignConfigV2),
      SignConfigV2.valid validators d = some old →
        ∃ new, load validators d = some (new, true) ∧ SameSettings old new := by
  intro hall
  obtain ⟨new, hload, hsame⟩ := hall plainValidators engineDictionary _ rfl
  have hengine : new.executionEngine = none := by
    have hnew := congrArg (Option.map fun loaded => loaded.1.executionEngine) hload
    exact (Option.some.inj hnew).symm
  exact absurd (hengine.symm.trans hsame.executionEngine) (by decide)

end SignPulse.ConfigVersions
