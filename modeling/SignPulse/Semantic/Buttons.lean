import SignPulse.Foundation.Bytes
import SignPulse.Semantic.CacheKeys

/-!
# Buttons chosen from a snapshot

`build_button_snapshot` and `resolve_button` of `semantic/buttons.py`: a button is chosen from a
snapshot of a message and clicked in the message as it is later.
-/

namespace SignPulse.Buttons

open Foundation
open Foundation.JsonText

/-! ## Buttons and messages -/

/-- The data that is sent when a button is clicked: a text, or the bytes that are not one. -/
inductive CallbackData where
  | text (value : String)
  | bytes (value : Bytes)
  deriving DecidableEq

structure Button where
  text : Option String := none
  callbackData : Option CallbackData := none
  url : Option String := none
  webApp : Option String := none
  deriving DecidableEq

structure Message where
  chat : Option ℤ := none
  messageThreadId : Option ℤ := none
  id : ℤ := 0
  fromUser : Option ℤ := none
  text : Option String := none
  caption : Option String := none
  inlineKeyboard : Option (List (List Button)) := none

/-- A letter as `re.IGNORECASE` compares it with those of ASCII. -/
def foldChar (c : Char) : Char :=
  if 'A' ≤ c ∧ c ≤ 'Z' then Char.ofNat (c.toNat + 32)
  else match c.toNat with
    | 0x130 => 'i'
    | 0x131 => 'i'
    | 0x17F => 's'
    | 0x212A => 'k'
    | _ => c

def dangerousPatterns : List (List String) :=
  [["支付", "pay", "purchase", "checkout", "buy"], ["充值", "recharge", "topup", "deposit"],
    ["删除", "delete", "remove", "destroy"],
    ["授权", "authorize", "oauth", "bind", "绑定"],
    ["转账", "transfer", "withdraw", "提现"]]

/-- `is_dangerous_button`. -/
def isDangerousButton (text : String) : Bool :=
  let folded := String.ofList (text.toList.map foldChar)
  dangerousPatterns.any fun words => words.any fun word => pyContains folded word

namespace Button

variable (button : Button)

def shownText : String := button.text.getD ""

/-- The callback data as the fingerprint has it. -/
def callbackText : String :=
  match button.callbackData with
  | none => ""
  | some (.text value) => value
  | some (.bytes value) => String.ofList (base64Encode value)

/-- The URL that the button opens, if it is not the empty one. -/
def link : Option String := button.url.filter (· ≠ "")

/-- A button that the snapshot offers. -/
def clickable : Bool :=
  button.callbackData.isSome && button.link.isNone && button.webApp.isNone &&
    !isDangerousButton button.shownText

end Button

namespace Message

variable (message : Message)

def chatId : ℤ := message.chat.getD 0

def shownText : String :=
  if message.text.getD "" ≠ "" then message.text.getD "" else message.caption.getD ""

def keyboard : List (List Button) := message.inlineKeyboard.getD []

def buttonAt (row column : ℕ) : Option Button :=
  (message.keyboard[row]?).bind fun buttons => buttons[column]?

end Message

/-! ## The snapshot -/

structure ButtonCandidate where
  ref : String
  row : ℕ
  column : ℕ
  text : String
  deriving DecidableEq

structure ButtonSnapshot where
  chatId : ℤ
  threadId : Option ℤ
  messageId : ℤ
  senderId : Option ℤ
  revision : String
  candidates : List ButtonCandidate

def buttonRef (row column : ℕ) : String :=
  String.ofList ('b' :: (Nat.toDigits 10 row ++ '_' :: Nat.toDigits 10 column))

def optionalInt : Option ℤ → PyValue
  | none => .none
  | some value => .int value

def buttonDump (row column : ℕ) (text callback : String) : PyValue :=
  .dict [("row", .int row), ("col", .int column), ("text", .str text), ("cb", .str callback),
    ("danger", .bool (isDangerousButton text))]

def localButtonRows (keyboard : List (List Button)) : List PyValue :=
  keyboard.mapIdx fun row buttons =>
    .list (buttons.mapIdx fun column button =>
      buttonDump row column button.shownText button.callbackText)

def fingerprint (message : Message) : PyValue :=
  .dict [("chat_id", .int message.chatId), ("thread_id", optionalInt message.messageThreadId),
    ("sender_id", optionalInt message.fromUser), ("message_id", .int message.id),
    ("text", .str message.shownText), ("buttons", .list (localButtonRows message.keyboard))]

def candidatesOf (message : Message) : List ButtonCandidate :=
  message.keyboard.zipIdx.flatMap fun line => line.1.zipIdx.filterMap fun entry =>
    if entry.1.clickable then
      some { ref := buttonRef line.2 entry.2
             row := line.2
             column := entry.2
             text := entry.1.shownText }
    else none

section Snapshots

variable (hash : String → String) (floats : FloatRepr)

/-- `build_button_snapshot`, where `hash` is the SHA-256 of a text. -/
def buildButtonSnapshot (message : Message) : ButtonSnapshot where
  chatId := message.chatId
  threadId := message.messageThreadId
  messageId := message.id
  senderId := message.fromUser
  revision := hash (sortedDumps floats (fingerprint message))
  candidates := (candidatesOf message).take 32

/-- `resolve_button`. -/
def resolveButton (snapshot : ButtonSnapshot) (currentMessage : Option Message)
    (selectedRef : String) : Option Button :=
  match currentMessage with
  | none => none
  | some message =>
    if selectedRef = "" ∨ selectedRef = "none" ∨ selectedRef = "unknown" then none
    else
      let current := buildButtonSnapshot hash floats message
      if current.chatId ≠ snapshot.chatId ∨ current.threadId ≠ snapshot.threadId ∨
          current.messageId ≠ snapshot.messageId ∨ current.senderId ≠ snapshot.senderId ∨
          current.revision ≠ snapshot.revision then none
      else
        (snapshot.candidates.find? (·.ref = selectedRef)).bind fun target =>
          message.buttonAt target.row target.column

end Snapshots

/-! ## References -/

theorem buttonRef_inj {row column row' column' : ℕ}
    (heq : buttonRef row column = buttonRef row' column') : row = row' ∧ column = column' := by
  have hdigits : ∀ value, '_' ∉ Nat.toDigits 10 value := fun value hmem =>
    absurd (Nat.isDigit_of_mem_toDigits (by decide) (by decide) hmem) (by decide)
  have hlist := (List.cons.inj (String.ofList_injective heq)).2
  obtain ⟨hrow, hcolumn⟩ := eq_of_append_separator (hdigits row) (hdigits row') hlist
  exact ⟨toDigits_injective hrow, toDigits_injective hcolumn⟩

theorem buttonRef_usable (row column : ℕ) :
    ¬ (buttonRef row column = "" ∨ buttonRef row column = "none" ∨
      buttonRef row column = "unknown") := by
  have hfirst : (buttonRef row column).toList.head? = some 'b' := by
    rw [buttonRef, String.toList_ofList, List.head?_cons]
  rintro (heq | heq | heq) <;> rw [heq] at hfirst <;> exact absurd hfirst (by decide)

theorem mem_candidatesOf {message : Message} {candidate : ButtonCandidate} :
    candidate ∈ candidatesOf message ↔
      ∃ button, message.buttonAt candidate.row candidate.column = some button ∧
        button.clickable = true ∧ candidate.ref = buttonRef candidate.row candidate.column ∧
        candidate.text = button.shownText := by
  unfold candidatesOf Message.buttonAt
  simp only [List.mem_flatMap, List.mem_filterMap, List.mem_zipIdx_iff_getElem?, Prod.exists,
    Option.ite_none_right_eq_some, Option.some.injEq, Option.bind_eq_some_iff]
  constructor
  · rintro ⟨buttons, row, hbuttons, button, column, hbutton, hclickable, rfl⟩
    exact ⟨button, ⟨buttons, hbuttons, hbutton⟩, hclickable, rfl, rfl⟩
  · rintro ⟨button, ⟨buttons, hbuttons, hbutton⟩, hclickable, href, htext⟩
    refine ⟨buttons, candidate.row, hbuttons, button, candidate.column, hbutton, hclickable, ?_⟩
    rw [← href, ← htext]

theorem eq_of_ref {message : Message} {candidate other : ButtonCandidate}
    (hcandidate : candidate ∈ candidatesOf message) (hother : other ∈ candidatesOf message)
    (href : other.ref = candidate.ref) : other = candidate := by
  obtain ⟨button, hbutton, -, hname, htext⟩ := mem_candidatesOf.mp hcandidate
  obtain ⟨button', hbutton', -, hname', htext'⟩ := mem_candidatesOf.mp hother
  rw [hname, hname'] at href
  obtain ⟨hrow, hcolumn⟩ := buttonRef_inj href
  rw [hrow, hcolumn, hbutton] at hbutton'
  cases hbutton'
  cases candidate
  cases other
  simp_all

/-! ## What the revision tells apart -/

/-- The messages are the same one, with the same texts of its buttons. -/
structure Alike (before now : Message) : Prop where
  chatId : now.chatId = before.chatId
  threadId : now.messageThreadId = before.messageThreadId
  senderId : now.fromUser = before.fromUser
  messageId : now.id = before.id
  text : now.shownText = before.shownText
  buttons : now.keyboard.map (·.map fun button => (button.shownText, button.callbackText)) =
    before.keyboard.map (·.map fun button => (button.shownText, button.callbackText))

section Indices

variable {α β γ δ : Type*} {place : ℕ → α → β}

theorem mapIdx_map (items : List γ) (read : γ → α) :
    (items.map read).mapIdx place = items.mapIdx fun index item => place index (read item) := by
  refine List.mapIdx_eq_iff.mpr fun index => ?_
  rw [List.getElem?_mapIdx, List.getElem?_map, Option.map_map]
  rfl

theorem map_eq_of_mapIdx {items others : List α} {view : β → δ} {read : α → γ}
    (hplace : ∀ index item other, view (place index item) = view (place index other) →
      read item = read other)
    (heq : (items.mapIdx place).map view = (others.mapIdx place).map view) :
    items.map read = others.map read := by
  refine List.ext_getElem? fun index => ?_
  have hindex := congrArg (·[index]?) heq
  simp only [List.getElem?_map, List.getElem?_mapIdx] at hindex ⊢
  cases hitem : items[index]? with
  | none =>
    rw [hitem] at hindex
    cases hother : others[index]? with
    | none => rfl
    | some other =>
      rw [hother] at hindex
      cases hindex
  | some item =>
    rw [hitem] at hindex
    cases hother : others[index]? with
    | none =>
      rw [hother] at hindex
      cases hindex
    | some other =>
      rw [hother] at hindex
      exact congrArg some (hplace index item other (Option.some.inj hindex))

end Indices

theorem localButtonRows_eq (keyboard : List (List Button)) : localButtonRows keyboard =
      (keyboard.map (·.map fun button => (button.shownText, button.callbackText))).mapIdx
        fun row texts => .list (texts.mapIdx fun column entry =>
          buttonDump row column entry.1 entry.2) := by
  simp only [localButtonRows, mapIdx_map]

theorem fingerprint_eq_of_alike {before now : Message} (halike : Alike before now) :
    fingerprint now = fingerprint before := by
  unfold fingerprint
  rw [localButtonRows_eq, localButtonRows_eq, halike.chatId, halike.threadId, halike.senderId,
    halike.messageId, halike.text, halike.buttons]

theorem texts_of_sameJson_dump {row column : ℕ} {text callback text' callback' : String}
    (hsame : sortKeys (buttonDump row column text callback) =
      sortKeys (buttonDump row column text' callback')) : (text, callback) = (text', callback') := by
  have hitem := getItem_of_sameJson (by simp [Dict.keyList]) (by simp [Dict.keyList]) hsame
  exact Prod.ext (PyValue.str.inj (Option.some.inj (hitem "text")))
    (PyValue.str.inj (Option.some.inj (hitem "cb")))

theorem buttons_of_sameJson_rows {keyboard other : List (List Button)}
    (hsame : SameJson (.list (localButtonRows keyboard)) (.list (localButtonRows other))) :
    keyboard.map (·.map fun button => (button.shownText, button.callbackText)) =
      other.map (·.map fun button => (button.shownText, button.callbackText)) := by
  refine map_eq_of_mapIdx (fun row buttons buttons' hrow => ?_) (map_sortKeys_of_sameJson hsame)
  have hdumps := map_sortKeys_of_sameJson hrow
  refine map_eq_of_mapIdx (fun column button button' hbutton => ?_) hdumps
  exact texts_of_sameJson_dump hbutton

theorem sortKeys_optionalInt (value : Option ℤ) : sortKeys (optionalInt value) = optionalInt value := by
  cases value with
  | none => rfl
  | some value => rfl

theorem optionalInt_injective : Function.Injective optionalInt := by
  intro value other heq
  cases value <;> cases other <;> cases heq <;> rfl

theorem alike_of_sameJson {before now : Message}
    (hsame : SameJson (fingerprint now) (fingerprint before)) : Alike before now := by
  have hitem := getItem_of_sameJson (by simp [Dict.keyList]) (by simp [Dict.keyList]) hsame
  have hthread := Option.some.inj (hitem "thread_id")
  have hsender := Option.some.inj (hitem "sender_id")
  rw [sortKeys_optionalInt, sortKeys_optionalInt] at hthread hsender
  exact
    { chatId := PyValue.int.inj (Option.some.inj (hitem "chat_id"))
      threadId := optionalInt_injective hthread
      senderId := optionalInt_injective hsender
      messageId := PyValue.int.inj (Option.some.inj (hitem "message_id"))
      text := PyValue.str.inj (Option.some.inj (hitem "text"))
      buttons := buttons_of_sameJson_rows (Option.some.inj (hitem "buttons")) }

/-! ## The button that is clicked -/

section Resolved

variable {hash : String → String} (hinjective : Function.Injective hash) (floats : FloatRepr)
include hinjective

theorem revision_eq_iff (before now : Message) : (buildButtonSnapshot hash floats now).revision =
      (buildButtonSnapshot hash floats before).revision ↔ Alike before now := by
  constructor
  · intro heq
    exact alike_of_sameJson (sortedDumps_inj.mp (hinjective heq))
  · intro halike
    unfold buildButtonSnapshot
    rw [fingerprint_eq_of_alike halike]

theorem resolveButton_eq_some_iff (before now : Message) {candidate : ButtonCandidate}
    (hmem : candidate ∈ (buildButtonSnapshot hash floats before).candidates) (button : Button) :
    resolveButton hash floats (buildButtonSnapshot hash floats before) (some now) candidate.ref =
        some button ↔
      Alike before now ∧ now.buttonAt candidate.row candidate.column = some button := by
  have hcandidate := List.mem_of_mem_take hmem
  obtain ⟨-, -, -, href, -⟩ := mem_candidatesOf.mp hcandidate
  have husable := buttonRef_usable candidate.row candidate.column
  rw [← href] at husable
  have hfind : (buildButtonSnapshot hash floats before).candidates.find?
      (·.ref = candidate.ref) = some candidate := by
    cases hfound : (buildButtonSnapshot hash floats before).candidates.find?
        (·.ref = candidate.ref) with
    | none => exact absurd rfl (of_decide_eq_false
        (Bool.eq_false_iff.mpr (List.find?_eq_none.mp hfound candidate hmem)))
    | some other =>
      have hother := List.mem_of_mem_take (List.mem_of_find?_eq_some hfound)
      have hsame : other.ref = candidate.ref := by simpa using List.find?_some hfound
      rw [eq_of_ref hcandidate hother hsame]
  simp only [resolveButton]
  rw [if_neg husable, hfind, Option.bind_some]
  have hrevision := revision_eq_iff hinjective floats before now
  constructor
  · intro hresolved
    split at hresolved
    · cases hresolved
    · next hagree =>
      push Not at hagree
      exact ⟨hrevision.mp hagree.2.2.2.2, hresolved⟩
  · rintro ⟨halike, hbutton⟩
    rw [if_neg]
    · exact hbutton
    · push Not
      exact ⟨halike.chatId, halike.threadId, halike.messageId, halike.senderId,
        hrevision.mpr halike⟩

end Resolved

inductive DataKind where
  | absent | text | bytes
  deriving DecidableEq

namespace Button

def dataKind (button : Button) : DataKind :=
  match button.callbackData with
  | none => .absent
  | some (.text _) => .text
  | some (.bytes _) => .bytes

theorem callbackData_eq_of_dataKind {button other : Button}
    (hkind : button.dataKind = other.dataKind) (htext : button.callbackText = other.callbackText) :
    button.callbackData = other.callbackData := by
  unfold dataKind at hkind
  unfold callbackText at htext
  cases hdata : button.callbackData with
  | none =>
    cases hother : other.callbackData with
    | none => rfl
    | some data =>
      rw [hdata, hother] at hkind
      cases data <;> cases hkind
  | some data =>
    cases hother : other.callbackData with
    | none =>
      rw [hdata, hother] at hkind
      cases data <;> cases hkind
    | some data' =>
      rw [hdata, hother] at hkind htext
      cases data with
      | text value =>
        cases data' with
        | text value' => exact congrArg (fun text => some (CallbackData.text text)) htext
        | bytes value' => cases hkind
      | bytes value =>
        cases data' with
        | text value' => cases hkind
        | bytes value' =>
          have hbytes := base64Encode_injective (String.ofList_injective htext)
          exact congrArg (fun bytes => some (CallbackData.bytes bytes)) hbytes

/-- A click on either button does the same. -/
structure SameAction (button other : Button) : Prop where
  callbackData : button.callbackData = other.callbackData
  link : button.link = other.link
  webApp : button.webApp = other.webApp

end Button

/-- The button has the text and the action of the one that the candidate stands for, and the
snapshot would offer it. -/
structure Chosen (before now : Message) (candidate : ButtonCandidate) (button : Button) : Prop where
  current : now.buttonAt candidate.row candidate.column = some button
  text : button.shownText = candidate.text
  action : ∃ earlier, before.buttonAt candidate.row candidate.column = some earlier ∧
    button.SameAction earlier
  clickable : button.clickable = true

/-- The messages look the same, but the button of the candidate has become one that opens a link or
a web app, or one with callback data of another kind. -/
def Swapped (before now : Message) (candidate : ButtonCandidate) : Prop :=
  Alike before now ∧ ∃ earlier current,
    before.buttonAt candidate.row candidate.column = some earlier ∧
      now.buttonAt candidate.row candidate.column = some current ∧
        (current.link.isSome ∨ current.webApp.isSome ∨ current.dataKind ≠ earlier.dataKind)

theorem texts_of_alike {before now : Message} (halike : Alike before now) {row column : ℕ}
    {earlier current : Button} (hearlier : before.buttonAt row column = some earlier)
    (hcurrent : now.buttonAt row column = some current) :
    current.shownText = earlier.shownText ∧ current.callbackText = earlier.callbackText := by
  obtain ⟨buttons, hbuttons, hbutton⟩ := Option.bind_eq_some_iff.mp hearlier
  obtain ⟨buttons', hbuttons', hbutton'⟩ := Option.bind_eq_some_iff.mp hcurrent
  have hrow := congrArg (·[row]?) halike.buttons
  simp only [List.getElem?_map, hbuttons, hbuttons', Option.map_some] at hrow
  have hcolumn := congrArg (·[column]?) (Option.some.inj hrow)
  simp only [List.getElem?_map, hbutton, hbutton', Option.map_some] at hcolumn
  exact Prod.mk.inj (Option.some.inj hcolumn)

/-- The button that is clicked is the chosen one, unless it was swapped. -/
theorem chosen_iff_not_swapped {hash : String → String} (hinjective : Function.Injective hash)
    (floats : FloatRepr) (before now : Message) {candidate : ButtonCandidate}
    (hmem : candidate ∈ (buildButtonSnapshot hash floats before).candidates) :
    (∀ button, resolveButton hash floats (buildButtonSnapshot hash floats before) (some now)
        candidate.ref = some button → Chosen before now candidate button) ↔
      ¬ Swapped before now candidate := by
  obtain ⟨earlier, hearlier, hclickable, -, htext⟩ :=
    mem_candidatesOf.mp (List.mem_of_mem_take hmem)
  have hclick := hclickable
  simp only [Button.clickable, Bool.and_eq_true, Option.isSome_iff_ne_none, Option.isNone_iff_eq_none,
    Bool.not_eq_true'] at hclick
  obtain ⟨⟨⟨-, hlink⟩, hwebApp⟩, -⟩ := hclick
  simp only [resolveButton_eq_some_iff hinjective floats before now hmem]
  constructor
  · rintro hchosen ⟨halike, earlier', current, hearlier', hcurrent, hswapped⟩
    obtain rfl := Option.some.inj (hearlier.symm.trans hearlier')
    obtain ⟨other, hother, haction⟩ := (hchosen current ⟨halike, hcurrent⟩).action
    obtain rfl := Option.some.inj (hearlier.symm.trans hother)
    obtain hopens | hopens | hkind := hswapped
    · rw [haction.link, hlink] at hopens
      cases hopens
    · rw [haction.webApp, hwebApp] at hopens
      cases hopens
    · apply hkind
      unfold Button.dataKind
      rw [haction.callbackData]
  · rintro hswapped button ⟨halike, hbutton⟩
    obtain ⟨hshown, hcallback⟩ := texts_of_alike halike hearlier hbutton
    have hplain : button.link = none ∧ button.webApp = none ∧
        button.dataKind = earlier.dataKind := by
      by_contra hother
      refine hswapped ⟨halike, earlier, button, hearlier, hbutton, ?_⟩
      simp only [Option.isSome_iff_ne_none]
      tauto
    obtain ⟨hnoLink, hnoWebApp, hkind⟩ := hplain
    have hdata := Button.callbackData_eq_of_dataKind hkind hcallback
    exact
      { current := hbutton
        text := hshown.trans htext.symm
        action := ⟨earlier, hearlier,
          { callbackData := hdata
            link := hnoLink.trans hlink.symm
            webApp := hnoWebApp.trans hwebApp.symm }⟩
        clickable := by
          unfold Button.clickable at hclickable ⊢
          rwa [hdata, hshown, hnoLink.trans hlink.symm, hnoWebApp.trans hwebApp.symm] }

def oneButtonMessage (data : CallbackData) : Message where
  chat := some (-100)
  id := 7
  text := some "Sign in"
  inlineKeyboard := some [[{ text := some "OK", callbackData := some data }]]

def onlyCandidate : ButtonCandidate where
  ref := "b0_0"
  row := 0
  column := 0
  text := "OK"

/-- Without a swap, the button of an unchanged message is clicked as chosen. -/
theorem chosen_iff_not_swapped_unchanged :
    (∀ button, resolveButton id CacheKeys.fractionTexts
        (buildButtonSnapshot id CacheKeys.fractionTexts (oneButtonMessage (.text "sign")))
        (some (oneButtonMessage (.text "sign"))) onlyCandidate.ref = some button →
        Chosen (oneButtonMessage (.text "sign")) (oneButtonMessage (.text "sign")) onlyCandidate
          button) ↔
      ¬ Swapped (oneButtonMessage (.text "sign")) (oneButtonMessage (.text "sign")) onlyCandidate :=
  chosen_iff_not_swapped Function.injective_id CacheKeys.fractionTexts _ _ (by decide)

/-- A text that is the Base64 form of the bytes has their revision. -/
theorem other_data_clicked :
    ¬ ∀ (hash : String → String) (floats : FloatRepr) (before now : Message)
        (candidate : ButtonCandidate), Function.Injective hash →
      candidate ∈ (buildButtonSnapshot hash floats before).candidates →
        ∀ button, resolveButton hash floats (buildButtonSnapshot hash floats before) (some now)
          candidate.ref = some button → Chosen before now candidate button := by
  intro hall
  have hmem : onlyCandidate ∈ (buildButtonSnapshot id CacheKeys.fractionTexts
      (oneButtonMessage (.bytes [255]))).candidates := by decide +kernel
  have hresolved : resolveButton id CacheKeys.fractionTexts
      (buildButtonSnapshot id CacheKeys.fractionTexts (oneButtonMessage (.bytes [255])))
      (some (oneButtonMessage (.text "/w=="))) onlyCandidate.ref =
        some { text := some "OK", callbackData := some (.text "/w==") } := by decide +kernel
  have hchosen := hall id CacheKeys.fractionTexts (oneButtonMessage (.bytes [255]))
    (oneButtonMessage (.text "/w==")) onlyCandidate Function.injective_id hmem _ hresolved
  obtain ⟨earlier, hearlier, haction⟩ := hchosen.action
  cases hearlier
  exact absurd haction.callbackData (by decide)

end SignPulse.Buttons
