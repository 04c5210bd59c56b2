import SignPulse.Foundation.PyText
import SignPulse.Foundation.PyValue

/-!
# Redaction of sensitive values

`redact_sensitive_value` of `flow_models.py` goes through dictionaries and lists and masks the
texts that it comes to.  Whether it masks a text under a key is decided by this key alone.
-/

namespace SignPulse.Redaction

open Foundation

/-- `SENSITIVE_KEY_PATTERNS`. -/
def SENSITIVE_KEY_PATTERNS : List String :=
  ["token", "password", "secret", "api_key", "apikey", "auth_key", "session", "private_key",
    "credential"]

/-- `any(p in str(k).lower() for p in SENSITIVE_KEY_PATTERNS)`. -/
def isSensitiveKey (key : String) : Bool :=
  SENSITIVE_KEY_PATTERNS.any fun pattern => pyContains (pyLower key) pattern

/-- A text with at most its first and last two characters. -/
def masked (text : String) : String :=
  if text.length ≤ 6 then "***"
  else
    String.ofList (text.toList.take 2) ++ "***" ++
      String.ofList (text.toList.drop (text.length - 2))

/-- `isinstance(v, (dict, list))`. -/
def isNested : PyValue → Bool
  | .dict _ => true
  | .list _ => true
  | _ => false

mutual

/-- `redact_sensitive_value`. -/
def redactSensitiveValue : PyValue → PyValue
  | .str text => .str (masked text)
  | .dict entries => .dict (redactEntries entries)
  | .list items => .list (redactItems items)
  | value => value

def redactEntries : List (String × PyValue) → List (String × PyValue)
  | [] => []
  | (key, value) :: rest =>
    (key, if isSensitiveKey key || isNested value then redactSensitiveValue value else value) ::
      redactEntries rest

def redactItems : List PyValue → List PyValue
  | [] => []
  | item :: rest => redactSensitiveValue item :: redactItems rest

end

/-! ## Places in a value -/

inductive Step where
  | key (name : String)
  | index (position : ℕ)
  deriving DecidableEq, Repr

def Step.into : Step → PyValue → Option PyValue
  | .key name, .dict entries => Dict.getItem entries name
  | .index position, .list items => items[position]?
  | _, _ => none

/-- What is at the end of a path. -/
def valueAt (value : PyValue) : List Step → Option PyValue
  | [] => some value
  | step :: rest => (step.into value).bind fun inner => valueAt inner rest

def BeneathSensitive (path : List Step) : Prop :=
  ∃ name, Step.key name ∈ path ∧ isSensitiveKey name = true

/-- The last step is a key that is not sensitive. -/
def endsPlain (path : List Step) : Bool :=
  match path.getLast? with
  | some (.key name) => !isSensitiveKey name
  | _ => false

def redactedAt (path : List Step) (value : PyValue) : PyValue :=
  if endsPlain path && !isNested value then value else redactSensitiveValue value

theorem getItem_redactEntries (entries : List (String × PyValue)) (name : String) :
    Dict.getItem (redactEntries entries) name =
      (Dict.getItem entries name).map (redactedAt [.key name]) := by
  induction entries with
  | nil => rfl
  | cons entry rest ih =>
    rw [redactEntries, Dict.getItem_cons, Dict.getItem_cons]
    split
    · next hname =>
      obtain rfl := hname
      have hkey : redactedAt [.key entry.1] entry.2 =
          if isSensitiveKey entry.1 || isNested entry.2 then redactSensitiveValue entry.2
          else entry.2 := by
        have hplain : endsPlain [.key entry.1] = !isSensitiveKey entry.1 := rfl
        rw [redactedAt, hplain, ← Bool.not_or]
        by_cases hgoes : (isSensitiveKey entry.1 || isNested entry.2) = true
        · rw [if_pos hgoes, hgoes, Bool.not_true, if_neg Bool.false_ne_true]
        · rw [if_neg hgoes, eq_false_of_ne_true hgoes, Bool.not_false, if_pos rfl]
      rw [← hkey]
      rfl
    · exact ih

theorem getElem?_redactItems (items : List PyValue) (position : ℕ) :
    (redactItems items)[position]? = items[position]?.map redactSensitiveValue := by
  induction items generalizing position with
  | nil => rfl
  | cons item rest ih =>
    cases position with
    | zero => rfl
    | succ position => exact ih position

theorem into_redactSensitiveValue (step : Step) (value : PyValue) :
    step.into (redactSensitiveValue value) = (step.into value).map (redactedAt [step]) := by
  cases step with
  | key name =>
    cases value with
    | dict entries => exact getItem_redactEntries entries name
    | _ => rfl
  | index position =>
    cases value with
    | list items => exact getElem?_redactItems items position
    | _ => rfl

theorem endsPlain_cons (step next : Step) (rest : List Step) :
    endsPlain (step :: next :: rest) = endsPlain (next :: rest) := by
  unfold endsPlain
  rw [List.getLast?_cons_cons]

theorem redactedAt_of_into {path : List Step} {step : Step} {value inner : PyValue}
    (hinto : step.into value = some inner) :
    redactedAt path value = redactSensitiveValue value := by
  have hnested : isNested value = true := by
    cases step with
    | key name =>
      cases value with
      | dict entries => rfl
      | _ => cases hinto
    | index position =>
      cases value with
      | list items => rfl
      | _ => cases hinto
  rw [redactedAt, hnested, Bool.not_true, Bool.and_false, if_neg Bool.false_ne_true]

theorem valueAt_redactSensitiveValue (step : Step) (rest : List Step) (value : PyValue) :
    valueAt (redactSensitiveValue value) (step :: rest) =
      (valueAt value (step :: rest)).map (redactedAt (step :: rest)) := by
  induction rest generalizing step value with
  | nil =>
    rw [valueAt, valueAt, into_redactSensitiveValue]
    cases step.into value with
    | none => rfl
    | some inner => rfl
  | cons next rest ih =>
    rw [valueAt, into_redactSensitiveValue]
    conv_rhs => rw [valueAt]
    cases step.into value with
    | none => rfl
    | some inner =>
      dsimp only [Option.map_some, Option.bind_some]
      have hplaces : redactedAt (step :: next :: rest) = redactedAt (next :: rest) := by
        funext found
        unfold redactedAt
        rw [endsPlain_cons]
      rw [hplaces]
      cases hinner : next.into inner with
      | none =>
        have hnone : valueAt inner (next :: rest) = none := by
          rw [valueAt, hinner]
          rfl
        have hredacted := ih next inner
        rw [hnone] at hredacted ⊢
        unfold redactedAt
        split
        · exact hnone
        · exact hredacted
      | some found =>
        rw [redactedAt_of_into hinner]
        exact ih next inner

/-! ## Texts beneath sensitive keys -/

/-- Every text beneath a sensitive key is masked. -/
def MasksSensitive (value : PyValue) : Prop :=
  ∀ path text, BeneathSensitive path → valueAt value path = some (.str text) →
    valueAt (redactSensitiveValue value) path = some (.str (masked text))

/-- What is under a plain key beneath a sensitive one looks masked already. -/
def LooksMasked (value : PyValue) : Prop :=
  ∀ path text, BeneathSensitive path → valueAt value path = some (.str text) →
    endsPlain path = true → masked text = text

theorem textAt_redactSensitiveValue {path : List Step} {value : PyValue} {text : String}
    (hpath : path ≠ []) (htext : valueAt value path = some (.str text)) :
    valueAt (redactSensitiveValue value) path =
      some (.str (if endsPlain path then text else masked text)) := by
  obtain ⟨step, rest, rfl⟩ := List.exists_cons_of_ne_nil hpath
  rw [valueAt_redactSensitiveValue, htext, Option.map_some]
  unfold redactedAt
  cases endsPlain (step :: rest) with
  | true => rfl
  | false => rfl

/-- Every text beneath a sensitive key is masked exactly if those under plain keys look masked
already. -/
theorem masksSensitive_iff (value : PyValue) : MasksSensitive value ↔ LooksMasked value := by
  have hnonempty : ∀ path : List Step, BeneathSensitive path → path ≠ [] := by
    rintro path ⟨name, hmem, -⟩ rfl
    exact List.not_mem_nil hmem
  constructor
  · intro hmasks path text hbeneath htext hplain
    have hboth := (textAt_redactSensitiveValue (hnonempty path hbeneath) htext).symm.trans
      (hmasks path text hbeneath htext)
    rw [hplain] at hboth
    exact (PyValue.str.inj (Option.some.inj hboth)).symm
  · intro hlooks path text hbeneath htext
    rw [textAt_redactSensitiveValue (hnonempty path hbeneath) htext]
    split
    · next hplain => rw [hlooks path text hbeneath htext hplain]
    · rfl

/-- A dictionary under a sensitive key: its text is left as it is. -/
theorem text_left_under_token :
    ¬MasksSensitive (.dict [("token", .dict [("value", .str "123456:ABC")])]) := by
  intro hmasks
  have htext := hmasks [.key "token", .key "value"] "123456:ABC"
    ⟨"token", List.mem_cons_self, by decide⟩ rfl
  have hleft := textAt_redactSensitiveValue (List.cons_ne_nil (Step.key "token") [.key "value"])
    (rfl : valueAt (.dict [("token", .dict [("value", .str "123456:ABC")])])
      [.key "token", .key "value"] = some (.str "123456:ABC"))
  rw [htext] at hleft
  have hmasked := PyValue.str.inj (Option.some.inj hleft)
  revert hmasked
  decide

end SignPulse.Redaction
