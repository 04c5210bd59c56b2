import SignPulse.Foundation.Substitution

/-!
# Templates

`render_template` of `tg_signer/core/template.py`: the placeholders of a text, expressions in double
braces, are replaced first, and then the macros that name a dictionary.
-/

namespace SignPulse.Templates

open Foundation

variable {σ : Type}

/-! ## The two patterns -/

/-- A match of `_TEMPLATE_PATTERN`, with the text of its group. -/
structure Placeholder where
  group : List Char
  size : ℕ
  deriving DecidableEq

/-- Blanks and two closing braces. -/
def closing (text : List Char) : Option ℕ :=
  let blanks := text.takeWhile isPySpace
  if ['\x7d', '\x7d'].isPrefixOf (text.drop blanks.length) then some (blanks.length + 2)
  else none

/-- The shortest group that the closing braces follow, and the length of these. -/
def groupUntil : List Char → Option (List Char × ℕ)
  | [] => (closing []).map fun size => ([], size)
  | c :: rest =>
    match closing (c :: rest) with
    | some size => some ([], size)
    | none =>
      if c = '\n' then none
      else (groupUntil rest).map fun found => (c :: found.1, found.2)

def placeholderAt (text : List Char) : Option Placeholder :=
  if ['\x7b', '\x7b'].isPrefixOf text then
    let inner := text.drop 2
    let blanks := inner.takeWhile isPySpace
    (groupUntil (inner.drop blanks.length)).map fun found =>
      { group := found.1, size := 2 + blanks.length + found.1.length + found.2 }
  else none

/-- A match of `_DICT_MACRO_PATTERN`. -/
structure MacroMatch where
  name : String
  mode : String
  size : ℕ
  deriving DecidableEq

def isNameChar (c : Char) : Bool :=
  c.isAlphanum || c = '_' || c = '-'

/-- The mode after a name, and the number of characters up to the closing brace. -/
def modeAt (text : List Char) : Option (String × ℕ) :=
  if ['\x7d'].isPrefixOf text then some ("random", 1)
  else if ":random\x7d".toList.isPrefixOf text then some ("random", 8)
  else if ":round_robin\x7d".toList.isPrefixOf text then some ("round_robin", 13)
  else none

def dictMacroAt (text : List Char) : Option MacroMatch :=
  if "\x7bdict:".toList.isPrefixOf text then
    let name := (text.drop 6).takeWhile isNameChar
    if name = [] then none
    else
      (modeAt (text.drop (6 + name.length))).map fun found =>
        { name := String.ofList name, mode := found.1, size := 6 + name.length + found.2 }
  else none

theorem closing_le {text : List Char} {size : ℕ} (hclosing : closing text = some size) :
    size ≤ text.length := by
  simp only [closing] at hclosing
  split at hclosing
  · next hbraces =>
    cases hclosing
    have hlength := (List.isPrefixOf_iff_prefix.mp hbraces).length_le
    rw [List.length_drop] at hlength
    dsimp only [List.length_cons, List.length_nil] at hlength
    omega
  · cases hclosing

theorem groupUntil_le {text : List Char} {found : List Char × ℕ}
    (hgroup : groupUntil text = some found) : found.1.length + found.2 ≤ text.length := by
  induction text generalizing found with
  | nil =>
    obtain ⟨size, hclosing, rfl⟩ := Option.map_eq_some_iff.mp hgroup
    have hle := closing_le hclosing
    simpa using hle
  | cons c rest ih =>
    unfold groupUntil at hgroup
    cases hclosing : closing (c :: rest) with
    | some size =>
      rw [hclosing] at hgroup
      cases hgroup
      have hle := closing_le hclosing
      simpa using hle
    | none =>
      rw [hclosing] at hgroup
      dsimp only at hgroup
      split at hgroup
      · cases hgroup
      · obtain ⟨inner, hinner, rfl⟩ := Option.map_eq_some_iff.mp hgroup
        have hle := ih hinner
        rw [List.length_cons, List.length_cons]
        omega

/-- `_TEMPLATE_PATTERN`. -/
def templatePattern : Pattern Placeholder where
  find := placeholderAt
  size := Placeholder.size
  size_le := by
    intro text found hfind
    simp only [placeholderAt] at hfind
    split at hfind
    · next hbraces =>
      obtain ⟨group, hgroup, rfl⟩ := Option.map_eq_some_iff.mp hfind
      have hlength := (List.isPrefixOf_iff_prefix.mp hbraces).length_le
      have hle := groupUntil_le hgroup
      have hblanks := (List.takeWhile_prefix isPySpace (l := text.drop 2)).length_le
      rw [List.length_drop] at hle hblanks
      rw [List.length_drop] at hle
      dsimp only [List.length_cons, List.length_nil] at hlength
      dsimp only
      omega
    · cases hfind

theorem modeAt_le {text : List Char} {found : String × ℕ} (hmode : modeAt text = some found) :
    found.2 ≤ text.length := by
  unfold modeAt at hmode
  split at hmode
  · next hends =>
    cases hmode
    exact (List.isPrefixOf_iff_prefix.mp hends).length_le
  · split at hmode
    · next hends =>
      cases hmode
      exact (List.isPrefixOf_iff_prefix.mp hends).length_le
    · split at hmode
      · next hends =>
        cases hmode
        exact (List.isPrefixOf_iff_prefix.mp hends).length_le
      · cases hmode

/-- `_DICT_MACRO_PATTERN`. -/
def dictMacroPattern : Pattern MacroMatch where
  find := dictMacroAt
  size := MacroMatch.size
  size_le := by
    intro text found hfind
    simp only [dictMacroAt] at hfind
    split at hfind
    · next hbegins =>
      split at hfind
      · cases hfind
      · obtain ⟨mode, hmode, rfl⟩ := Option.map_eq_some_iff.mp hfind
        have hlength := (List.isPrefixOf_iff_prefix.mp hbegins).length_le
        have hle := modeAt_le hmode
        have hname := (List.takeWhile_prefix isNameChar (l := text.drop 6)).length_le
        have hsix : "\x7bdict:".toList.length = 6 := by decide
        rw [List.length_drop] at hle hname
        dsimp only
        omega
    · cases hfind

/-! ## Rendering -/

/-- What a template is rendered with: the evaluator of expressions over its context, and the
dictionaries, each with what it changes.  An expression fails, or has no value, or a text. -/
structure Environment (σ : Type) where
  evaluate : String → σ → Option (Option String) × σ
  resolveDictEntry : String → String → σ → Option String × σ

namespace Environment

variable (env : Environment σ)

/-- `_replace_match`, which keeps the placeholder if the expression fails. -/
def replaceMatch (found : Placeholder) (state : σ) : Option (List Char) × σ :=
  let evaluated := env.evaluate (pyStrip (String.ofList found.group)) state
  (evaluated.1.map fun value => (value.getD "").toList, evaluated.2)

/-- `_replace_dict_macro`, which keeps the macro if there is no entry. -/
def replaceDictMacro (found : MacroMatch) (state : σ) : Option (List Char) × σ :=
  let entry := env.resolveDictEntry found.name found.mode state
  (entry.1.map String.toList, entry.2)

/-- `_render_dict_macros`. -/
def renderDictMacros (text : List Char) (state : σ) : List Char × σ :=
  if "\x7bdict:".toList <:+: text then
    let after := subPieces dictMacroPattern env.replaceDictMacro 0 text state
    (joinPieces after.1, after.2)
  else (text, state)

/-- `render_template`. -/
def renderTemplate (template : List Char) (state : σ) : List Char × σ :=
  let rendered :=
    if "\x7b\x7b".toList <:+: template then
      let after := subPieces templatePattern env.replaceMatch 0 template state
      (joinPieces after.1, after.2)
    else (template, state)
  env.renderDictMacros rendered.1 rendered.2

/-! ## One pass over the template -/

/-- The placeholders of the template with their values, and then the macros that stand in the
template itself. -/
def singlePass (template : List Char) (state : σ) : List Char × σ :=
  let values := subPieces templatePattern env.replaceMatch 0 template state
  let entries := subOwn dictMacroPattern env.replaceDictMacro 0 values.1 values.2
  (joinPieces entries.1, entries.2)

end Environment

/-! ## What is replaced, and by what -/

theorem subPieces_of_absent {μ : Type} {pattern : Pattern μ} {start : List Char}
    {replace : μ → σ → Option (List Char) × σ}
    (hbegins : ∀ {text found}, pattern.find text = some found → start <+: text)
    {text : List Char} (hwithin : ¬ start <:+: text) (state : σ) :
    (joinPieces (subPieces pattern replace 0 text state).1,
      (subPieces pattern replace 0 text state).2) = (text, state) := by
  have hnone : ∀ tail ∈ text.tails, tail ≠ [] → pattern.find (tail ++ []) = none := by
    intro tail hmem _
    rw [List.append_nil]
    cases hfind : pattern.find tail with
    | none => rfl
    | some found =>
      have hsuffix := (List.mem_tails _ _).mp hmem
      exact absurd ((hbegins hfind).isInfix.trans hsuffix.isInfix) hwithin
  have hwhole := @subPieces_append μ σ pattern replace text [] hnone state
  rw [List.append_nil] at hwhole
  rw [hwhole]
  simp [subPieces]

theorem braces_of_placeholderAt {text : List Char} {found : Placeholder}
    (hfind : placeholderAt text = some found) : "\x7b\x7b".toList <+: text := by
  unfold placeholderAt at hfind
  split at hfind
  · next hbraces => exact List.isPrefixOf_iff_prefix.mp hbraces
  · cases hfind

theorem begins_of_dictMacroAt {text : List Char} {found : MacroMatch}
    (hfind : dictMacroAt text = some found) : "\x7bdict:".toList <+: text := by
  unfold dictMacroAt at hfind
  split at hfind
  · next hbegins => exact List.isPrefixOf_iff_prefix.mp hbegins
  · cases hfind

namespace Environment

variable (env : Environment σ)

theorem renderDictMacros_eq (text : List Char) (state : σ) : env.renderDictMacros text state =
      (joinPieces (subPieces dictMacroPattern env.replaceDictMacro 0 text state).1,
        (subPieces dictMacroPattern env.replaceDictMacro 0 text state).2) := by
  unfold renderDictMacros
  split
  · rfl
  · next hwithin => exact (subPieces_of_absent begins_of_dictMacroAt hwithin state).symm

def values (template : List Char) (state : σ) : List Piece × σ :=
  subPieces templatePattern env.replaceMatch 0 template state

theorem renderTemplate_eq (template : List Char) (state : σ) : env.renderTemplate template state =
      env.renderDictMacros (joinPieces (env.values template state).1)
        (env.values template state).2 := by
  simp only [renderTemplate, values]
  split
  · rfl
  · next hwithin =>
    have hsame := @subPieces_of_absent σ _ templatePattern _ env.replaceMatch
      braces_of_placeholderAt _ hwithin state
    rw [← hsame]

/-- What the placeholders of the template are replaced by, from left to right. -/
def placeholderValues (template : List Char) (state : σ) : List (Option (List Char)) × σ :=
  replaceAll env.replaceMatch (matchesOf (cut templatePattern template)) state

def valuesInPlace (template : List Char) (state : σ) : List Char :=
  joinPieces (fill (cut templatePattern template) (env.placeholderValues template state).1)

/-- What the macros of the text with the values are replaced by. -/
def macroEntries (template : List Char) (state : σ) : List (Option (List Char)) × σ :=
  replaceAll env.replaceDictMacro
    (matchesOf (cut dictMacroPattern (env.valuesInPlace template state)))
    (env.placeholderValues template state).2

/-- The values stand in place of the placeholders of the template, and the entries in place of the
macros of the text with the values; neither is looked at again by its own pass, and the entries by
none.  Where no macro touches a value, this is one pass over the template. -/
theorem renderTemplate_once (template : List Char) (state : σ) : env.renderTemplate template state =
        (joinPieces (fill (cut dictMacroPattern (env.valuesInPlace template state))
          (env.macroEntries template state).1), (env.macroEntries template state).2) ∧
      (Untouched dictMacroPattern (env.values template state).1 →
        env.renderTemplate template state = env.singlePass template state) := by
  have hvalues : env.values template state =
      (fill (cut templatePattern template) (env.placeholderValues template state).1,
        (env.placeholderValues template state).2) :=
    subPieces_eq_fill templatePattern env.replaceMatch 0 template state
  rw [renderTemplate_eq, renderDictMacros_eq]
  constructor
  · rw [subPieces_eq_fill, hvalues]
    rfl
  · intro huntouched
    obtain ⟨htext, hstate⟩ := @joinPieces_subPieces _ σ dictMacroPattern env.replaceDictMacro
      (env.values template state).1 huntouched 0 (Nat.zero_le _) (env.values template state).2
    rw [htext, hstate]
    rfl

end Environment

/-! ## A value with a macro -/

/-- A context with the name of a user, and a dictionary of greetings. -/
def greetingEnv (name : String) : Environment Unit where
  evaluate expression _ := (if expression = "name" then some (some name) else none, ())
  resolveDictEntry dictionary _ _ := (if dictionary = "greetings" then some "Hi" else none, ())

theorem renderTemplate_once_greeting :
    (greetingEnv "Ann").renderTemplate "\x7bdict:greetings\x7d, \x7b\x7b name \x7d\x7d".toList () =
        ("Hi, Ann".toList, ()) ∧
      (greetingEnv "Ann").renderTemplate "\x7bdict:greetings\x7d, \x7b\x7b name \x7d\x7d".toList
          () =
        (greetingEnv "Ann").singlePass "\x7bdict:greetings\x7d, \x7b\x7b name \x7d\x7d".toList () :=
  ⟨by decide, ((greetingEnv "Ann").renderTemplate_once _ ()).2 (by decide)⟩

/-- A name that reads as a macro is replaced by an entry. -/
theorem macro_of_value_expanded :
    ¬ ∀ (σ : Type) (env : Environment σ) (template : List Char) (state : σ),
      env.renderTemplate template state = env.singlePass template state := by
  intro hall
  have hsame := hall Unit (greetingEnv "\x7bdict:greetings\x7d") "\x7b\x7b name \x7d\x7d".toList ()
  exact absurd hsame (by decide)

end SignPulse.Templates
