import Mathlib.Data.List.Sort
import Mathlib.Data.List.TakeDrop
import Mathlib.Data.String.Basic
import SignPulse.Foundation.PyText
import SignPulse.Foundation.PyValue

/-!
# The text of JSON values

`json.dumps` with sorted keys, without blanks and without ASCII escapes.  A text ends where its
value does, so that equal texts, with whatever follows them, are texts of the same value.
-/

namespace SignPulse.Foundation.JsonText

/-! ## Texts of characters -/

/-- The characters that `json` escapes by a letter. -/
def shortEscape (c : Char) : Option Char :=
  if c = '"' then some '"'
  else if c = '\\' then some '\\'
  else if c = '\n' then some 'n'
  else if c = '\r' then some 'r'
  else if c = '\t' then some 't'
  else if c.toNat = 12 then some 'f'
  else if c.toNat = 8 then some 'b'
  else none

def escapeChar (c : Char) : List Char :=
  match shortEscape c with
  | some letter => ['\\', letter]
  | none =>
    if c.toNat < 32 then
      ['\\', 'u', '0', '0', Nat.digitChar (c.toNat / 16), Nat.digitChar (c.toNat % 16)]
    else [c]

def quoted (text : String) : List Char :=
  '"' :: (text.toList.flatMap escapeChar ++ ['"'])

/-- The characters up to the backslash, the last one that is escaped. -/
theorem escapeChar_low : ∀ m < 93, (escapeChar (Char.ofNat m)).head?.any (·.toNat < 93) ∧
    ∀ n < 93, escapeChar (Char.ofNat m) <+: escapeChar (Char.ofNat n) → m = n := by
  decide +kernel

theorem escapeChar_high {c : Char} (hhigh : 93 ≤ c.toNat) : escapeChar c = [c] := by
  have hne : ∀ other : Char, other.toNat < 93 → c ≠ other := by
    rintro other hlow rfl
    exact absurd hhigh (Nat.not_le_of_lt hlow)
  have hshort : shortEscape c = none := by
    unfold shortEscape
    rw [if_neg (hne '"' (by decide)), if_neg (hne '\\' (by decide)),
      if_neg (hne '\n' (by decide)), if_neg (hne '\r' (by decide)), if_neg (hne '\t' (by decide)),
      if_neg (by omega), if_neg (by omega)]
  rw [escapeChar, hshort]
  exact if_neg (by omega)

theorem eq_of_escapeChar_begins {c d : Char} (hbegins : escapeChar c <+: escapeChar d) : c = d := by
  have hlow : ∀ e : Char, e.toNat < 93 → (escapeChar e).head?.any (·.toNat < 93) := by
    intro e he
    have htable := (escapeChar_low e.toNat he).1
    rwa [Char.ofNat_toNat] at htable
  by_cases hc : c.toNat < 93
  · by_cases hd : d.toNat < 93
    · have hsame := (escapeChar_low c.toNat hc).2 d.toNat hd
      rw [Char.ofNat_toNat, Char.ofNat_toNat] at hsame
      exact Char.ext (UInt32.toNat_inj.mp (hsame hbegins))
    · have hhead := hlow c hc
      rw [escapeChar_high (Nat.le_of_not_lt hd)] at hbegins
      cases hcode : escapeChar c with
      | nil =>
        rw [hcode] at hhead
        exact absurd hhead Bool.false_ne_true
      | cons first tail =>
        rw [hcode] at hhead hbegins
        obtain rfl := (List.cons_prefix_cons.mp hbegins).1
        exact absurd (of_decide_eq_true hhead) hd
  · rw [escapeChar_high (Nat.le_of_not_lt hc)] at hbegins
    by_cases hd : d.toNat < 93
    · have hhead := hlow d hd
      obtain ⟨tail, htail⟩ := hbegins
      rw [← htail] at hhead
      exact absurd (of_decide_eq_true hhead) hc
    · rw [escapeChar_high (Nat.le_of_not_lt hd)] at hbegins
      exact (List.cons_prefix_cons.mp hbegins).1

variable {rest others : List Char}

theorem escapeChar_append_inj {c d : Char}
    (heq : escapeChar c ++ rest = escapeChar d ++ others) : c = d ∧ rest = others := by
  have hsame : c = d := by
    obtain hbegins | hbegins := List.prefix_or_prefix_of_prefix
      (List.prefix_append (escapeChar c) rest) (heq ▸ List.prefix_append (escapeChar d) others)
    · exact eq_of_escapeChar_begins hbegins
    · exact (eq_of_escapeChar_begins hbegins).symm
  subst hsame
  exact ⟨rfl, List.append_cancel_left heq⟩

/-- An escape does not begin with the quote that ends a text. -/
theorem head?_escapeChar_ne (c : Char) : (escapeChar c).head? ≠ none ∧
    (escapeChar c).head? ≠ some '"' := by
  by_cases hc : c.toNat < 93
  · have htable : ∀ n < 93, (escapeChar (Char.ofNat n)).head? ≠ none ∧
        (escapeChar (Char.ofNat n)).head? ≠ some '"' := by decide
    have hnat := htable c.toNat hc
    rwa [Char.ofNat_toNat] at hnat
  · rw [escapeChar_high (Nat.le_of_not_lt hc)]
    refine ⟨Option.some_ne_none c, fun hquote => hc ?_⟩
    cases hquote
    decide

theorem ne_quote_of_escape (c : Char) (tail : List Char) : escapeChar c ++ tail ≠ '"' :: rest := by
  obtain ⟨hnone, hquote⟩ := head?_escapeChar_ne c
  cases hcode : escapeChar c with
  | nil => exact absurd (congrArg List.head? hcode) hnone
  | cons first code =>
    intro heq
    obtain ⟨rfl, -⟩ := List.cons.inj heq
    exact hquote (congrArg List.head? hcode)

theorem escaped_append_inj {cs ds : List Char}
    (heq : cs.flatMap escapeChar ++ '"' :: rest = ds.flatMap escapeChar ++ '"' :: others) :
    cs = ds ∧ rest = others := by
  induction cs generalizing ds with
  | nil =>
    cases ds with
    | nil => exact ⟨rfl, (List.cons.inj heq).2⟩
    | cons d ds =>
      rw [List.flatMap_cons, List.append_assoc] at heq
      exact absurd heq.symm (ne_quote_of_escape d _)
  | cons c cs ih =>
    rw [List.flatMap_cons, List.append_assoc] at heq
    cases ds with
    | nil => exact absurd heq (ne_quote_of_escape c _)
    | cons d ds =>
      rw [List.flatMap_cons, List.append_assoc] at heq
      obtain ⟨rfl, hrest⟩ := escapeChar_append_inj heq
      obtain ⟨rfl, hsame⟩ := ih hrest
      exact ⟨rfl, hsame⟩

theorem quoted_append_inj {text other : String}
    (heq : quoted text ++ rest = quoted other ++ others) : text = other ∧ rest = others := by
  have hinner : text.toList.flatMap escapeChar ++ '"' :: rest =
      other.toList.flatMap escapeChar ++ '"' :: others := by
    simpa [quoted] using heq
  obtain ⟨hlist, hrest⟩ := escaped_append_inj hinner
  exact ⟨String.toList_inj.mp hlist, hrest⟩

/-! ## Texts of numbers -/

def isNumberChar (c : Char) : Bool :=
  c.isDigit || c == '-' || c == '+' || c == '.' || c == 'e'

def intText (value : ℤ) : List Char :=
  if value < 0 then '-' :: Nat.toDigits 10 value.natAbs else Nat.toDigits 10 value.natAbs

/-- The texts of floats: the shortest decimal fraction that is read as the float again, with a
point or an exponent. -/
structure FloatRepr where
  text : ℚ → List Char
  injective : Function.Injective text
  numeric : ∀ value, ∀ c ∈ text value, isNumberChar c = true
  marked : ∀ value, '.' ∈ text value ∨ 'e' ∈ text value

theorem digit_or_minus_of_mem_intText {value : ℤ} {c : Char} (hmem : c ∈ intText value) :
    c.isDigit = true ∨ c = '-' := by
  unfold intText at hmem
  split at hmem
  · obtain rfl | hdigit := List.mem_cons.mp hmem
    · exact .inr rfl
    · exact .inl (Nat.isDigit_of_mem_toDigits (by decide) (by decide) hdigit)
  · exact .inl (Nat.isDigit_of_mem_toDigits (by decide) (by decide) hmem)

theorem isNumberChar_of_mem_intText {value : ℤ} {c : Char} (hmem : c ∈ intText value) :
    isNumberChar c = true := by
  obtain hdigit | rfl := digit_or_minus_of_mem_intText hmem
  · simp [isNumberChar, hdigit]
  · rfl

theorem minus_not_mem_toDigits (n : ℕ) : '-' ∉ Nat.toDigits 10 n := fun hmem =>
  absurd (Nat.isDigit_of_mem_toDigits (by decide) (by decide) hmem) (by decide)

theorem intText_injective : Function.Injective intText := by
  intro value other heq
  unfold intText at heq
  split at heq
  · next hneg =>
    split at heq
    · have habs := toDigits_injective (List.cons.inj heq).2
      omega
    · exact absurd (heq ▸ List.mem_cons_self) (minus_not_mem_toDigits other.natAbs)
  · next hneg =>
    split at heq
    · exact absurd (heq ▸ List.mem_cons_self) (minus_not_mem_toDigits value.natAbs)
    · have habs := toDigits_injective heq
      omega

theorem intText_ne_float (floats : FloatRepr) (value : ℤ) (other : ℚ) :
    intText value ≠ floats.text other := by
  intro heq
  obtain hpoint | hexponent := floats.marked other
  · rw [← heq] at hpoint
    exact absurd (digit_or_minus_of_mem_intText hpoint) (by decide)
  · rw [← heq] at hexponent
    exact absurd (digit_or_minus_of_mem_intText hexponent) (by decide)

/-- What follows a number goes on with another character. -/
def Delimited (rest : List Char) : Prop :=
  ∀ c ∈ rest.head?, isNumberChar c = false

theorem delimited_nil : Delimited [] := by
  intro c hc
  cases hc

theorem delimited_cons {c : Char} (hc : isNumberChar c = false) : Delimited (c :: rest) := by
  intro d hd
  cases hd
  exact hc

theorem takeWhile_number {digits : List Char} (hdigits : ∀ c ∈ digits, isNumberChar c = true)
    (hrest : Delimited rest) : (digits ++ rest).takeWhile isNumberChar = digits := by
  rw [List.takeWhile_append_of_pos hdigits]
  cases rest with
  | nil => rw [List.takeWhile_nil, List.append_nil]
  | cons c rest =>
    rw [List.takeWhile_cons_of_neg (Bool.eq_false_iff.mp (hrest c rfl)), List.append_nil]

theorem number_append_inj {digits digits' : List Char}
    (hdigits : ∀ c ∈ digits, isNumberChar c = true)
    (hdigits' : ∀ c ∈ digits', isNumberChar c = true) (hrest : Delimited rest)
    (hothers : Delimited others) (heq : digits ++ rest = digits' ++ others) :
    digits = digits' ∧ rest = others := by
  have hsame : digits = digits' := by
    rw [← takeWhile_number hdigits hrest, heq, takeWhile_number hdigits' hothers]
  subst hsame
  exact ⟨rfl, List.append_cancel_left heq⟩

/-! ## Texts of values -/

section Values

variable (floats : FloatRepr)

mutual

/-- `json.dumps` of a value whose keys are in order. -/
def valueText : PyValue → List Char
  | .none => ['n', 'u', 'l', 'l']
  | .bool true => ['t', 'r', 'u', 'e']
  | .bool false => ['f', 'a', 'l', 's', 'e']
  | .int value => intText value
  | .float value => floats.text value
  | .str text => quoted text
  | .list [] => ['[', ']']
  | .list (item :: rest) => '[' :: (valueText item ++ (itemsText rest ++ [']']))
  | .dict [] => ['\x7b', '\x7d']
  | .dict ((key, value) :: rest) =>
    '\x7b' :: (quoted key ++ ':' :: (valueText value ++ (entriesText rest ++ ['\x7d'])))

def itemsText : List PyValue → List Char
  | [] => []
  | item :: rest => ',' :: (valueText item ++ itemsText rest)

def entriesText : List (String × PyValue) → List Char
  | [] => []
  | (key, value) :: rest => ',' :: (quoted key ++ ':' :: (valueText value ++ entriesText rest))

end

/-! ## The value of a text -/

inductive Shape where
  | null | bool | number | str | list | dict
  deriving DecidableEq

def shapeOf : PyValue → Shape
  | .none => .null
  | .bool _ => .bool
  | .int _ => .number
  | .float _ => .number
  | .str _ => .str
  | .list _ => .list
  | .dict _ => .dict

/-- What a text is of, by its first character. -/
def shapeOfHead (c : Char) : Option Shape :=
  if isNumberChar c then some .number
  else if c = 'n' then some .null
  else if c = 't' ∨ c = 'f' then some .bool
  else if c = '"' then some .str
  else if c = '[' then some .list
  else if c = '\x7b' then some .dict
  else none

theorem shape_of_number {digits : List Char} (hnil : digits ≠ [])
    (hdigits : ∀ c ∈ digits, isNumberChar c = true) (rest : List Char) :
    (digits ++ rest).head?.bind shapeOfHead = some .number := by
  cases digits with
  | nil => exact absurd rfl hnil
  | cons c digits => exact if_pos (hdigits c List.mem_cons_self)

theorem shape_valueText (value : PyValue) (rest : List Char) :
    (valueText floats value ++ rest).head?.bind shapeOfHead = some (shapeOf value) := by
  cases value with
  | none => rw [valueText]; rfl
  | bool value => cases value <;> rw [valueText] <;> rfl
  | int value =>
    rw [valueText]
    refine shape_of_number (fun hnil => ?_) (fun c hc => isNumberChar_of_mem_intText hc) rest
    unfold intText at hnil
    split at hnil
    · exact absurd hnil (List.cons_ne_nil _ _)
    · exact Nat.toDigits_ne_nil hnil
  | float value =>
    rw [valueText]
    refine shape_of_number (fun hnil => ?_) (floats.numeric value) rest
    have hmarked := floats.marked value
    rw [hnil] at hmarked
    exact hmarked.elim List.not_mem_nil List.not_mem_nil
  | str text => rw [valueText]; rfl
  | list items => cases items <;> rw [valueText] <;> rfl
  | dict entries => cases entries <;> rw [valueText] <;> rfl

/-- The text of the value is that of no other value, whatever follows. -/
def Ends (value : PyValue) : Prop :=
  ∀ {other rest others}, Delimited rest → Delimited others →
    valueText floats value ++ rest = valueText floats other ++ others →
      value = other ∧ rest = others

variable {floats}

theorem delimited_itemsText (items : List PyValue) (rest : List Char) :
    Delimited (itemsText floats items ++ ']' :: rest) := by
  cases items with
  | nil => exact delimited_cons rfl
  | cons item items => exact delimited_cons rfl

theorem delimited_entriesText (entries : List (String × PyValue)) (rest : List Char) :
    Delimited (entriesText floats entries ++ '\x7d' :: rest) := by
  cases entries with
  | nil => exact delimited_cons rfl
  | cons entry entries => exact delimited_cons rfl

theorem itemsText_append_inj {items items' : List PyValue}
    (hends : ∀ item ∈ items, Ends floats item)
    (heq : itemsText floats items ++ ']' :: rest = itemsText floats items' ++ ']' :: others) :
    items = items' ∧ rest = others := by
  induction items generalizing items' with
  | nil =>
    cases items' with
    | nil => exact ⟨rfl, (List.cons.inj heq).2⟩
    | cons item' items' => exact absurd (List.cons.inj heq).1 (by decide)
  | cons item items ih =>
    cases items' with
    | nil => exact absurd (List.cons.inj heq).1 (by decide)
    | cons item' items' =>
      rw [itemsText, itemsText, List.cons_append, List.cons_append, List.append_assoc,
        List.append_assoc] at heq
      obtain ⟨rfl, hrest⟩ := hends item List.mem_cons_self (delimited_itemsText items rest)
        (delimited_itemsText items' others) (List.cons.inj heq).2
      obtain ⟨rfl, hsame⟩ := ih (fun other hmem => hends other (List.mem_cons_of_mem _ hmem)) hrest
      exact ⟨rfl, hsame⟩

theorem entriesText_append_inj {entries entries' : List (String × PyValue)}
    (hends : ∀ entry ∈ entries, Ends floats entry.2)
    (heq : entriesText floats entries ++ '\x7d' :: rest =
      entriesText floats entries' ++ '\x7d' :: others) :
    entries = entries' ∧ rest = others := by
  induction entries generalizing entries' with
  | nil =>
    cases entries' with
    | nil => exact ⟨rfl, (List.cons.inj heq).2⟩
    | cons entry' entries' => exact absurd (List.cons.inj heq).1 (by decide)
  | cons entry entries ih =>
    cases entries' with
    | nil => exact absurd (List.cons.inj heq).1 (by decide)
    | cons entry' entries' =>
      obtain ⟨key, value⟩ := entry
      obtain ⟨key', value'⟩ := entry'
      simp only [entriesText, List.cons_append, List.append_assoc, List.cons.injEq, true_and] at heq
      obtain ⟨rfl, hvalue⟩ := quoted_append_inj heq
      obtain ⟨rfl, hrest⟩ := hends (key, value) List.mem_cons_self
        (delimited_entriesText entries rest) (delimited_entriesText entries' others)
        (List.cons.inj hvalue).2
      obtain ⟨rfl, hsame⟩ := ih (fun other hmem => hends other (List.mem_cons_of_mem _ hmem)) hrest
      exact ⟨rfl, hsame⟩

theorem shapeOf_eq_of_append {value other : PyValue}
    (heq : valueText floats value ++ rest = valueText floats other ++ others) :
    shapeOf value = shapeOf other := by
  have hvalue := shape_valueText floats value rest
  rw [heq, shape_valueText floats other others] at hvalue
  exact (Option.some.inj hvalue).symm

theorem numeric_of_number {value : PyValue} (hvalue : shapeOf value = .number) :
    ∀ c ∈ valueText floats value, isNumberChar c = true := by
  cases value with
  | int value =>
    rw [valueText]
    exact fun c hc => isNumberChar_of_mem_intText hc
  | float value =>
    rw [valueText]
    exact floats.numeric value
  | _ => cases hvalue

theorem eq_of_numberText {value other : PyValue} (hvalue : shapeOf value = .number)
    (hother : shapeOf other = .number) (heq : valueText floats value = valueText floats other) :
    value = other := by
  cases value with
  | int value =>
    cases other with
    | int other =>
      rw [valueText, valueText] at heq
      rw [intText_injective heq]
    | float other =>
      rw [valueText, valueText] at heq
      exact absurd heq (intText_ne_float floats value other)
    | _ => cases hother
  | float value =>
    cases other with
    | int other =>
      rw [valueText, valueText] at heq
      exact absurd heq.symm (intText_ne_float floats other value)
    | float other =>
      rw [valueText, valueText] at heq
      rw [floats.injective heq]
    | _ => cases hother
  | _ => cases hvalue

theorem ends_number {value : PyValue} (hvalue : shapeOf value = .number) : Ends floats value := by
  intro other rest others hrest hothers heq
  have hother : shapeOf other = .number := (shapeOf_eq_of_append heq).symm.trans hvalue
  obtain ⟨hsame, htail⟩ := number_append_inj (numeric_of_number hvalue)
    (numeric_of_number hother) hrest hothers heq
  exact ⟨eq_of_numberText hvalue hother hsame, htail⟩

theorem ends_list {items : List PyValue} (hends : ∀ item ∈ items, Ends floats item) :
    Ends floats (.list items) := by
  intro other rest others hrest hothers heq
  have hshape := shapeOf_eq_of_append heq
  cases other with
  | list items' =>
    cases items with
    | nil =>
      cases items' with
      | nil =>
        simp only [valueText, List.cons_append, List.nil_append, List.cons.injEq, true_and] at heq
        exact ⟨rfl, heq⟩
      | cons item' items' =>
        -- no text begins with the bracket that closes an empty list
        simp only [valueText, List.cons_append, List.nil_append, List.append_assoc,
          List.cons.injEq, true_and] at heq
        have hhead := shape_valueText floats item' (itemsText floats items' ++ ']' :: others)
        rw [← heq] at hhead
        exact absurd hhead.symm (Option.some_ne_none _)
    | cons item items =>
      cases items' with
      | nil =>
        simp only [valueText, List.cons_append, List.nil_append, List.append_assoc,
          List.cons.injEq, true_and] at heq
        have hhead := shape_valueText floats item (itemsText floats items ++ ']' :: rest)
        rw [heq] at hhead
        exact absurd hhead.symm (Option.some_ne_none _)
      | cons item' items' =>
        simp only [valueText, List.cons_append, List.nil_append, List.append_assoc,
          List.cons.injEq, true_and] at heq
        obtain ⟨rfl, htail⟩ := hends item List.mem_cons_self
          (delimited_itemsText items rest) (delimited_itemsText items' others) heq
        obtain ⟨rfl, hsame⟩ := itemsText_append_inj
          (fun inner hmem => hends inner (List.mem_cons_of_mem _ hmem)) htail
        exact ⟨rfl, hsame⟩
  | _ => cases hshape

theorem ends_dict {entries : List (String × PyValue)}
    (hends : ∀ entry ∈ entries, Ends floats entry.2) : Ends floats (.dict entries) := by
  intro other rest others hrest hothers heq
  have hshape := shapeOf_eq_of_append heq
  cases other with
  | dict entries' =>
    cases entries with
    | nil =>
      cases entries' with
      | nil =>
        simp only [valueText, List.cons_append, List.nil_append, List.cons.injEq, true_and] at heq
        exact ⟨rfl, heq⟩
      | cons entry' entries' =>
        obtain ⟨key', value'⟩ := entry'
        simp only [valueText, quoted, List.cons_append, List.nil_append, List.cons.injEq,
          true_and] at heq
        exact absurd heq.1 (by decide)
    | cons entry entries =>
      obtain ⟨key, value⟩ := entry
      cases entries' with
      | nil =>
        simp only [valueText, quoted, List.cons_append, List.nil_append, List.cons.injEq,
          true_and] at heq
        exact absurd heq.1 (by decide)
      | cons entry' entries' =>
        obtain ⟨key', value'⟩ := entry'
        simp only [valueText, List.cons_append, List.nil_append, List.append_assoc,
          List.cons.injEq, true_and] at heq
        obtain ⟨rfl, hvalue⟩ := quoted_append_inj heq
        obtain ⟨rfl, htail⟩ := hends (key, value) List.mem_cons_self
          (delimited_entriesText entries rest) (delimited_entriesText entries' others)
          (List.cons.inj hvalue).2
        obtain ⟨rfl, hsame⟩ := entriesText_append_inj
          (fun inner hmem => hends inner (List.mem_cons_of_mem _ hmem)) htail
        exact ⟨rfl, hsame⟩
  | _ => cases hshape

/-- Equal texts are of the same value, and what follows them is the same. -/
theorem ends (value : PyValue) : Ends floats value := by
  induction hdepth : value.depth using Nat.strong_induction_on generalizing value with
  | h depth ih =>
    subst hdepth
    cases value with
    | none =>
      intro other rest others _ _ heq
      have hshape := shapeOf_eq_of_append heq
      cases other with
      | none => exact ⟨rfl, List.append_cancel_left heq⟩
      | _ => cases hshape
    | bool value =>
      intro other rest others _ _ heq
      have hshape := shapeOf_eq_of_append heq
      cases other with
      | bool other =>
        cases value <;> cases other <;>
          simp only [valueText, List.cons_append, List.nil_append, List.cons.injEq, true_and] at heq
        · exact ⟨rfl, heq⟩
        · exact absurd heq.1 (by decide)
        · exact absurd heq.1 (by decide)
        · exact ⟨rfl, heq⟩
      | _ => cases hshape
    | int value => exact ends_number rfl
    | float value => exact ends_number rfl
    | str text =>
      intro other rest others _ _ heq
      have hshape := shapeOf_eq_of_append heq
      cases other with
      | str other =>
        rw [valueText, valueText] at heq
        obtain ⟨rfl, hsame⟩ := quoted_append_inj heq
        exact ⟨rfl, hsame⟩
      | _ => cases hshape
    | list items =>
      exact ends_list fun item hmem =>
        ih item.depth (PyValue.depth_lt_of_mem_list hmem) item rfl
    | dict entries =>
      exact ends_dict fun entry hmem =>
        ih entry.2.depth (PyValue.depth_lt_of_mem_dict hmem) entry.2 rfl

end Values

/-! ## Keys in order -/

mutual

def sortKeys : PyValue → PyValue
  | .list items => .list (sortItems items)
  | .dict entries =>
    .dict ((sortEntries entries).insertionSort fun left right => left.1 ≤ right.1)
  | value => value

def sortItems : List PyValue → List PyValue
  | [] => []
  | item :: rest => sortKeys item :: sortItems rest

def sortEntries : List (String × PyValue) → List (String × PyValue)
  | [] => []
  | (key, value) :: rest => (key, sortKeys value) :: sortEntries rest

end

/-- `json.dumps(value, ensure_ascii=False, sort_keys=True, separators=(",", ":"))`. -/
def sortedDumps (floats : FloatRepr) (value : PyValue) : String :=
  String.ofList (valueText floats (sortKeys value))

def SameJson (left right : PyValue) : Prop :=
  sortKeys left = sortKeys right

theorem sortedDumps_inj {floats : FloatRepr} {left right : PyValue} :
    sortedDumps floats left = sortedDumps floats right ↔ SameJson left right := by
  constructor
  · intro heq
    have htext : valueText floats (sortKeys left) ++ [] = valueText floats (sortKeys right) ++ [] :=
      congrArg (· ++ []) (String.ofList_injective heq)
    exact (ends (sortKeys left) delimited_nil delimited_nil htext).1
  · intro hsame
    exact congrArg (fun value => String.ofList (valueText floats value)) hsame

/-! ## What equal values have in common -/

theorem sortItems_eq_map (items : List PyValue) : sortItems items = items.map sortKeys := by
  induction items with
  | nil => rfl
  | cons item rest ih => rw [sortItems, ih, List.map_cons]

theorem sortEntries_eq_map (entries : Dict String PyValue) :
    sortEntries entries = entries.map fun entry => (entry.1, sortKeys entry.2) := by
  induction entries with
  | nil => rfl
  | cons entry rest ih => rw [sortEntries, ih, List.map_cons]

theorem map_sortKeys_of_sameJson {left right : List PyValue}
    (hsame : SameJson (.list left) (.list right)) : left.map sortKeys = right.map sortKeys := by
  have hitems := PyValue.list.inj hsame
  rwa [sortItems_eq_map, sortItems_eq_map] at hitems

theorem getItem_of_sameJson {left right : Dict String PyValue}
    (hleft : (Dict.keyList left).Nodup) (hright : (Dict.keyList right).Nodup)
    (hsame : SameJson (.dict left) (.dict right)) (key : String) :
    (Dict.getItem left key).map sortKeys = (Dict.getItem right key).map sortKeys := by
  have hsorted := PyValue.dict.inj hsame
  have hperm : List.Perm (left.map fun entry => (entry.1, sortKeys entry.2))
      (right.map fun entry => (entry.1, sortKeys entry.2)) := by
    have hone := List.perm_insertionSort (fun one two => one.1 ≤ two.1) (sortEntries left)
    have htwo := List.perm_insertionSort (fun one two => one.1 ≤ two.1) (sortEntries right)
    rw [hsorted] at hone
    rw [← sortEntries_eq_map, ← sortEntries_eq_map]
    exact hone.symm.trans htwo
  have hkeys : ∀ entries : Dict String PyValue,
      Dict.keyList (entries.map fun entry => (entry.1, sortKeys entry.2)) =
        Dict.keyList entries := fun entries => Dict.keyList_map entries sortKeys
  rw [← Dict.getItem_map, ← Dict.getItem_map]
  exact Dict.getItem_perm ((hkeys right).symm ▸ hright) hperm key

end SignPulse.Foundation.JsonText
