import Mathlib.Data.List.Basic

/-!
# Python string methods

`str.strip` without arguments and `str.upper`, as far as comparisons with
ASCII tables can see the latter.
-/

namespace SignPulse.Foundation

/-- `str.isspace` of one character: the whitespace of the Unicode table. -/
def isPySpace (c : Char) : Bool :=
  let n := c.toNat
  (9 ≤ n && n ≤ 13) || (28 ≤ n && n ≤ 32) || n == 0x85 || n == 0xA0 ||
    n == 0x1680 || (0x2000 ≤ n && n ≤ 0x200A) || n == 0x2028 || n == 0x2029 ||
    n == 0x202F || n == 0x205F || n == 0x3000

/-- Leave out the leading and the trailing characters that satisfy `p`. -/
def trimChars (p : Char → Bool) (cs : List Char) : List Char :=
  ((cs.dropWhile p).reverse.dropWhile p).reverse

/-- `text.strip()`. -/
def pyStrip (text : String) : String :=
  String.ofList (trimChars isPySpace text.toList)

/-- The uppercase of one character.  ASCII letters map as usual; the listed
characters are those outside ASCII whose uppercase contains an ASCII letter
(dotless i, long s, sharp s, the Latin ligatures and the letters that
decompose).  Every other character has an uppercase without ASCII characters
and is left alone, which no comparison with an ASCII string can tell. -/
def upperChar (c : Char) : List Char :=
  if 'a' ≤ c ∧ c ≤ 'z' then [Char.ofNat (c.toNat - 32)]
  else match c.toNat with
    | 0xDF => ['S', 'S']
    | 0x131 => ['I']
    | 0x149 => [Char.ofNat 0x2BC, 'N']
    | 0x17F => ['S']
    | 0x1F0 => ['J', Char.ofNat 0x30C]
    | 0x1E96 => ['H', Char.ofNat 0x331]
    | 0x1E97 => ['T', Char.ofNat 0x308]
    | 0x1E98 => ['W', Char.ofNat 0x30A]
    | 0x1E99 => ['Y', Char.ofNat 0x30A]
    | 0x1E9A => ['A', Char.ofNat 0x2BE]
    | 0xFB00 => ['F', 'F']
    | 0xFB01 => ['F', 'I']
    | 0xFB02 => ['F', 'L']
    | 0xFB03 => ['F', 'F', 'I']
    | 0xFB04 => ['F', 'F', 'L']
    | 0xFB05 => ['S', 'T']
    | 0xFB06 => ['S', 'T']
    | _ => [c]

/-- `text.upper()`, for comparison with ASCII strings. -/
def pyUpper (text : String) : String :=
  String.ofList (text.toList.flatMap upperChar)

/-- The lowercase of one character, in the manner of `upperChar`: besides the
ASCII letters, the Kelvin sign and the dotted capital i have a lowercase with an
ASCII letter. -/
def lowerChar (c : Char) : List Char :=
  if 'A' ≤ c ∧ c ≤ 'Z' then [Char.ofNat (c.toNat + 32)]
  else match c.toNat with
    | 0x130 => ['i', Char.ofNat 0x307]
    | 0x212A => ['k']
    | _ => [c]

/-- `text.lower()`, for comparison with ASCII strings. -/
def pyLower (text : String) : String :=
  String.ofList (text.toList.flatMap lowerChar)

/-- `text.replace(c, new)`. -/
def replaceChar (c : Char) (new text : List Char) : List Char :=
  text.flatMap fun d => if d = c then new else [d]

/-- `part in text`. -/
def pyContains (text part : String) : Bool :=
  text.toList.tails.any fun rest => part.toList.isPrefixOf rest

/-- `repr(text)`, for printable text. -/
def pyRepr (text : String) : String :=
  let apostrophe := Char.ofNat 39
  let quote :=
    if apostrophe ∈ text.toList ∧ Char.ofNat 34 ∉ text.toList then Char.ofNat 34
    else apostrophe
  let escape (c : Char) : List Char :=
    if c = '\\' ∨ c = quote then ['\\', c]
    else if c = '\n' then ['\\', 'n']
    else if c = '\r' then ['\\', 'r']
    else if c = '\t' then ['\\', 't']
    else [c]
  String.ofList (quote :: text.toList.flatMap escape ++ [quote])

/-- `repr` of a list of strings. -/
def pyReprList (texts : List String) : String :=
  "[" ++ ", ".intercalate (texts.map pyRepr) ++ "]"

theorem dropWhile_eq_self_of_head {p : Char → Bool} {cs : List Char}
    (hhead : ∀ c ∈ cs.head?, p c = false) : cs.dropWhile p = cs := by
  cases cs with
  | nil => rfl
  | cons c rest => simp [hhead c (by simp)]

theorem head?_dropWhile (p : Char → Bool) (cs : List Char) :
    ∀ c ∈ (cs.dropWhile p).head?, p c = false := by
  induction cs with
  | nil => simp
  | cons c rest ih =>
    by_cases hc : p c = true
    · simpa [hc] using ih
    · simp [hc]

/-- Nothing is trimmed between two characters that stay. -/
theorem trimChars_eq_self {p : Char → Bool} {cs : List Char}
    (hhead : ∀ c ∈ cs.head?, p c = false) (hlast : ∀ c ∈ cs.getLast?, p c = false) :
    trimChars p cs = cs := by
  have hreverse : cs.reverse.dropWhile p = cs.reverse := by
    apply dropWhile_eq_self_of_head
    simpa using hlast
  rw [trimChars, dropWhile_eq_self_of_head hhead, hreverse, List.reverse_reverse]

/-- A beginning that is not to be trimmed stays. -/
theorem exists_trimChars_append {p : Char → Bool} {text : List Char} (rest : List Char)
    (htext : ∀ c ∈ text, p c = false) (hne : text ≠ []) :
    ∃ kept, kept <+: rest ∧ trimChars p (text ++ rest) = text ++ kept := by
  have hhead : ∀ c ∈ (text ++ rest).head?, p c = false := fun c hc => by
    rw [List.head?_append_of_ne_nil _ hne] at hc
    exact htext c (List.mem_of_mem_head? hc)
  have hlast : text.reverse.dropWhile p = text.reverse :=
    dropWhile_eq_self_of_head fun c hc => htext c (List.mem_reverse.1 (List.mem_of_mem_head? hc))
  refine ⟨(rest.reverse.dropWhile p).reverse, ?_, ?_⟩
  · rw [← List.reverse_suffix, List.reverse_reverse]
    exact List.dropWhile_suffix p
  · rw [trimChars, dropWhile_eq_self_of_head hhead, List.reverse_append, List.dropWhile_append]
    split
    · next hempty => rw [hlast, List.isEmpty_iff.1 hempty]; simp
    · simp

section

variable (p : Char → Bool) (cs : List Char)

theorem trimChars_sublist : (trimChars p cs).Sublist cs := by
  have hend : ((cs.dropWhile p).reverse.dropWhile p).Sublist (cs.dropWhile p).reverse :=
    List.dropWhile_sublist p
  rw [trimChars, ← List.reverse_sublist, List.reverse_reverse]
  exact hend.trans (List.reverse_sublist.mpr (List.dropWhile_sublist p))

theorem getLast?_trimChars : ∀ c ∈ (trimChars p cs).getLast?, p c = false := by
  rw [trimChars, List.getLast?_reverse]
  exact head?_dropWhile p (cs.dropWhile p).reverse

/-- The first character is that of `cs.dropWhile p`, whose end was trimmed. -/
theorem head?_trimChars : ∀ c ∈ (trimChars p cs).head?, p c = false := by
  intro c hc
  have hstart : (trimChars p cs) <+: cs.dropWhile p := by
    rw [trimChars, ← List.reverse_suffix, List.reverse_reverse]
    exact List.dropWhile_suffix p
  obtain ⟨rest, hrest⟩ := hstart
  apply head?_dropWhile p cs
  rw [← hrest]
  cases htrim : trimChars p cs with
  | nil => simp [htrim] at hc
  | cons first others => simpa [htrim] using hc

theorem trimChars_trimChars : trimChars p (trimChars p cs) = trimChars p cs :=
  trimChars_eq_self (head?_trimChars p cs) (getLast?_trimChars p cs)

end

@[simp]
theorem pyStrip_pyStrip (text : String) : pyStrip (pyStrip text) = pyStrip text := by
  simp [pyStrip, trimChars_trimChars]

theorem lowerChar_of_space {c : Char} (hspace : isPySpace c = true) : lowerChar c = [c] := by
  have hletter : ¬ ('A' ≤ c ∧ c ≤ 'Z') := by
    rintro ⟨hfirst, hlast⟩
    have hlow : 65 ≤ c.toNat := hfirst
    have hhigh : c.toNat ≤ 90 := hlast
    simp only [isPySpace, Bool.or_eq_true, Bool.and_eq_true, decide_eq_true_eq, beq_iff_eq] at hspace
    omega
  rw [lowerChar, if_neg hletter]
  split
  · next hdotted =>
    simp [isPySpace, hdotted] at hspace
  · next hkelvin =>
    simp [isPySpace, hkelvin] at hspace
  · rfl

theorem pyStrip_eq_self_of_lower {text : String}
    (hlower : ∀ c ∈ (pyLower text).toList, isPySpace c = false) : pyStrip text = text := by
  have hall : ∀ c ∈ text.toList, isPySpace c = false := by
    intro c hc
    by_contra hspace
    have hkept : c ∈ (pyLower text).toList := by
      rw [pyLower, String.toList_ofList, List.mem_flatMap]
      refine ⟨c, hc, ?_⟩
      rw [lowerChar_of_space (by simpa using hspace)]
      exact List.mem_singleton_self c
    exact hspace (hlower c hkept)
  rw [pyStrip, trimChars_eq_self, String.ofList_toList]
  · exact fun c hc => hall c (List.mem_of_mem_head? hc)
  · exact fun c hc => hall c (List.mem_of_getLast? hc)

/-- A prefix that ends with a character ends before what does not contain it. -/
theorem prefix_of_concat_prefix {α : Type*} {start text rest : List α} {last : α}
    (hstarts : start ++ [last] <+: text ++ rest) (hlast : last ∉ rest) :
    start ++ [last] <+: text := by
  rcases List.prefix_or_prefix_of_prefix hstarts (List.prefix_append text rest) with hle | hle
  · exact hle
  · rcases List.prefix_concat_iff.mp hle with heq | hshort
    · exact heq ▸ List.prefix_refl _
    · obtain ⟨middle, rfl⟩ := hshort
      rw [List.append_assoc, List.prefix_append_right_inj] at hstarts
      exact absurd (hstarts.subset (by simp)) hlast

/-! ## Decimal digits -/

theorem toDigits_injective {left right : ℕ}
    (heq : Nat.toDigits 10 left = Nat.toDigits 10 right) : left = right := by
  have hvalue := congrArg (fun digits => Nat.ofDigitChars 10 digits 0) heq
  simpa using hvalue

end SignPulse.Foundation
