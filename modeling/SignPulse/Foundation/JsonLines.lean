import SignPulse.Foundation.Bytes
import SignPulse.Foundation.Dict

/-!
# JSON objects of texts

`json.dumps(…, ensure_ascii=False)` of a dictionary from texts to texts, over code points, and
`json.loads` of what is such an object.  The text has no line break, and reading it gives the
dictionary back.
-/

namespace SignPulse.Foundation.JsonLines

def codePoints (text : String) : CodePoints :=
  text.toList.map Char.toNat

/-! ## Writing -/

/-- The code points that `json` escapes by a letter: `"`, `\`, `\n`, `\r`, `\t`, `\f` and `\b`. -/
def shortEscape (point : ℕ) : Option ℕ :=
  if point = 34 then some 34
  else if point = 92 then some 92
  else if point = 10 then some 110
  else if point = 13 then some 114
  else if point = 9 then some 116
  else if point = 12 then some 102
  else if point = 8 then some 98
  else none

def hexDigit (value : ℕ) : ℕ :=
  if value < 10 then 48 + value else 87 + value

def escapePoint (point : ℕ) : CodePoints :=
  match shortEscape point with
  | some letter => [92, letter]
  | none =>
    if point < 32 then [92, 117, 48, 48, hexDigit (point / 16), hexDigit (point % 16)]
    else [point]

def quoted (text : CodePoints) : CodePoints :=
  34 :: (text.flatMap escapePoint ++ [34])

/-- `"key": "value"`. -/
def memberText (entry : CodePoints × CodePoints) : CodePoints :=
  quoted entry.1 ++ 58 :: 32 :: quoted entry.2

/-- The members after the first one. -/
def restText : Dict CodePoints CodePoints → CodePoints
  | [] => []
  | entry :: rest => 44 :: 32 :: (memberText entry ++ restText rest)

/-- `json.dumps(entries, ensure_ascii=False)`. -/
def dumps : Dict CodePoints CodePoints → CodePoints
  | [] => [123, 125]
  | entry :: rest => 123 :: (memberText entry ++ (restText rest ++ [125]))

/-! ## Reading -/

def hexValue (point : ℕ) : Option ℕ :=
  if 48 ≤ point ∧ point ≤ 57 then some (point - 48)
  else if 97 ≤ point ∧ point ≤ 102 then some (point - 87)
  else if 65 ≤ point ∧ point ≤ 70 then some (point - 55)
  else none

def hexNumber (first second third fourth : ℕ) : Option ℕ := do
  return 4096 * (← hexValue first) + 256 * (← hexValue second) + 16 * (← hexValue third) +
    (← hexValue fourth)

/-- What a letter after a backslash stands for. -/
def unescape (letter : ℕ) : Option ℕ :=
  if letter = 34 ∨ letter = 92 ∨ letter = 47 then some letter
  else if letter = 110 then some 10
  else if letter = 114 then some 13
  else if letter = 116 then some 9
  else if letter = 102 then some 12
  else if letter = 98 then some 8
  else none

/-- Put a code point in front of a text that was read.  The two halves of a surrogate pair that
were both escaped are one code point. -/
def consEscaped (value : ℕ) (rest : List (ℕ × Bool)) : List (ℕ × Bool) :=
  match rest with
  | (low, true) :: others =>
    if 0xD800 ≤ value ∧ value ≤ 0xDBFF ∧ 0xDC00 ≤ low ∧ low ≤ 0xDFFF then
      (0x10000 + 1024 * (value - 0xD800) + (low - 0xDC00), false) :: others
    else (value, true) :: rest
  | _ => (value, true) :: rest

def readString : CodePoints → Option (List (ℕ × Bool) × CodePoints)
  | [] => none
  | 34 :: rest => some ([], rest)
  | 92 :: 117 :: first :: second :: third :: fourth :: rest => do
    let value ← hexNumber first second third fourth
    let found ← readString rest
    return (consEscaped value found.1, found.2)
  | 92 :: letter :: rest => do
    let value ← unescape letter
    let found ← readString rest
    return ((value, false) :: found.1, found.2)
  | point :: rest =>
    -- control characters are not allowed
    if point < 32 then none
    else (readString rest).map fun found => ((point, false) :: found.1, found.2)

/-- A string with its opening quote. -/
def readText : CodePoints → Option (CodePoints × CodePoints)
  | 34 :: rest => (readString rest).map fun found => (found.1.map Prod.fst, found.2)
  | _ => none

def skipBlanks (text : CodePoints) : CodePoints :=
  text.dropWhile fun point => point = 32 ∨ point = 9 ∨ point = 10 ∨ point = 13

def readMember (text : CodePoints) : Option ((CodePoints × CodePoints) × CodePoints) := do
  let key ← readText text
  match skipBlanks key.2 with
  | 58 :: rest =>
    let value ← readText (skipBlanks rest)
    return ((key.1, value.1), skipBlanks value.2)
  | _ => none

/-- The members of an object up to the closing brace. -/
def readMembers : ℕ → Dict CodePoints CodePoints → CodePoints →
    Option (Dict CodePoints CodePoints × CodePoints)
  | 0, _, _ => none
  | fuel + 1, entries, text => do
    let member ← readMember text
    let entries := Dict.setItem entries member.1.1 member.1.2
    match member.2 with
    | 44 :: rest => readMembers fuel entries (skipBlanks rest)
    | 125 :: rest => return (entries, rest)
    | _ => none

/-- `json.loads(text)` where `text` is an object whose values are texts; none where it is not. -/
def loads (text : CodePoints) : Option (Dict CodePoints CodePoints) :=
  match skipBlanks text with
  | 123 :: rest =>
    match skipBlanks rest with
    | 125 :: after => if skipBlanks after = [] then some [] else none
    | members =>
      (readMembers text.length [] members).bind fun found =>
        if skipBlanks found.2 = [] then some found.1 else none
  | _ => none

/-! ## Strings that were written -/

variable {point : ℕ}

/-- Nothing after the backslash is escaped by a letter. -/
theorem shortEscape_high (hhigh : 93 ≤ point) : shortEscape point = none := by
  unfold shortEscape
  rw [if_neg (by omega), if_neg (by omega), if_neg (by omega), if_neg (by omega),
    if_neg (by omega), if_neg (by omega), if_neg (by omega)]

theorem shortEscape_low : ∀ point < 93, ∀ letter ∈ shortEscape point,
    letter ≠ 117 ∧ letter ≠ 10 ∧ unescape letter = some point := by
  decide

theorem unescape_shortEscape {letter : ℕ} (hletter : shortEscape point = some letter) :
    letter ≠ 117 ∧ letter ≠ 10 ∧ unescape letter = some point := by
  by_cases hlow : point < 93
  · exact shortEscape_low point hlow letter hletter
  · rw [shortEscape_high (Nat.le_of_not_lt hlow)] at hletter
    cases hletter

theorem ne_of_shortEscape_none (hnone : shortEscape point = none) :
    point ≠ 34 ∧ point ≠ 92 ∧ point ≠ 10 := by
  refine ⟨?_, ?_, ?_⟩
  · rintro rfl
    cases hnone
  · rintro rfl
    cases hnone
  · rintro rfl
    cases hnone

theorem hexNumber_control : ∀ point < 32,
    hexNumber 48 48 (hexDigit (point / 16)) (hexDigit (point % 16)) = some point := by
  decide

theorem readString_letter {letter : ℕ} (hletter : letter ≠ 117) (rest : CodePoints) :
    readString (92 :: letter :: rest) =
      (unescape letter).bind fun value => (readString rest).map fun found =>
        ((value, false) :: found.1, found.2) := by
  rw [readString]
  · cases unescape letter with
    | none => rfl
    | some value =>
      cases readString rest with
      | none => rfl
      | some found => rfl
  · intro first second third fourth others heq
    exact absurd heq hletter

theorem readString_plain (hquote : point ≠ 34) (hslash : point ≠ 92) (hprintable : 32 ≤ point)
    (rest : CodePoints) :
    readString (point :: rest) =
      (readString rest).map fun found => ((point, false) :: found.1, found.2) := by
  rw [readString]
  · rw [if_neg (Nat.not_lt_of_le hprintable)]
  · exact hquote
  · intro first second third fourth others heq
    exact absurd heq hslash
  · intro letter others heq
    exact absurd heq hslash

theorem readString_escapePoint (point : ℕ) (rest : CodePoints) :
    ∃ put : List (ℕ × Bool) → List (ℕ × Bool),
      (∀ found, (put found).map Prod.fst = point :: found.map Prod.fst) ∧
      readString (escapePoint point ++ rest) =
        (readString rest).map fun found => (put found.1, found.2) := by
  unfold escapePoint
  cases hshort : shortEscape point with
  | some letter =>
    obtain ⟨hne, -, hvalue⟩ := unescape_shortEscape hshort
    refine ⟨fun found => (point, false) :: found, fun _ => rfl, ?_⟩
    rw [List.cons_append, List.cons_append, List.nil_append, readString_letter hne, hvalue]
    rfl
  | none =>
    obtain ⟨hquote, hslash, -⟩ := ne_of_shortEscape_none hshort
    by_cases hcontrol : point < 32
    · have hput : ∀ found, consEscaped point found = (point, true) :: found := by
        intro found
        unfold consEscaped
        split
        · rw [if_neg (by omega)]
        · rfl
      refine ⟨fun found => (point, true) :: found, fun _ => rfl, ?_⟩
      rw [if_pos hcontrol]
      change readString (92 :: 117 :: 48 :: 48 :: hexDigit (point / 16) ::
        hexDigit (point % 16) :: rest) = _
      rw [readString, hexNumber_control point hcontrol]
      cases readString rest with
      | none => rfl
      | some found => exact congrArg (fun text => some (text, found.2)) (hput found.1)
    · refine ⟨fun found => (point, false) :: found, fun _ => rfl, ?_⟩
      rw [if_neg hcontrol]
      exact readString_plain hquote hslash (Nat.le_of_not_lt hcontrol) rest

theorem readText_quoted (text rest : CodePoints) :
    readText (quoted text ++ rest) = some (text, rest) := by
  have hbody : ∃ found : List (ℕ × Bool), found.map Prod.fst = text ∧
      readString (text.flatMap escapePoint ++ 34 :: rest) = some (found, rest) := by
    induction text with
    | nil => exact ⟨[], rfl, by rw [List.flatMap_nil, List.nil_append, readString]⟩
    | cons point text ih =>
      obtain ⟨found, htext, hread⟩ := ih
      obtain ⟨put, hput, hpoint⟩ :=
        readString_escapePoint point (text.flatMap escapePoint ++ 34 :: rest)
      refine ⟨put found, by rw [hput, htext], ?_⟩
      rw [List.flatMap_cons, List.append_assoc, hpoint, hread]
      rfl
  obtain ⟨found, htext, hread⟩ := hbody
  unfold quoted readText
  rw [List.cons_append, List.append_assoc, List.cons_append, List.nil_append]
  change (readString (text.flatMap escapePoint ++ 34 :: rest)).map
    (fun found => (found.1.map Prod.fst, found.2)) = some (text, rest)
  rw [hread, Option.map_some, htext]

/-! ## Objects that were written -/

theorem skipBlanks_cons (hblank : ¬(point = 32 ∨ point = 9 ∨ point = 10 ∨ point = 13))
    (rest : CodePoints) : skipBlanks (point :: rest) = point :: rest := by
  rw [skipBlanks, List.dropWhile_cons, decide_eq_false hblank, if_neg Bool.false_ne_true]

theorem skipBlanks_quoted (text rest : CodePoints) :
    skipBlanks (quoted text ++ rest) = quoted text ++ rest :=
  skipBlanks_cons (by decide) _

theorem readMember_memberText (entry : CodePoints × CodePoints)
    (hblank : ¬(point = 32 ∨ point = 9 ∨ point = 10 ∨ point = 13)) (rest : CodePoints) :
    readMember (memberText entry ++ point :: rest) = some (entry, point :: rest) := by
  have hmember : memberText entry ++ point :: rest =
      quoted entry.1 ++ 58 :: 32 :: (quoted entry.2 ++ point :: rest) := by
    rw [memberText, List.append_assoc, List.cons_append, List.cons_append]
  have hspace : skipBlanks (32 :: (quoted entry.2 ++ point :: rest)) =
      quoted entry.2 ++ point :: rest := skipBlanks_quoted entry.2 (point :: rest)
  unfold readMember
  rw [hmember, readText_quoted, Option.bind_eq_bind, Option.bind_some, skipBlanks_cons (by decide)]
  change (readText (skipBlanks (32 :: (quoted entry.2 ++ point :: rest)))).bind
    (fun value => some ((entry.1, value.1), skipBlanks value.2)) = _
  rw [hspace, readText_quoted, Option.bind_some, skipBlanks_cons hblank]

theorem readMembers_restText (entry : CodePoints × CodePoints)
    (rest : Dict CodePoints CodePoints) (tail : CodePoints) {fuel : ℕ} (hfuel : rest.length < fuel)
    (entries : Dict CodePoints CodePoints) :
    readMembers fuel entries (memberText entry ++ (restText rest ++ 125 :: tail)) =
      some (Dict.update entries (entry :: rest), tail) := by
  induction rest generalizing entry entries fuel with
  | nil =>
    obtain ⟨fuel, rfl⟩ := Nat.exists_eq_succ_of_ne_zero (Nat.ne_of_gt hfuel)
    rw [readMembers, restText, List.nil_append, readMember_memberText entry (by decide)]
    rfl
  | cons next rest ih =>
    obtain ⟨fuel, rfl⟩ := Nat.exists_eq_succ_of_ne_zero
      (Nat.ne_of_gt (Nat.lt_of_le_of_lt (Nat.zero_le _) hfuel))
    have hnext : restText (next :: rest) ++ 125 :: tail =
        44 :: 32 :: (memberText next ++ (restText rest ++ 125 :: tail)) := by
      rw [restText, List.cons_append, List.cons_append, List.append_assoc]
    have hspace : skipBlanks (32 :: (memberText next ++ (restText rest ++ 125 :: tail))) =
        memberText next ++ (restText rest ++ 125 :: tail) := by
      rw [memberText, List.append_assoc]
      exact skipBlanks_quoted next.1 _
    rw [readMembers, hnext, readMember_memberText entry (by decide), Option.bind_eq_bind,
      Option.bind_some]
    change readMembers fuel (Dict.setItem entries entry.1 entry.2)
      (skipBlanks (32 :: (memberText next ++ (restText rest ++ 125 :: tail)))) = _
    rw [hspace]
    exact ih next (Nat.lt_of_succ_lt_succ hfuel) (Dict.setItem entries entry.1 entry.2)

theorem length_le_restText (rest : Dict CodePoints CodePoints) :
    rest.length ≤ (restText rest).length := by
  induction rest with
  | nil => exact Nat.le_refl _
  | cons entry rest ih =>
    rw [restText, List.length_cons, List.length_cons, List.length_cons, List.length_append]
    omega

theorem loads_dumps {entries : Dict CodePoints CodePoints}
    (hnodup : (Dict.keyList entries).Nodup) : loads (dumps entries ++ [10]) = some entries := by
  cases entries with
  | nil => rfl
  | cons entry rest =>
    have htext : dumps (entry :: rest) ++ [10] =
        123 :: (memberText entry ++ (restText rest ++ 125 :: [10])) := by
      simp only [dumps, List.cons_append, List.append_assoc, List.nil_append]
    have hfuel : rest.length <
        (123 :: (memberText entry ++ (restText rest ++ 125 :: [10]))).length := by
      have hle := length_le_restText rest
      rw [List.length_cons, List.length_append, List.length_append]
      omega
    rw [loads, htext, skipBlanks_cons (by decide)]
    change ((readMembers _ [] (memberText entry ++ (restText rest ++ 125 :: [10]))).bind
      fun found => if skipBlanks found.2 = [] then some found.1 else none) = _
    rw [readMembers_restText entry rest [10] hfuel, Option.bind_some, Dict.update_of_nodup _ hnodup]
    rfl

/-! ## Line breaks -/

theorem newline_not_mem_escapePoint (point : ℕ) : 10 ∉ escapePoint point := by
  unfold escapePoint
  cases hshort : shortEscape point with
  | some letter =>
    obtain ⟨-, hletter, -⟩ := unescape_shortEscape hshort
    simpa using Ne.symm hletter
  | none =>
    obtain ⟨-, -, hpoint⟩ := ne_of_shortEscape_none hshort
    dsimp only
    split
    · have hdigit : ∀ value, hexDigit value ≠ 10 := by
        intro value
        unfold hexDigit
        split <;> omega
      simpa using ⟨Ne.symm (hdigit _), Ne.symm (hdigit _)⟩
    · simpa using Ne.symm hpoint

theorem newline_not_mem_quoted (text : CodePoints) : 10 ∉ quoted text := by
  intro hmem
  rcases List.mem_cons.mp hmem with hquote | hmem
  · cases hquote
  rcases List.mem_append.mp hmem with hmem | hquote
  · obtain ⟨point, -, hpoint⟩ := List.mem_flatMap.mp hmem
    exact newline_not_mem_escapePoint point hpoint
  · cases List.mem_singleton.mp hquote

theorem newline_not_mem_memberText (entry : CodePoints × CodePoints) : 10 ∉ memberText entry := by
  intro hmem
  rcases List.mem_append.mp hmem with hmem | hmem
  · exact newline_not_mem_quoted _ hmem
  rcases List.mem_cons.mp hmem with hcolon | hmem
  · cases hcolon
  rcases List.mem_cons.mp hmem with hspace | hmem
  · cases hspace
  · exact newline_not_mem_quoted _ hmem

theorem newline_not_mem_restText (rest : Dict CodePoints CodePoints) : 10 ∉ restText rest := by
  induction rest with
  | nil => exact List.not_mem_nil
  | cons entry rest ih =>
    intro hmem
    rw [restText] at hmem
    rcases List.mem_cons.mp hmem with hcomma | hmem
    · cases hcomma
    rcases List.mem_cons.mp hmem with hspace | hmem
    · cases hspace
    rcases List.mem_append.mp hmem with hmem | hmem
    · exact newline_not_mem_memberText entry hmem
    · exact ih hmem

theorem newline_not_mem_dumps (entries : Dict CodePoints CodePoints) : 10 ∉ dumps entries := by
  cases entries with
  | nil => decide
  | cons entry rest =>
    intro hmem
    rcases List.mem_cons.mp hmem with hbrace | hmem
    · cases hbrace
    rcases List.mem_append.mp hmem with hmem | hmem
    · exact newline_not_mem_memberText entry hmem
    rcases List.mem_append.mp hmem with hmem | hbrace
    · exact newline_not_mem_restText rest hmem
    · cases List.mem_singleton.mp hbrace

/-! ## Sizes -/

/-- The bytes that a code point takes in a line. -/
def escapedSize (point : ℕ) : ℕ :=
  utf8Size (escapePoint point)

/-- The bytes that a text takes in a line. -/
def textSize (text : CodePoints) : ℕ :=
  (text.map escapedSize).sum

theorem utf8Size_quoted (text : CodePoints) : utf8Size (quoted text) = textSize text + 2 := by
  have hbody : utf8Size (text.flatMap escapePoint) = textSize text := by
    induction text with
    | nil => rfl
    | cons point text ih =>
      rw [List.flatMap_cons, utf8Size_append, ih]
      rfl
  have hquote : pointSize 34 = 1 := rfl
  rw [quoted, utf8Size_cons, utf8Size_append, hbody, hquote, utf8Size_cons, utf8Size_nil, hquote]
  omega

/-! ## Characters outside ASCII -/

theorem escapePoint_high (hhigh : 128 ≤ point) : escapePoint point = [point] := by
  rw [escapePoint, shortEscape_high (by omega)]
  exact if_neg (by omega)

theorem escapePoint_low : ∀ point < 128, ∀ found ∈ escapePoint point, found < 128 := by
  decide

section Holds

variable {holds : ℕ → Prop} (hascii : ∀ point < 128, holds point)
include hascii

theorem forall_mem_quoted_iff (text : CodePoints) :
    (∀ point ∈ quoted text, holds point) ↔ ∀ point ∈ text, holds point := by
  have hescape : ∀ point, (∀ found ∈ escapePoint point, holds found) ↔ holds point := by
    intro point
    by_cases hlow : point < 128
    · exact iff_of_true (fun found hmem => hascii found (escapePoint_low point hlow found hmem))
        (hascii point hlow)
    · rw [escapePoint_high (Nat.le_of_not_lt hlow), List.forall_mem_singleton]
  unfold quoted
  rw [List.forall_mem_cons, List.forall_mem_append, List.forall_mem_singleton,
    List.forall_mem_flatMap]
  simp only [hescape, hascii 34 (by decide), true_and, and_true]

theorem forall_mem_memberText_iff (entry : CodePoints × CodePoints) :
    (∀ point ∈ memberText entry, holds point) ↔
      (∀ point ∈ entry.1, holds point) ∧ ∀ point ∈ entry.2, holds point := by
  unfold memberText
  rw [List.forall_mem_append, List.forall_mem_cons, List.forall_mem_cons,
    forall_mem_quoted_iff hascii, forall_mem_quoted_iff hascii,
    and_iff_right (hascii 58 (by decide)), and_iff_right (hascii 32 (by decide))]

theorem forall_mem_restText_iff (rest : Dict CodePoints CodePoints) :
    (∀ point ∈ restText rest, holds point) ↔
      ∀ entry ∈ rest, (∀ point ∈ entry.1, holds point) ∧ ∀ point ∈ entry.2, holds point := by
  induction rest with
  | nil =>
    exact iff_of_true (fun _ hmem => absurd hmem List.not_mem_nil)
      fun _ hmem => absurd hmem List.not_mem_nil
  | cons entry rest ih =>
    rw [restText, List.forall_mem_cons, List.forall_mem_cons, List.forall_mem_append,
      forall_mem_memberText_iff hascii, ih, List.forall_mem_cons,
      and_iff_right (hascii 44 (by decide)), and_iff_right (hascii 32 (by decide))]

theorem forall_mem_dumps_iff (entries : Dict CodePoints CodePoints) :
    (∀ point ∈ dumps entries, holds point) ↔
      ∀ entry ∈ entries, (∀ point ∈ entry.1, holds point) ∧ ∀ point ∈ entry.2, holds point := by
  cases entries with
  | nil =>
    refine iff_of_true (fun point hmem => hascii point ?_)
      fun _ hmem => absurd hmem List.not_mem_nil
    revert point
    decide
  | cons entry rest =>
    rw [dumps, List.forall_mem_cons, List.forall_mem_append, List.forall_mem_append,
      forall_mem_memberText_iff hascii, forall_mem_restText_iff hascii,
      List.forall_mem_singleton, List.forall_mem_cons, and_iff_right (hascii 123 (by decide)),
      and_iff_left (hascii 125 (by decide))]

end Holds

end SignPulse.Foundation.JsonLines
