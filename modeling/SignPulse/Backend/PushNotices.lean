import SignPulse.Backend.PushTexts

/-!
# Notices in HTML

`build_html_notification` puts lines together as long as they fit.  If one does not, a marker
comes last, and room is made for it at the last line breaks, which may be in the text of a field.
-/

namespace SignPulse.PushNotifications

open Foundation
open Markup (Place WellFormed read outside)

/-- `_html_escape`. -/
def htmlEscape (text : List Char) : List Char :=
  replaceChar '>' "&gt;".toList
    (replaceChar '<' "&lt;".toList (replaceChar '&' "&amp;".toList text))

def inTag (name text : List Char) : List Char :=
  '<' :: name ++ '>' :: text ++ '<' :: '/' :: name ++ ['>']

def titleLine (title : List Char) : List Char := inTag ['b'] (htmlEscape title)

def fieldLine (field : List Char × List Char) : List Char :=
  inTag ['b'] (htmlEscape field.1) ++ ": ".toList ++
    inTag "code".toList (htmlEscape (field.2.take 2000))

/-- The title and the fields that have a value. -/
def taggedLines (title : List Char) (fields : List (List Char × List Char)) : List (List Char) :=
  titleLine title :: (fields.filter fun field => field.2 ≠ []).map fieldLine

def footerLines (footer : List Char) : List (List Char) :=
  if footer ≠ [] then [htmlEscape (footer.take 2000)] else []

/-- `"\n".join(lines)`. -/
def joined (lines : List (List Char)) : List Char := ['\n'].intercalate lines

/-- The first loop: the text, and whether a line was left out. -/
def fitLines : List Char → List (List Char) → List Char × Bool
  | text, [] => (text, false)
  | text, line :: rest =>
    if text.length + line.length + 1 > tgMsgLimit then (text, true)
    else fitLines (if text = [] then line else text ++ '\n' :: line) rest

def marker : List Char := "…（内容过长已截断，详情见面板日志）".toList

/-- `text.rpartition("\n")[0]`. -/
def beforeLastBreak (text : List Char) : List Char :=
  (text.reverse.dropWhile (· ≠ '\n')).tail.reverse

theorem length_beforeLastBreak_lt {text : List Char} (hne : text ≠ []) :
    (beforeLastBreak text).length < text.length := by
  have hle := (List.dropWhile_sublist (· ≠ '\n') (l := text.reverse)).length_le
  have hpos := List.length_pos_of_ne_nil hne
  simp only [List.length_reverse, beforeLastBreak, List.length_tail] at *
  omega

/-- The second loop. -/
def makeRoom (text : List Char) : List Char :=
  if _h : text ≠ [] ∧ text.length + marker.length + 1 > tgMsgLimit then
    if '\n' ∈ text then makeRoom (beforeLastBreak text) else []
  else text
termination_by text.length
decreasing_by exact length_beforeLastBreak_lt _h.1

/-- `build_html_notification`. -/
def buildHtmlNotification (title : List Char) (fields : List (List Char × List Char))
    (footer : List Char) : List Char :=
  let (text, truncated) := fitLines [] (taggedLines title fields ++ footerLines footer)
  if truncated then
    let kept := makeRoom text
    if kept ≠ [] then kept ++ '\n' :: marker else marker
  else text

/-! ## The lines that fit -/

/-- What the loop takes: the budget of the first line counts a line break before it. -/
def Fits (lines : List (List Char)) : Prop :=
  (lines.headD []).length + 1 ≤ tgMsgLimit ∧ (joined lines).length ≤ tgMsgLimit

section Lines

variable {lines shown front back before after : List (List Char)}
  {line text part rest kept tail : List Char}

theorem joined_cons (hne : lines ≠ []) (line : List Char) :
    joined (line :: lines) = line ++ '\n' :: joined lines := by
  simp [joined, List.intercalate_cons_of_ne_nil hne]

theorem joined_append (hfront : front ≠ []) (hback : back ≠ []) :
    joined (front ++ back) = joined front ++ '\n' :: joined back := by
  induction front with
  | nil => exact absurd rfl hfront
  | cons line front ih =>
    rw [List.cons_append, joined_cons (List.append_ne_nil_of_right_ne_nil _ hback)]
    cases front with
    | nil => simp [joined]
    | cons second front =>
      rw [ih (List.cons_ne_nil _ _), joined_cons (List.cons_ne_nil _ _)]
      simp

theorem joined_concat (hne : lines ≠ []) (line : List Char) :
    joined (lines ++ [line]) = joined lines ++ '\n' :: line := by
  simpa [joined] using joined_append hne (List.cons_ne_nil line [])

theorem Fits.of_prefix (hfits : Fits lines) (hfront : front <+: lines) : Fits front := by
  obtain ⟨back, rfl⟩ := hfront
  by_cases hfront : front = []
  · subst hfront
    simp [Fits, joined, tgMsgLimit]
  by_cases hback : back = []
  · simpa [hback] using hfits
  · obtain ⟨line, others, rfl⟩ := List.exists_cons_of_ne_nil hfront
    rw [Fits, joined_append hfront hback, List.length_append] at hfits
    exact ⟨hfits.1, by omega⟩

theorem fitLines_joined (hne : shown ≠ []) (htext : joined shown ≠ []) (hfits : Fits shown)
    (lines : List (List Char)) : ∃ front back, lines = front ++ back ∧
      fitLines (joined shown) lines = (joined (shown ++ front), decide (back ≠ [])) ∧
        Fits (shown ++ front) ∧ ∀ line ∈ back.head?, ¬ Fits (shown ++ front ++ [line]) := by
  induction lines generalizing shown with
  | nil => exact ⟨[], [], rfl, by simp [fitLines], by simpa using hfits, by simp⟩
  | cons line lines ih =>
    have hlength := congrArg List.length (joined_concat hne line)
    have hhead : (shown ++ [line]).headD [] = shown.headD [] := by
      obtain ⟨first, others, rfl⟩ := List.exists_cons_of_ne_nil hne
      rfl
    simp only [List.length_append, List.length_cons] at hlength
    by_cases hlong : (joined shown).length + line.length + 1 > tgMsgLimit
    · refine ⟨[], line :: lines, rfl, by simp [fitLines, hlong], by simpa using hfits, ?_⟩
      simp only [List.head?_cons, Option.mem_some_iff, forall_eq', List.append_nil]
      intro hmore
      have hroom := hmore.2
      omega
    · obtain ⟨front, back, rfl, hrun, hfront, hback⟩ := ih
        (show shown ++ [line] ≠ [] by simp) (by simp [joined_concat hne]) ⟨by rw [hhead]; exact hfits.1, by omega⟩
      refine ⟨line :: front, back, rfl, ?_, by simpa using hfront, by simpa using hback⟩
      rw [fitLines, if_neg hlong, if_neg htext, ← joined_concat hne, hrun]
      simp

theorem fitLines_spec (hline : line ≠ []) (lines : List (List Char)) : ∃ front back,
    line :: lines = front ++ back ∧
      fitLines [] (line :: lines) = (joined front, decide (back ≠ [])) ∧
        Fits front ∧ ∀ line ∈ back.head?, ¬ Fits (front ++ [line]) := by
  by_cases hlong : line.length + 1 > tgMsgLimit
  · refine ⟨[], line :: lines, rfl, by simp [fitLines, hlong, joined],
      by simp [Fits, joined, tgMsgLimit], ?_⟩
    simp only [List.head?_cons, Option.mem_some_iff, forall_eq', List.nil_append]
    exact fun hfits => absurd hfits.1 (by simpa using hlong)
  · have hfits : Fits [line] := by
      simp only [Fits, List.headD_cons, joined, List.intercalate_singleton]
      omega
    obtain ⟨front, back, rfl, hrun, hfront, hback⟩ := fitLines_joined (List.cons_ne_nil line [])
      (by simpa [joined] using hline) hfits lines
    refine ⟨line :: front, back, rfl, ?_, hfront, hback⟩
    rw [fitLines, List.length_nil, Nat.zero_add, if_neg hlong, if_pos rfl]
    simpa [joined] using hrun

theorem prefix_of_fits (hfront : front <+: shown ++ back)
    (hback : ∀ line ∈ back.head?, ¬ Fits (shown ++ [line])) (hfits : Fits front) :
    front <+: shown := by
  rcases Nat.le_total front.length shown.length with hle | hle
  · exact List.prefix_of_prefix_length_le hfront (List.prefix_append ..) hle
  · obtain ⟨more, rfl⟩ := List.prefix_of_prefix_length_le (List.prefix_append ..) hfront hle
    cases more with
    | nil => simp
    | cons line more =>
      obtain ⟨others, rfl⟩ := (List.prefix_append_right_inj _).1 hfront
      exact absurd (hfits.of_prefix ⟨more, by simp⟩) (hback line rfl)

/-! ## Line breaks -/

def segment (text : List Char) : List Char := text.takeWhile (· ≠ '\n')

theorem segment_append_break (text rest : List Char) :
    segment (text ++ '\n' :: rest) = segment text := by
  induction text with
  | nil => rfl
  | cons c text ih =>
    simp only [segment, List.cons_append, List.takeWhile_cons] at ih ⊢
    rw [ih]

theorem exists_last_break (hbreak : '\n' ∈ text) :
    ∃ front last, text = front ++ '\n' :: last ∧ '\n' ∉ last := by
  obtain ⟨last, front, hsplit, hlast⟩ := List.eq_append_cons_of_mem (List.mem_reverse.2 hbreak)
  refine ⟨front.reverse, last.reverse, ?_, by simpa using hlast⟩
  simpa using congrArg List.reverse hsplit

theorem segment_of_not_mem (hnone : '\n' ∉ text) : segment text = text :=
  List.takeWhile_eq_self_iff.2 fun c hc => by
    have hne : c ≠ '\n' := fun heq => hnone (heq ▸ hc)
    simpa using hne

theorem beforeLastBreak_append (hnone : '\n' ∉ rest) :
    beforeLastBreak (text ++ '\n' :: rest) = text := by
  have hdrop : ∀ c ∈ rest.reverse, decide (c ≠ '\n') = true := fun c hc => by
    have hne : c ≠ '\n' := fun heq => hnone (heq ▸ List.mem_reverse.1 hc)
    simpa using hne
  rw [beforeLastBreak, List.reverse_append, List.reverse_cons, List.append_assoc,
    List.dropWhile_append_of_pos hdrop]
  simp

/-- The last line break with room for the marker. -/
def LastBreak (kept tail : List Char) : Prop :=
  kept.length + marker.length + 1 ≤ tgMsgLimit ∧
    tgMsgLimit < kept.length + (segment tail).length + marker.length + 2

theorem makeRoom_of_room (hroom : text.length + marker.length + 1 ≤ tgMsgLimit) :
    makeRoom text = text := by
  rw [makeRoom, dif_neg fun hboth => Nat.not_lt.2 hroom hboth.2]

theorem makeRoom_of_long (hlong : tgMsgLimit < text.length + marker.length + 1)
    (hbreak : '\n' ∈ text) : makeRoom text = makeRoom (beforeLastBreak text) := by
  rw [makeRoom, dif_pos ⟨List.ne_nil_of_mem hbreak, hlong⟩, if_pos hbreak]

theorem makeRoom_cases (text : List Char) :
    makeRoom text = text ∧ text.length + marker.length + 1 ≤ tgMsgLimit ∨ makeRoom text = [] ∨
      ∃ tail, text = makeRoom text ++ '\n' :: tail ∧ LastBreak (makeRoom text) tail := by
  by_cases hroom : text.length + marker.length + 1 ≤ tgMsgLimit
  · exact .inl ⟨makeRoom_of_room hroom, hroom⟩
  have hlong := Nat.not_le.1 hroom
  by_cases hbreak : '\n' ∈ text
  · rw [makeRoom_of_long hlong hbreak]
    obtain ⟨front, last, rfl, hlast⟩ := exists_last_break hbreak
    rw [beforeLastBreak_append hlast]
    refine .inr ?_
    rcases makeRoom_cases front with ⟨hsame, hfits⟩ | hnil | ⟨tail, hsplit, hbreak⟩
    · rw [hsame]
      refine .inr ⟨last, rfl, hfits, ?_⟩
      rw [segment_of_not_mem hlast]
      simp only [List.length_append, List.length_cons] at hlong
      omega
    · exact .inl hnil
    · refine .inr ⟨tail ++ '\n' :: last, ?_, ?_⟩
      · rw [← List.cons_append, ← List.append_assoc, ← hsplit]
      · rwa [LastBreak, segment_append_break]
  · refine .inr (.inl ?_)
    rw [makeRoom]
    grind
termination_by text.length

theorem makeRoom_of_lastBreak {kept tail : List Char} (hbreak : LastBreak kept tail) :
    makeRoom (kept ++ '\n' :: tail) = kept := by
  have hlong : tgMsgLimit < (kept ++ '\n' :: tail).length + marker.length + 1 := by
    have hsub := (List.takeWhile_sublist (· ≠ '\n') (l := tail)).length_le
    have hlast := hbreak.2
    rw [segment] at hlast
    simp only [List.length_append, List.length_cons]
    omega
  rw [makeRoom_of_long hlong (by simp)]
  by_cases hmore : '\n' ∈ tail
  · obtain ⟨front, last, rfl, hlast⟩ := exists_last_break hmore
    rw [LastBreak, segment_append_break] at hbreak
    rw [← List.cons_append, ← List.append_assoc, beforeLastBreak_append hlast]
    exact makeRoom_of_lastBreak hbreak
  · rw [beforeLastBreak_append hmore, makeRoom_of_room hbreak.1]
termination_by tail.length
decreasing_by
  subst_vars
  simp

theorem append_break (hsplit : text ++ line = part ++ '\n' :: rest) :
    (∃ more, text = part ++ '\n' :: more ∧ rest = more ++ line) ∨
      ∃ more, part = text ++ more ∧ line = more ++ '\n' :: rest := by
  rcases List.append_eq_append_iff.1 hsplit with ⟨more, rfl, hmore⟩ | ⟨more, rfl, hmore⟩
  · exact .inr ⟨more, rfl, hmore⟩
  · cases more with
    | nil => exact .inr ⟨[], by simp, by simpa using hmore.symm⟩
    | cons c more =>
      obtain ⟨rfl, hrest⟩ := List.cons.inj hmore
      exact .inl ⟨more, rfl, hrest⟩

theorem break_cases (hsplit : joined lines = kept ++ '\n' :: tail) :
    (∃ front back, lines = front ++ back ∧ front ≠ [] ∧ kept = joined front) ∨
      ∃ before line after part rest, lines = before ++ line :: after ∧
        line = part ++ '\n' :: rest ∧ kept = joined (before ++ [part]) ∧
          segment tail = segment rest := by
  induction lines generalizing kept with
  | nil => simp [joined] at hsplit
  | cons line lines ih =>
    by_cases hlines : lines = []
    · subst hlines
      exact .inr ⟨[], line, [], kept, tail, rfl, by simpa [joined] using hsplit, by simp [joined],
        rfl⟩
    rw [joined_cons hlines] at hsplit
    rcases append_break hsplit with ⟨more, rfl, rfl⟩ | ⟨more, rfl, hmore⟩
    · exact .inr ⟨[], _, lines, kept, more, rfl, rfl, by simp [joined], segment_append_break more _⟩
    · cases more with
      | nil => exact .inl ⟨[line], lines, rfl, by simp, by simp [joined]⟩
      | cons c more =>
        obtain ⟨rfl, hrest⟩ := List.cons.inj hmore
        rcases ih hrest with ⟨front, back, rfl, hfront, rfl⟩ |
          ⟨before, next, after, part, rest, rfl, hnext, rfl, hsegment⟩
        · exact .inl ⟨line :: front, back, rfl, by simp, (joined_cons hfront line).symm⟩
        · exact .inr ⟨line :: before, next, after, part, rest, rfl, hnext,
            (joined_cons (by simp) line).symm, hsegment⟩

theorem joined_break (before after : List (List Char)) (part rest : List Char) :
    ∃ tail, joined (before ++ (part ++ '\n' :: rest) :: after) =
      joined (before ++ [part]) ++ '\n' :: tail ∧ segment tail = segment rest := by
  induction before with
  | nil =>
    cases after with
    | nil => exact ⟨rest, by simp [joined], rfl⟩
    | cons next after =>
      refine ⟨rest ++ '\n' :: joined (next :: after), ?_, segment_append_break _ _⟩
      rw [List.nil_append, joined_cons (List.cons_ne_nil _ _)]
      simp [joined]
  | cons line before ih =>
    obtain ⟨tail, htail, hsegment⟩ := ih
    refine ⟨tail, ?_, hsegment⟩
    rw [List.cons_append, List.cons_append, joined_cons (by simp), joined_cons (by simp), htail]
    simp

end Lines

/-! ## What is read -/

section Reading

variable {text body part rest : List Char} {stack : List (List Char)}

/-- A character of an escaped text. -/
def escapeChar (c : Char) : List Char :=
  if c = '&' then "&amp;".toList else if c = '<' then "&lt;".toList
  else if c = '>' then "&gt;".toList else [c]

theorem htmlEscape_cons (c : Char) (text : List Char) :
    htmlEscape (c :: text) = escapeChar c ++ htmlEscape text := by
  simp only [htmlEscape, replaceChar, List.flatMap_cons, List.flatMap_append]
  congr 1
  by_cases hand : c = '&'
  · subst hand
    rfl
  by_cases hopen : c = '<'
  · subst hopen
    rfl
  by_cases hclose : c = '>'
  · subst hclose
    rfl
  · simp [escapeChar, hand, hopen, hclose]

theorem read_htmlEscape (stack : List (List Char)) (text : List Char) :
    read ⟨stack, .text⟩ (htmlEscape text) = some ⟨stack, .text⟩ := by
  induction text with
  | nil => rfl
  | cons c text ih =>
    have hchar : read ⟨stack, .text⟩ (escapeChar c) = some ⟨stack, .text⟩ := by
      unfold escapeChar
      split
      · rfl
      split
      · rfl
      split
      · rfl
      · exact Markup.read_plain (by grind) stack
    rw [htmlEscape_cons, Markup.read_append, hchar]
    exact ih

theorem escapeChar_break {c : Char} (hsplit : escapeChar c = part ++ '\n' :: rest) : part = [] := by
  have hmem : '\n' ∈ escapeChar c := by simp [hsplit]
  by_cases hc : c = '\n'
  · subst hc
    cases part with
    | nil => rfl
    | cons d part => simpa [escapeChar] using congrArg List.length hsplit
  · unfold escapeChar at hmem
    split at hmem
    · exact absurd hmem (by decide)
    split at hmem
    · exact absurd hmem (by decide)
    split at hmem
    · exact absurd hmem (by decide)
    · exact absurd (List.mem_singleton.1 hmem).symm hc

theorem htmlEscape_break (hsplit : htmlEscape text = part ++ '\n' :: rest) :
    ∃ front, part = htmlEscape front := by
  induction text generalizing part with
  | nil => simp [htmlEscape, replaceChar] at hsplit
  | cons c text ih =>
    rw [htmlEscape_cons] at hsplit
    rcases append_break hsplit with ⟨more, hchar, -⟩ | ⟨more, rfl, hmore⟩
    · exact ⟨[], escapeChar_break hchar⟩
    · obtain ⟨front, rfl⟩ := ih hmore
      exact ⟨c :: front, (htmlEscape_cons c front).symm⟩

/-- Every line break of the text stands in an open element. -/
def BreaksOpen (text : List Char) : Prop :=
  ∀ part rest, text = part ++ '\n' :: rest →
    ∃ stack, stack ≠ [] ∧ read outside part = some ⟨stack, .text⟩

theorem breaksOpen_of_not_mem (hnone : '\n' ∉ text) : BreaksOpen text :=
  fun part rest hsplit => absurd (by simp [hsplit]) hnone

theorem BreaksOpen.append (htext : BreaksOpen text) (hformed : WellFormed text)
    (hbody : BreaksOpen body) : BreaksOpen (text ++ body) := by
  intro part rest hsplit
  rcases append_break hsplit with ⟨more, rfl, -⟩ | ⟨more, rfl, hmore⟩
  · exact htext part more rfl
  · obtain ⟨stack, hopen, hread⟩ := hbody more rest hmore
    refine ⟨stack, hopen, ?_⟩
    rw [Markup.read_append, hformed]
    exact hread

theorem inTag_eq (name text : List Char) : inTag name text =
    ('<' :: name ++ ['>']) ++ (text ++ ('<' :: '/' :: name ++ ['>'])) := by
  simp [inTag]

/-- The tags of a name. -/
structure Tagged (name : List Char) : Prop where
  opens : read outside ('<' :: name ++ ['>']) = some ⟨[name], .text⟩
  closes : read ⟨[name], .text⟩ ('<' :: '/' :: name ++ ['>']) = some outside
  unbroken : '\n' ∉ name

theorem Tagged.read_inTag {name : List Char} (htag : Tagged name) (text : List Char) :
    WellFormed (inTag name (htmlEscape text)) := by
  rw [WellFormed, inTag_eq, Markup.read_append, htag.opens, Option.bind_some, Markup.read_append,
    read_htmlEscape]
  exact htag.closes

theorem Tagged.breaksOpen {name : List Char} (htag : Tagged name) (text : List Char) :
    BreaksOpen (inTag name (htmlEscape text)) := by
  intro part rest hsplit
  have hopens : '\n' ∉ '<' :: name ++ ['>'] := by simp [htag.unbroken]
  have hcloses : '\n' ∉ '<' :: '/' :: name ++ ['>'] := by simp [htag.unbroken]
  rw [inTag_eq] at hsplit
  rcases append_break hsplit with ⟨more, htags, -⟩ | ⟨more, rfl, hmore⟩
  · exact absurd (by simp [htags]) hopens
  · refine ⟨[name], by simp, ?_⟩
    rw [Markup.read_append, htag.opens, Option.bind_some]
    rcases append_break hmore with ⟨last, hbody, -⟩ | ⟨last, -, hlast⟩
    · obtain ⟨front, rfl⟩ := htmlEscape_break hbody
      exact read_htmlEscape [name] front
    · exact absurd (by simp [hlast]) hcloses

theorem tagged_b : Tagged ['b'] := ⟨by decide, by decide, by decide⟩

theorem tagged_code : Tagged "code".toList := ⟨by decide, by decide, by decide⟩

end Reading

section Notices

variable {title footer line part rest : List Char} {fields : List (List Char × List Char)}
  {lines : List (List Char)}

theorem taggedLines_formed (hline : line ∈ taggedLines title fields) :
    WellFormed line ∧ BreaksOpen line ∧ line ≠ [] := by
  rcases List.mem_cons.1 hline with rfl | hmem
  · exact ⟨tagged_b.read_inTag title, tagged_b.breaksOpen title, List.cons_ne_nil _ _⟩
  · obtain ⟨field, -, rfl⟩ := List.mem_map.1 hmem
    have hcolon : WellFormed ": ".toList := by decide
    have hlabel := tagged_b.read_inTag field.1
    refine ⟨(hlabel.append hcolon).append (tagged_code.read_inTag _), ?_, List.cons_ne_nil _ _⟩
    refine BreaksOpen.append ?_ (hlabel.append hcolon) (tagged_code.breaksOpen _)
    exact (tagged_b.breaksOpen field.1).append hlabel (breaksOpen_of_not_mem (by decide))

theorem exists_of_mem_footerLines (hline : line ∈ footerLines footer) :
    ∃ text, line = htmlEscape text := by
  unfold footerLines at hline
  split at hline
  · exact ⟨_, List.mem_singleton.1 hline⟩
  · contradiction

theorem joined_formed (hlines : ∀ line ∈ lines, WellFormed line) : WellFormed (joined lines) := by
  have hbreak : WellFormed ['\n'] := by decide
  induction lines with
  | nil => rfl
  | cons line lines ih =>
    obtain ⟨hline, hrest⟩ := List.forall_mem_cons.1 hlines
    by_cases hne : lines = []
    · simpa [hne, joined] using hline
    · rw [joined_cons hne]
      exact hline.append (hbreak.append (ih hrest))

/-- A line break in the title or in a field is the last one with room for the marker, and a line
has been left out. -/
def CutInside (title : List Char) (fields : List (List Char × List Char))
    (footer : List Char) : Prop :=
  ¬ Fits (taggedLines title fields ++ footerLines footer) ∧ ∃ before part rest after,
      taggedLines title fields = before ++ (part ++ '\n' :: rest) :: after ∧
        Fits (before ++ [part ++ '\n' :: rest]) ∧ LastBreak (joined (before ++ [part])) rest

/-- A notice stays in the limit, is well formed, and has every line or the marker. -/
def GoodNotice (lines : List (List Char)) (notice : List Char) : Prop :=
  notice.length ≤ tgMsgLimit ∧ WellFormed notice ∧ (notice = joined lines ∨ marker <:+ notice)

/-- What the marker is put behind. -/
def marked (kept : List Char) : List Char :=
  if kept ≠ [] then kept ++ '\n' :: marker else marker

theorem buildHtmlNotification_eq (title : List Char) (fields : List (List Char × List Char))
    (footer : List Char) : ∃ shown hidden,
      taggedLines title fields ++ footerLines footer = shown ++ hidden ∧ Fits shown ∧
        (∀ line ∈ hidden.head?, ¬ Fits (shown ++ [line])) ∧
          buildHtmlNotification title fields footer =
            if hidden ≠ [] then marked (makeRoom (joined shown)) else joined shown := by
  obtain ⟨shown, hidden, hlines, hrun, hfits, hnext⟩ := fitLines_spec
    (taggedLines_formed (show titleLine title ∈ taggedLines title fields from
      List.mem_cons_self)).2.2
    ((fields.filter fun field => field.2 ≠ []).map fieldLine ++ footerLines footer)
  refine ⟨shown, hidden, hlines, hfits, hnext, ?_⟩
  have hall : taggedLines title fields ++ footerLines footer = titleLine title ::
    ((fields.filter fun field => field.2 ≠ []).map fieldLine ++ footerLines footer) := rfl
  rw [buildHtmlNotification, hall, hrun]
  simp [marked]

theorem marked_length (text : List Char) : (marked (makeRoom text)).length ≤ tgMsgLimit := by
  have hmarker : marker.length + 1 ≤ tgMsgLimit := by decide
  unfold marked
  split
  · rcases makeRoom_cases text with ⟨hsame, hroom⟩ | hnil | ⟨tail, -, hroom, -⟩
    · rw [hsame]
      simp only [List.length_append, List.length_cons]
      omega
    · contradiction
    · simp only [List.length_append, List.length_cons]
      omega
  · omega

theorem marker_suffix (kept : List Char) : marker <:+ marked kept := by
  unfold marked
  split
  · exact ⟨kept ++ ['\n'], by simp⟩
  · exact List.suffix_refl _

theorem read_break_marker (stack : List (List Char)) :
    read ⟨stack, .text⟩ ('\n' :: marker) = some ⟨stack, .text⟩ :=
  Markup.read_plain (fun c hc => by
    have hplain : ('\n' :: marker).all fun c => c ≠ '<' && c ≠ '>' && c ≠ '&' := by decide
    simpa [and_assoc] using List.all_eq_true.1 hplain c hc) stack

theorem marked_formed {kept : List Char} (hkept : WellFormed kept) : WellFormed (marked kept) := by
  unfold marked
  split
  · exact hkept.append (read_break_marker [])
  · decide

theorem not_formed_of_part {before : List (List Char)}
    (hbefore : ∀ line ∈ before, WellFormed line) (hline : BreaksOpen (part ++ '\n' :: rest)) :
    ¬ WellFormed (marked (joined (before ++ [part]))) := by
  obtain ⟨stack, hopen, hpart⟩ := hline part rest rfl
  have hread : read outside (joined (before ++ [part])) = some ⟨stack, .text⟩ := by
    by_cases hne : before = []
    · simpa [hne, joined] using hpart
    · have hbreak : WellFormed ['\n'] := by decide
      rw [joined_concat hne, List.append_cons, Markup.read_append,
        (joined_formed hbefore).append hbreak]
      exact hpart
  intro hformed
  unfold marked at hformed
  split at hformed
  · rw [WellFormed, Markup.read_append, hread, Option.bind_some, read_break_marker] at hformed
    exact hopen (congrArg Place.stack (Option.some.inj hformed))
  · next hnil =>
    rw [not_not.1 hnil] at hread
    exact hopen (congrArg Place.stack (Option.some.inj hread)).symm

theorem not_formed_of_cutInside (hcut : CutInside title fields footer) :
    ¬ WellFormed (buildHtmlNotification title fields footer) := by
  obtain ⟨hmore, before, part, rest, after, hlines, hfits, hlast⟩ := hcut
  obtain ⟨shown, hidden, hall, hshown, hnext, hbuild⟩ :=
    buildHtmlNotification_eq title fields footer
  have hhidden : hidden ≠ [] := by
    rintro rfl
    rw [hall, List.append_nil] at hmore
    exact hmore hshown
  have hprefix : before ++ [part ++ '\n' :: rest] <+: shown ++ hidden := by
    rw [← hall, hlines]
    exact ⟨after ++ footerLines footer, by simp⟩
  obtain ⟨others, rfl⟩ := prefix_of_fits hprefix hnext hfits
  obtain ⟨tail, htail, hsegment⟩ := joined_break before others part rest
  have hkept : LastBreak (joined (before ++ [part])) tail := by rwa [LastBreak, hsegment]
  rw [hbuild, if_pos hhidden, List.append_assoc, List.singleton_append, htail,
    makeRoom_of_lastBreak hkept]
  have hformed : ∀ line ∈ before ++ (part ++ '\n' :: rest) :: after,
      WellFormed line ∧ BreaksOpen line ∧ line ≠ [] := fun line hline =>
    taggedLines_formed (by rw [hlines]; exact hline)
  have hline := hformed _ (List.mem_append_right _ List.mem_cons_self)
  exact not_formed_of_part (fun line hline => (hformed line (List.mem_append_left _ hline)).1)
    hline.2.1

/-- Otherwise the break stands between two lines or in the footer. -/
theorem formed_of_not_cutInside (hcut : ¬ CutInside title fields footer) :
    WellFormed (buildHtmlNotification title fields footer) := by
  obtain ⟨shown, hidden, hall, hshown, hnext, hbuild⟩ :=
    buildHtmlNotification_eq title fields footer
  have hformed : ∀ line ∈ shown ++ hidden, WellFormed line := fun line hline => by
    rw [← hall, List.mem_append] at hline
    rcases hline with htagged | hfooter
    · exact (taggedLines_formed htagged).1
    · obtain ⟨text, rfl⟩ := exists_of_mem_footerLines hfooter
      exact read_htmlEscape [] text
  have hjoined : ∀ front back, shown = front ++ back → WellFormed (joined front) :=
    fun front back hsplit => joined_formed fun line hline => hformed line (by simp [hsplit, hline])
  rw [hbuild]
  split
  · next hhidden =>
    refine marked_formed ?_
    rcases makeRoom_cases (joined shown) with ⟨hsame, -⟩ | hnil | ⟨tail, hsplit, hlast⟩
    · rw [hsame]
      exact hjoined shown [] (by simp)
    · rw [hnil]
      rfl
    · rcases break_cases hsplit with ⟨front, back, hparts, -, hkept⟩ |
        ⟨before, line, after, part, rest, hparts, rfl, hkept, hsegment⟩
      · rw [hkept]
        exact hjoined front back hparts
      · rw [hkept, LastBreak, hsegment] at hlast
        rw [hkept]
        have hmore : ¬ Fits (taggedLines title fields ++ footerLines footer) := fun hfits => by
          obtain ⟨line, others, rfl⟩ := List.exists_cons_of_ne_nil hhidden
          rw [hall] at hfits
          exact hnext line rfl (hfits.of_prefix ⟨others, by simp⟩)
        have hfits : Fits (before ++ [part ++ '\n' :: rest]) :=
          hshown.of_prefix ⟨after, by simp [hparts]⟩
        have hfooter : part ++ '\n' :: rest ∈ footerLines footer := by
          rw [hparts, List.append_assoc, List.cons_append, List.append_eq_append_iff] at hall
          rcases hall with ⟨more, rfl, hrest⟩ | ⟨more, htagged, hrest⟩
          · simp [hrest]
          · cases more with
            | nil =>
              rw [← List.nil_append (footerLines footer), ← hrest]
              exact List.mem_cons_self
            | cons line more =>
              obtain ⟨rfl, -⟩ := List.cons.inj hrest
              exact absurd ⟨hmore, before, part, rest, more, htagged, hfits, hlast⟩ hcut
        obtain ⟨text, htext⟩ := exists_of_mem_footerLines hfooter
        obtain ⟨front, rfl⟩ := htmlEscape_break htext.symm
        refine joined_formed fun line hline => ?_
        rcases List.mem_append.1 hline with hbefore | hpart
        · exact hformed line (by simp [hparts, hbefore])
        · obtain rfl := List.mem_singleton.1 hpart
          exact read_htmlEscape [] front
  · exact hjoined shown [] (by simp)

/-- A notice is good exactly if no line break in the title or a field is where it is cut. -/
theorem buildHtmlNotification_good_iff (title : List Char)
    (fields : List (List Char × List Char)) (footer : List Char) :
    GoodNotice (taggedLines title fields ++ footerLines footer)
      (buildHtmlNotification title fields footer) ↔ ¬ CutInside title fields footer := by
  constructor
  · exact fun hgood hcut => not_formed_of_cutInside hcut hgood.2.1
  · intro hcut
    refine ⟨?_, formed_of_not_cutInside hcut, ?_⟩
    all_goals
      obtain ⟨shown, hidden, hall, hshown, -, hbuild⟩ :=
        buildHtmlNotification_eq title fields footer
      rw [hbuild]
      split
    · exact marked_length _
    · exact hshown.2
    · exact .inr (marker_suffix _)
    · next hnone => exact .inl (by rw [hall, not_not.1 hnone, List.append_nil])

end Notices

/-! ## A title with a line break -/

theorem htmlEscape_append (text rest : List Char) :
    htmlEscape (text ++ rest) = htmlEscape text ++ htmlEscape rest := by
  simp [htmlEscape, replaceChar]

theorem htmlEscape_replicate {c : Char} (hplain : escapeChar c = [c]) (n : ℕ) :
    htmlEscape (List.replicate n c) = List.replicate n c := by
  induction n with
  | zero => rfl
  | succ n ih => rw [List.replicate_succ, htmlEscape_cons, hplain, ih, List.singleton_append]

def brokenTitle (n m : ℕ) : List Char := List.replicate n 'x' ++ '\n' :: List.replicate m 'x'

theorem titleLine_brokenTitle (n m : ℕ) : titleLine (brokenTitle n m) =
    ("<b>".toList ++ List.replicate n 'x') ++ '\n' :: (List.replicate m 'x' ++ "</b>".toList) := by
  have hx := htmlEscape_replicate (c := 'x') rfl
  have hbreak : escapeChar '\n' = ['\n'] := rfl
  rw [titleLine, brokenTitle, htmlEscape_append, htmlEscape_cons, hbreak, hx, hx]
  simp [inTag]

theorem cutInside_brokenTitle {n m k : ℕ} (hfits : n + m + 9 ≤ 3900)
    (hmore : 3900 < n + m + 9 + k) (hfooter : k ≤ 2000) (hkept : n + 22 ≤ 3900)
    (hcut : 3900 < n + m + 27) : CutInside (brokenTitle n m) [] (List.replicate k 'y') := by
  have hlines : taggedLines (brokenTitle n m) [] = [titleLine (brokenTitle n m)] := rfl
  have hsegment : segment (List.replicate m 'x' ++ "</b>".toList) =
      List.replicate m 'x' ++ "</b>".toList :=
    segment_of_not_mem (by simp [List.mem_replicate])
  have hmarker : marker.length = 18 := rfl
  have hfoot : footerLines (List.replicate k 'y') = [List.replicate k 'y'] := by
    have hk : k ≠ 0 := by omega
    rw [footerLines, if_pos (by simpa using hk), List.take_of_length_le (by simpa using hfooter),
      htmlEscape_replicate rfl]
  refine ⟨fun hall => ?_, [], _, _, [],
    hlines.trans (congrArg (· :: []) (titleLine_brokenTitle n m)), ?_, ?_⟩
  · have hlength := hall.2
    rw [hlines, hfoot, titleLine_brokenTitle] at hlength
    simp [joined, tgMsgLimit] at hlength
    omega
  · simp [Fits, joined, tgMsgLimit]
    omega
  · rw [LastBreak, hsegment, hmarker]
    simp [joined, tgMsgLimit]
    omega

theorem title_cut : ¬ GoodNotice
    (taggedLines (brokenTitle 3000 880) [] ++ footerLines (List.replicate 20 'y'))
    (buildHtmlNotification (brokenTitle 3000 880) [] (List.replicate 20 'y')) := fun hgood =>
  not_formed_of_cutInside (cutInside_brokenTitle (by decide) (by decide) (by decide) (by decide)
    (by decide)) hgood.2.1

end SignPulse.PushNotifications
