import Mathlib.Data.List.TakeWhile
import SignPulse.Foundation.Markup
import SignPulse.Foundation.PyText

/-!
# Texts of push messages

`_safe_msg_truncate` of `push_notifications.py` cuts a message to what Telegram takes.  A message
in HTML is cut where its scanner of tags has seen every element closed.
-/

namespace SignPulse.PushNotifications

open Foundation
open Markup (Place WellFormed read outside)

/-- `_TG_MSG_LIMIT`. -/
def tgMsgLimit : ℕ := 3900

/-! ## The scanner -/

/-- The variables of the loop after `pos` characters, and the tag that has been begun.  The top
of the stack comes first. -/
structure Scan where
  inner : Option (List Char) := none
  stack : List (List Char) := []
  safePos : ℕ := 0
  pos : ℕ := 0

/-- `text.strip().split(" ")[0]`. -/
def firstWord (text : List Char) : List Char :=
  (trimChars isPySpace text).takeWhile (· ≠ ' ')

/-- A complete tag. -/
def Scan.finish (scan : Scan) (inner : List Char) : Scan :=
  let pos := scan.pos + 1
  if inner.head? = some '/' then
    if scan.stack.head? = some (firstWord inner.tail) then
      { inner := none, stack := scan.stack.tail, pos
        safePos := if scan.stack.tail = [] then pos else scan.safePos }
    else { scan with inner := none, pos }
  else if inner.getLast? = some '/' then { scan with inner := none, safePos := pos, pos }
  else { scan with inner := none, stack := firstWord inner :: scan.stack, pos }

def Scan.step (scan : Scan) (c : Char) : Scan :=
  match scan.inner with
  | none => { scan with inner := if c = '<' then some [] else none, pos := scan.pos + 1 }
  | some inner =>
    if c = '>' then scan.finish inner
    else { scan with inner := some (inner ++ [c]), pos := scan.pos + 1 }

theorem Scan.step_of_ne (scan : Scan) {c : Char} (hc : c ≠ '>') :
    (scan.step c).stack = scan.stack ∧ (scan.step c).pos = scan.pos + 1 ∧
      (scan.step c).safePos = scan.safePos ∧ ∀ inner, (scan.step c).inner = some inner ↔
        (scan.inner = none ∧ c = '<' ∧ inner = []) ∨
          ∃ found, scan.inner = some found ∧ inner = found ++ [c] := by
  unfold step
  grind

/-- `re.sub(r"<[^>]*$", "", text)`. -/
def stripOpenTag : List Char → List Char
  | [] => []
  | c :: rest => if c = '<' ∧ '>' ∉ rest then [] else c :: stripOpenTag rest

/-- `_safe_msg_truncate`. -/
def safeMsgTruncate (text : List Char) (parseMode : Option String) : List Char :=
  if text.length ≤ tgMsgLimit then text
  else if parseMode ≠ some "HTML" then text.take tgMsgLimit
  else
    let head := text.take tgMsgLimit
    let scan := head.foldl Scan.step {}
    if scan.stack = [] then head
    else if scan.safePos = 0 then stripOpenTag head
    else head.take scan.safePos

/-! ## The scanner on a well-formed text -/

theorem not_nameChar_of_space {c : Char} (hspace : isPySpace c = true) :
    (c.isAlphanum || decide (c = '-')) = false := by
  by_contra hname
  simp only [Bool.not_eq_false, Bool.or_eq_true, decide_eq_true_eq] at hname
  simp only [isPySpace, Bool.or_eq_true, Bool.and_eq_true, decide_eq_true_eq, beq_iff_eq] at hspace
  rcases hname with halnum | rfl
  · delta Char.isAlphanum Char.isAlpha Char.isUpper Char.isLower Char.isDigit at halnum
    simp only [Bool.or_eq_true, Bool.and_eq_true, decide_eq_true_eq, ge_iff_le, UInt32.le_iff_toNat_le] at halnum
    simp only [Char.toNat] at hspace
    grind
  · revert hspace
    decide

theorem firstWord_eq {inner : List Char} (hname : Markup.isName (Markup.nameOf inner) = true) :
    firstWord inner = Markup.nameOf inner := by
  simp only [Markup.isName, Bool.and_eq_true, Bool.not_eq_true', List.isEmpty_eq_false_iff,
    List.all_eq_true] at hname
  obtain ⟨hne, hchars⟩ := hname
  have hunspaced : ∀ c ∈ Markup.nameOf inner, isPySpace c = false := fun c hc => by
    by_contra hspace
    have hchar := hchars c hc
    rw [not_nameChar_of_space (by simpa using hspace)] at hchar
    contradiction
  have hrest : Markup.nameOf inner ++ inner.dropWhile (· ≠ ' ') = inner :=
    List.takeWhile_append_dropWhile
  obtain ⟨kept, hkept, htrim⟩ :=
    exists_trimChars_append (inner.dropWhile (· ≠ ' ')) hunspaced hne
  rw [hrest] at htrim
  have hword : ∀ c ∈ Markup.nameOf inner, decide (c ≠ ' ') = true := fun c hc =>
    List.mem_takeWhile_imp (p := (· ≠ ' ')) (l := inner) hc
  rw [firstWord, htrim, List.takeWhile_append_of_pos hword]
  cases kept with
  | nil => simp
  | cons c kept =>
    obtain ⟨others, hothers⟩ := hkept
    have hblank := head?_dropWhile (· ≠ ' ') inner c (by rw [← hothers]; rfl)
    simp only [decide_not, Bool.not_eq_false', decide_eq_true_eq] at hblank
    simp [hblank]

/-- What the scanner knows after a part of a well-formed text. -/
structure Tracks (text : List Char) (place : Place) (scan : Scan) : Prop where
  stack : scan.stack = place.stack
  inner : ∀ inner, scan.inner = some inner ↔ place.reading = .tag inner
  pos : scan.pos = text.length
  safePos_le : scan.safePos ≤ text.length
  safe : scan.safePos ≠ 0 → ∃ stack, read outside (text.take scan.safePos) = some ⟨stack, .text⟩ ∧
      (text.take scan.safePos).getLast? = some '>' ∧
        (stack ≠ [] → ['/', '>'] <:+ text.take scan.safePos)
  last : ∀ front back, text = front ++ back → WellFormed front → front.getLast? = some '>' →
    front.length ≤ scan.safePos
  no_self : ¬ ['/', '>'] <:+: text.drop scan.safePos

section Tracking

variable {text : List Char} {place after : Place} {scan next : Scan} {c : Char}

/-- The last safe position stays, unless a tag ends that leaves no element open or closes
itself. -/
theorem Tracks.extend (htracks : Tracks text place scan) (hstack : next.stack = after.stack)
    (hinner : ∀ inner, next.inner = some inner ↔ after.reading = .tag inner)
    (hpos : next.pos = scan.pos + 1) (hsafe : next.safePos = scan.safePos)
    (hend : c = '>' → ¬ WellFormed (text ++ [c]) ∧ text.getLast? ≠ some '/') :
    Tracks (text ++ [c]) after next := by
  have hle := htracks.safePos_le
  refine
    { stack := hstack
      inner := hinner
      pos := by rw [hpos, htracks.pos, List.length_append, List.length_singleton]
      safePos_le := by rw [hsafe, List.length_append]; omega
      safe := ?_
      last := fun front back hsplit hformed hlast => ?_
      no_self := fun hself => ?_ }
  · rw [hsafe, List.take_append_of_le_length hle]
    exact htracks.safe
  · rw [hsafe]
    rcases List.eq_nil_or_concat back with rfl | ⟨back, d, rfl⟩
    · rw [List.append_nil] at hsplit
      subst hsplit
      rw [List.getLast?_concat] at hlast
      exact absurd hformed (hend (Option.some.inj hlast)).1
    · rw [List.concat_eq_append, ← List.append_assoc] at hsplit
      exact htracks.last front back (List.append_inj' hsplit rfl).1 hformed hlast
  · rw [hsafe, List.drop_append_of_le_length hle, List.infix_concat_iff] at hself
    rcases hself with ⟨rest, hrest⟩ | hold
    · have hsplit : (rest ++ ['/']) ++ ['>'] = text.drop scan.safePos ++ [c] := by
        simpa using hrest
      obtain ⟨hdrop, hc⟩ := List.append_inj' hsplit rfl
      have hslash : text.getLast? = some '/' := by
        rw [← List.take_append_drop scan.safePos text, ← hdrop, ← List.append_assoc,
          List.getLast?_concat]
      exact (hend (List.cons.inj hc).1.symm).2 hslash
    · exact htracks.no_self hold

theorem Tracks.reset (htracks : Tracks text place scan)
    (hread : read outside (text ++ ['>']) = some after) (hreading : after.reading = .text)
    (hself : after.stack ≠ [] → text.getLast? = some '/') (hstack : next.stack = after.stack)
    (hinner : next.inner = none) (hpos : next.pos = scan.pos + 1)
    (hsafe : next.safePos = scan.pos + 1) : Tracks (text ++ ['>']) after next := by
  have hlength : next.safePos = (text ++ ['>']).length := by
    rw [hsafe, htracks.pos, List.length_append, List.length_singleton]
  refine
    { stack := hstack
      inner := by simp [hinner, hreading]
      pos := by rw [hpos, htracks.pos, List.length_append, List.length_singleton]
      safePos_le := hlength.le
      safe := fun _ => ?_
      last := fun front back hsplit _ _ => ?_
      no_self := by rw [hlength, List.drop_length]; simp }
  · rw [hlength, List.take_length]
    refine ⟨after.stack, by rw [hread, ← hreading], List.getLast?_concat, fun hopen => ?_⟩
    obtain ⟨rest, rfl⟩ := List.getLast?_eq_some_iff.1 (hself hopen)
    exact ⟨rest, by simp⟩
  · rw [hlength, hsplit, List.length_append]
    exact Nat.le_add_right _ _

/-- What a closing tag ends in is not a slash. -/
theorem getLast?_ne_of_isClosing {stack : List (List Char)} {inner : List Char}
    (hclosing : Markup.isClosing stack inner = true) : inner.getLast? ≠ some '/' := by
  intro hslash
  simp only [Markup.isClosing, Markup.isName, Bool.and_eq_true, List.all_eq_true,
    decide_eq_true_eq] at hclosing
  have hmem := List.mem_of_getLast? hslash
  rw [← List.takeWhile_append_dropWhile (p := (· ≠ ' ')) (l := inner), List.mem_append] at hmem
  rcases hmem with hname | hblank
  · exact absurd (hclosing.1.1.2 '/' hname) (by decide)
  · exact absurd (hclosing.1.2 '/' hblank) (by decide)

theorem Tracks.step (htracks : Tracks text place scan) (hread : read outside text = some place)
    (hstep : Markup.step place c = some after) : Tracks (text ++ [c]) after (scan.step c) := by
  have hnext : read outside (text ++ [c]) = some after := by
    rw [Markup.read_concat, hread]
    exact hstep
  by_cases hc : c = '>'
  · subst hc
    obtain ⟨inner, htag, hfinish, hreading⟩ := Markup.tag_of_step_gt hstep
    obtain ⟨before, htext, -, -⟩ := Markup.exists_tag hread htag
    have hinner : scan.inner = some inner := (htracks.inner inner).2 htag
    have hscan : scan.step '>' = scan.finish inner := by simp [Scan.step, hinner]
    have hlast : inner ≠ [] → text.getLast? = inner.getLast? := fun hne => by
      rw [htext, List.getLast?_append_of_ne_nil _ (List.cons_ne_nil _ _), List.getLast?_cons,
        List.getLast?_eq_some_getLast hne]
      rfl
    have hopen : after.stack ≠ [] → ¬ WellFormed (text ++ ['>']) := fun hne hformed => by
      rw [WellFormed, hnext] at hformed
      exact hne (congrArg Place.stack (Option.some.inj hformed))
    rw [hscan]
    unfold Markup.finishTag at hfinish
    unfold Scan.finish
    split at hfinish
    · next hslash =>
      obtain ⟨hclosing, hstack⟩ := Option.ite_none_right_eq_some.1 hfinish
      have hparts := hclosing
      simp only [Markup.isClosing, Bool.and_eq_true, decide_eq_true_eq] at hparts
      have htop : scan.stack.head? = some (firstWord inner.tail) := by
        rw [htracks.stack, firstWord_eq hparts.1.1, hparts.2]
      have htail : scan.stack.tail = after.stack := by
        rw [htracks.stack, Option.some.inj hstack]
      simp only [hslash, htop, if_true, htail]
      by_cases hempty : after.stack = []
      · refine htracks.reset hnext hreading (fun hne => absurd hempty hne) ?_ rfl rfl ?_
        · rfl
        · exact if_pos hempty
      · refine htracks.extend rfl (by simp [hreading]) rfl (if_neg hempty) fun _ => ⟨hopen hempty, ?_⟩
        obtain ⟨rest, rfl⟩ : ∃ rest, inner = '/' :: rest := by
          cases inner <;> simp_all
        have hne : rest ≠ [] := by
          rintro rfl
          simp [Markup.isName, Markup.nameOf] at hparts
        rw [hlast (List.cons_ne_nil _ _), List.getLast?_cons_of_ne_nil hne]
        exact getLast?_ne_of_isClosing hclosing
    · next hslash =>
      split at hfinish
      · next hself =>
        obtain ⟨-, hstack⟩ := Option.ite_none_right_eq_some.1 hfinish
        have hne : inner ≠ [] := by
          rintro rfl
          contradiction
        simp only [hslash, hself, if_true, if_false]
        exact htracks.reset hnext hreading (fun _ => (hlast hne).trans hself)
          (htracks.stack.trans (Option.some.inj hstack)) rfl rfl rfl
      · next hself =>
        obtain ⟨hname, hstack⟩ := Option.ite_none_right_eq_some.1 hfinish
        have hpushed := Option.some.inj hstack
        have hne : inner ≠ [] := by
          rintro rfl
          simp [Markup.isName, Markup.nameOf] at hname
        simp only [hslash, hself, if_false]
        refine htracks.extend ?_ (by simp [hreading]) rfl rfl fun _ => ⟨hopen ?_, ?_⟩
        · rw [← hpushed, firstWord_eq hname, htracks.stack]
        · rw [← hpushed]
          exact List.cons_ne_nil _ _
        · rw [hlast hne]
          exact hself
  · obtain ⟨hstack, hpos, hsafe, hinner⟩ := scan.step_of_ne hc
    refine htracks.extend ?_ (fun inner => ?_) hpos hsafe fun hend => absurd hend hc
    · rw [hstack, htracks.stack, Markup.stack_of_step hstep hc]
    · rw [Markup.tag_iff_of_step hstep hc, hinner]
      have hnone : c = '<' → scan.inner = none := by
        rintro rfl
        cases hscan : scan.inner with
        | none => rfl
        | some found => simp [Markup.step, (htracks.inner found).1 hscan] at hstep
      simp only [htracks.inner]
      grind

theorem tracks_foldl (hread : read outside text = some place) :
    Tracks text place (text.foldl Scan.step {}) := by
  induction text using List.reverseRecOn generalizing place with
  | nil =>
    cases hread
    refine ⟨rfl, by simp [outside], rfl, Nat.le_refl 0, fun hne => absurd rfl hne, ?_, by simp⟩
    intro front back hsplit _ hlast
    simp_all
  | append_singleton text c ih =>
    rw [Markup.read_concat] at hread
    obtain ⟨middle, hmiddle, hstep⟩ := Option.bind_eq_some_iff.1 hread
    rw [List.foldl_append]
    exact (ih hmiddle).step hmiddle hstep

/-! ## The cut -/

theorem stripOpenTag_append (hsame : stripOpenTag text = text) (rest : List Char) :
    stripOpenTag (text ++ rest) = text ++ stripOpenTag rest := by
  induction text with
  | nil => rfl
  | cons c text ih =>
    rw [stripOpenTag] at hsame
    split at hsame
    · contradiction
    · next hopen =>
      rw [List.cons_append, stripOpenTag, if_neg, ih (List.cons.inj hsame).2]
      · rfl
      · exact fun hboth => hopen ⟨hboth.1, fun hmem => hboth.2 (List.mem_append_left _ hmem)⟩

theorem stripOpenTag_concat_gt (text : List Char) :
    stripOpenTag (text ++ ['>']) = text ++ ['>'] := by
  induction text with
  | nil => rfl
  | cons c text ih => simp [stripOpenTag, ih]

theorem stripOpenTag_of_not_mem (hclosed : '>' ∉ text) (c : Char) (hopen : c = '<') :
    stripOpenTag (c :: text) = [] := if_pos ⟨hopen, hclosed⟩

theorem stripOpenTag_eq_self (hread : read outside text = some place)
    (hreading : ∀ inner, place.reading ≠ .tag inner) : stripOpenTag text = text := by
  induction text using List.reverseRecOn generalizing place with
  | nil => rfl
  | append_singleton text c ih =>
    by_cases hc : c = '>'
    · rw [hc]
      exact stripOpenTag_concat_gt text
    · rw [Markup.read_concat] at hread
      obtain ⟨middle, hmiddle, hstep⟩ := Option.bind_eq_some_iff.1 hread
      have hbefore : ∀ inner, middle.reading ≠ .tag inner := fun inner htag => by
        unfold Markup.step at hstep
        grind
      have hopen : c ≠ '<' := by
        rintro rfl
        unfold Markup.step at hstep
        grind
      rw [stripOpenTag_append (ih hmiddle hbefore), stripOpenTag, if_neg fun hboth => hopen hboth.1]
      rfl

theorem read_stripOpenTag (hread : read outside text = some place) :
    ∃ reading, read outside (stripOpenTag text) = some ⟨place.stack, reading⟩ := by
  cases hreading : place.reading with
  | tag inner =>
    obtain ⟨before, rfl, hclosed, hbefore⟩ := Markup.exists_tag hread hreading
    refine ⟨.text, ?_⟩
    rw [stripOpenTag_append (stripOpenTag_eq_self hbefore (by simp)),
      stripOpenTag_of_not_mem hclosed _ rfl, List.append_nil, hbefore]
  | text =>
    rw [stripOpenTag_eq_self hread (by simp [hreading])]
    exact ⟨place.reading, hread⟩
  | entity name =>
    rw [stripOpenTag_eq_self hread (by simp [hreading])]
    exact ⟨place.reading, hread⟩

theorem stripOpenTag_prefix (text : List Char) : stripOpenTag text <+: text := by
  induction text with
  | nil => exact List.prefix_refl _
  | cons c text ih =>
    rw [stripOpenTag]
    split
    · exact List.nil_prefix
    · exact (List.prefix_cons_inj c).2 ih

theorem safeMsgTruncate_prefix (text : List Char) (parseMode : Option String) :
    safeMsgTruncate text parseMode <+: text.take tgMsgLimit := by
  unfold safeMsgTruncate
  split
  · next hshort => rw [List.take_of_length_le hshort]
  · split
    · exact List.prefix_refl _
    · dsimp only
      split
      · exact List.prefix_refl _
      · split
        · exact stripOpenTag_prefix _
        · exact List.take_prefix _ _

/-- The cut at the limit falls outside of elements, tags and entities; or it leaves an element
open, before it there is a well-formed part that ends in a tag, and no tag after that part closes
itself. -/
def CutsWell (text : List Char) : Prop :=
  text.length ≤ tgMsgLimit ∨ WellFormed (text.take tgMsgLimit) ∨
    (∃ place, read outside (text.take tgMsgLimit) = some place ∧ place.stack ≠ []) ∧
      ∃ front back, text.take tgMsgLimit = front ++ back ∧ WellFormed front ∧
        front.getLast? = some '>' ∧ ¬ ['/', '>'] <:+: back

/-- The safe position is a good one if no element was open there. -/
theorem Tracks.wellFormed_take_iff (htracks : Tracks text place scan)
    (hsafe : scan.safePos ≠ 0) : WellFormed (text.take scan.safePos) ↔
      ∃ front back, text = front ++ back ∧ WellFormed front ∧ front.getLast? = some '>' ∧
        ¬ ['/', '>'] <:+: back := by
  obtain ⟨stack, hread, hlast, hself⟩ := htracks.safe hsafe
  constructor
  · intro hformed
    exact ⟨_, _, (List.take_append_drop _ _).symm, hformed, hlast, htracks.no_self⟩
  · rintro ⟨front, back, rfl, hformed, hfront, hnone⟩
    by_contra hbad
    have hopen : stack ≠ [] := by
      rintro rfl
      exact hbad hread
    have hle := htracks.last front back rfl hformed hfront
    obtain ⟨rest, hrest⟩ := hself hopen
    have htake : (front ++ back).take scan.safePos = front ++ back.take (scan.safePos - front.length) := by
      rw [List.take_append, List.take_of_length_le hle]
    rw [htake] at hrest hbad
    have hsub := List.take_prefix (scan.safePos - front.length) back
    rcases List.eq_nil_or_concat (back.take (scan.safePos - front.length)) with hnil | ⟨more, c, hmore⟩
    · rw [hnil, List.append_nil] at hbad
      exact hbad hformed
    · rw [List.concat_eq_append] at hmore
      rw [hmore] at hrest hsub
      have hsplit : (rest ++ ['/']) ++ ['>'] = (front ++ more) ++ [c] := by simpa using hrest
      obtain ⟨hslash, hend⟩ := List.append_inj' hsplit rfl
      obtain rfl := (List.cons.inj hend).1
      rcases List.eq_nil_or_concat more with rfl | ⟨more, d, rfl⟩
      · -- The part would end in the slash of the tag.
        rw [List.append_nil] at hslash
        rw [← hslash, List.getLast?_concat] at hfront
        contradiction
      · rw [List.concat_eq_append, ← List.append_assoc] at hslash
        obtain ⟨-, hd⟩ := List.append_inj' hslash rfl
        obtain rfl := (List.cons.inj hd).1
        exact hnone (List.IsInfix.trans ⟨more, [], by simp⟩ hsub.isInfix)

/-- A message in HTML stays well formed exactly if the cut does. -/
theorem safeMsgTruncate_wellFormed_iff (hformed : WellFormed text) :
    (safeMsgTruncate text (some "HTML") <+: text ∧
      (safeMsgTruncate text (some "HTML")).length ≤ tgMsgLimit ∧
        WellFormed (safeMsgTruncate text (some "HTML"))) ↔ CutsWell text := by
  have hstarts := safeMsgTruncate_prefix text (some "HTML")
  have hlength : (safeMsgTruncate text (some "HTML")).length ≤ tgMsgLimit :=
    hstarts.length_le.trans (List.length_take_le _ _)
  rw [and_iff_right (hstarts.trans (List.take_prefix _ _)), and_iff_right hlength]
  by_cases hshort : text.length ≤ tgMsgLimit
  · rw [safeMsgTruncate, if_pos hshort]
    exact iff_of_true hformed (.inl hshort)
  have hsplit := hformed
  rw [WellFormed, ← List.take_append_drop tgMsgLimit text] at hsplit
  obtain ⟨place, hread, -⟩ := Markup.exists_read_of_append hsplit
  have htracks := tracks_foldl hread
  have hwhole : WellFormed (text.take tgMsgLimit) → place.stack = [] := fun hhead =>
    congrArg Place.stack (Option.some.inj (hread.symm.trans hhead))
  rw [safeMsgTruncate, if_neg hshort, if_neg (not_not.2 rfl), CutsWell, or_iff_right hshort]
  dsimp only
  rw [htracks.stack]
  by_cases hclosed : place.stack = []
  · rw [if_pos hclosed]
    refine (or_iff_left fun hopen => ?_).symm
    obtain ⟨⟨other, hother, hne⟩, -⟩ := hopen
    exact hne (Option.some.inj (hother.symm.trans hread) ▸ hclosed)
  · rw [if_neg hclosed, or_iff_right fun hhead => hclosed (hwhole hhead),
      and_iff_right ⟨place, hread, hclosed⟩]
    by_cases hsafe : (List.foldl Scan.step {} (text.take tgMsgLimit)).safePos = 0
    · rw [if_pos hsafe]
      obtain ⟨reading, hstripped⟩ := read_stripOpenTag hread
      refine iff_of_false (fun hgood => ?_) ?_
      · exact hclosed (congrArg Place.stack (Option.some.inj (hstripped.symm.trans hgood)))
      · rintro ⟨front, back, hhead, hfront, hlast, -⟩
        have hle := htracks.last front back hhead hfront hlast
        rw [hsafe] at hle
        rw [List.eq_nil_of_length_eq_zero (Nat.le_zero.1 hle)] at hlast
        contradiction
    · rw [if_neg hsafe]
      exact htracks.wellFormed_take_iff hsafe

theorem safeMsgTruncate_wellFormed_iff_bold :
    (safeMsgTruncate "<b>ok</b>".toList (some "HTML") <+: "<b>ok</b>".toList ∧
      (safeMsgTruncate "<b>ok</b>".toList (some "HTML")).length ≤ tgMsgLimit ∧
        WellFormed (safeMsgTruncate "<b>ok</b>".toList (some "HTML"))) ↔
      CutsWell "<b>ok</b>".toList :=
  safeMsgTruncate_wellFormed_iff (by decide)

end Tracking

/-- An entity at the limit. -/
def entityAtLimit : List Char := List.replicate 3899 'x' ++ "&amp;".toList

theorem entity_cut : WellFormed entityAtLimit ∧
    ¬ WellFormed (safeMsgTruncate entityAtLimit (some "HTML")) := by
  have hplain : read outside (List.replicate 3899 'x') = some outside :=
    Markup.read_plain (fun c hc => by rw [List.eq_of_mem_replicate hc]; decide) []
  have hhead : entityAtLimit.take tgMsgLimit = List.replicate 3899 'x' ++ ['&'] := by
    rw [entityAtLimit, List.take_append, List.length_replicate,
      List.take_of_length_le (by rw [List.length_replicate]; decide)]
    rfl
  have hread : read outside (entityAtLimit.take tgMsgLimit) = some ⟨[], .entity []⟩ := by
    rw [hhead, Markup.read_append, hplain]
    rfl
  refine ⟨?_, fun hformed => ?_⟩
  · rw [entityAtLimit, WellFormed, Markup.read_append, hplain]
    decide
  · have hlong : ¬ entityAtLimit.length ≤ tgMsgLimit := by
      have hfive : "&amp;".toList.length = 5 := rfl
      rw [entityAtLimit, List.length_append, List.length_replicate, hfive, tgMsgLimit]
      omega
    rw [safeMsgTruncate, if_neg hlong, if_neg (not_not.2 rfl)] at hformed
    rw [if_pos (tracks_foldl hread).stack, WellFormed, hread] at hformed
    simp [outside] at hformed

end SignPulse.PushNotifications
