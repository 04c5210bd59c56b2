import Mathlib.Data.List.TakeWhile
import SignPulse.Foundation.PyText

/-!
# Texts of keyword hits

Every text of a record is freed of NUL characters and of the blanks around it, and then cut.
What is left may end with a blank again, and a second pass would take it off; these lemmas say
when a second pass changes nothing.
-/

namespace SignPulse.KeywordHits

open Foundation

/-- `_strip_nul`. -/
def stripNul (value : String) : String :=
  pyStrip (String.ofList (value.toList.filter fun c => c.toNat != 0))

/-- `_clip`. -/
def clip (value : String) (limit : ℕ) : String :=
  String.ofList ((stripNul value).toList.take limit)

/-- `replace("\r\n", "\n")`. -/
def joinLineEnds : List Char → List Char
  | [] => []
  | c :: rest =>
    if c = '\r' ∧ rest.head? = some '\n' then joinLineEnds rest else c :: joinLineEnds rest

/-- `_safe_message_text`. -/
def safeMessageText (messageText : String) : String :=
  let text := joinLineEnds (stripNul messageText).toList
  if 500 < text.length then String.ofList (text.take 497 ++ ['.', '.', '.'])
  else String.ofList text

/-- `text.startswith(("http://", "https://"))`. -/
def startsHttp (text : String) : Bool :=
  "http://".toList.isPrefixOf text.toList || "https://".toList.isPrefixOf text.toList

/-- `_safe_url`. -/
def safeUrl (url : String) : String :=
  let rawUrl := stripNul url
  if startsHttp (pyLower rawUrl) then String.ofList (rawUrl.toList.take 500) else ""

/-- `_clean_keywords`. -/
def cleanKeywords (keywords : List String) : List String :=
  ((keywords.filter fun k => stripNul k ≠ "").map fun k => clip k 200).take 20

/-- The last character, if there is one, is no blank. -/
def endsSolid (text : String) : Bool :=
  !text.toList.getLast?.any isPySpace

/-- A `"\r\n"` is left. -/
def hasLineEnd : List Char → Bool
  | [] => false
  | c :: rest => (c == '\r' && rest.head? == some '\n') || hasLineEnd rest

/-! ## Texts without blanks around them -/

/-- A text as `stripNul` and a cut leave it. -/
structure Tidy (cs : List Char) : Prop where
  clear : ∀ c ∈ cs, c.toNat ≠ 0
  head : ∀ c ∈ cs.head?, isPySpace c = false

theorem endsSolid_iff (cs : List Char) :
    endsSolid (String.ofList cs) = true ↔ ∀ c ∈ cs.getLast?, isPySpace c = false := by
  rw [endsSolid, String.toList_ofList]
  cases cs.getLast? with
  | none => simp
  | some c => simp

theorem tidy_stripNul (value : String) : Tidy (stripNul value).toList := by
  rw [stripNul, pyStrip, String.toList_ofList, String.toList_ofList]
  refine ⟨fun c hc => ?_, head?_trimChars _ _⟩
  have hmem := (trimChars_sublist _ _).subset hc
  simpa using (List.mem_filter.mp hmem).2

variable {cs : List Char}

theorem Tidy.take (htidy : Tidy cs) (n : ℕ) : Tidy (cs.take n) where
  clear c hc := htidy.clear c (List.mem_of_mem_take hc)
  head c hc := by
    refine htidy.head c ?_
    cases cs with
    | nil => rwa [List.take_nil] at hc
    | cons first rest =>
      cases n with
      | zero => cases hc
      | succ n => exact hc

/-- Nothing but blanks at the end is left to strip. -/
theorem Tidy.stripNul_eq (htidy : Tidy cs) :
    stripNul (String.ofList cs) = String.ofList (trimChars isPySpace cs) := by
  unfold stripNul pyStrip
  have hkeep : cs.filter (fun c => c.toNat != 0) = cs :=
    List.filter_eq_self.mpr fun c hc => by simpa using htidy.clear c hc
  rw [String.toList_ofList, String.toList_ofList, hkeep]

theorem Tidy.trim_eq (htidy : Tidy cs) (hsolid : ∀ c ∈ cs.getLast?, isPySpace c = false) :
    trimChars isPySpace cs = cs :=
  trimChars_eq_self htidy.head hsolid

theorem solid_of_trim_length (hle : cs.length ≤ (trimChars isPySpace cs).length) :
    ∀ c ∈ cs.getLast?, isPySpace c = false := by
  have heq := (trimChars_sublist isPySpace cs).eq_of_length_le hle
  have hlast := getLast?_trimChars isPySpace cs
  rwa [heq] at hlast

/-- A cut text is left as it is by a second pass just if it does not end with a blank. -/
theorem Tidy.cut_again (htidy : Tidy cs) (n : ℕ) :
    (trimChars isPySpace (cs.take n)).take n = cs.take n ↔
      ∀ c ∈ (cs.take n).getLast?, isPySpace c = false := by
  constructor
  · intro hsame
    refine solid_of_trim_length ?_
    have hlength := congrArg List.length hsame
    rw [List.length_take] at hlength
    omega
  · intro hsolid
    rw [(htidy.take n).trim_eq hsolid, List.take_take, Nat.min_self]

theorem clip_clip_iff (value : String) (limit : ℕ) :
    clip (clip value limit) limit = clip value limit ↔ endsSolid (clip value limit) = true := by
  have htidy := tidy_stripNul value
  have hagain : clip (clip value limit) limit =
      String.ofList ((trimChars isPySpace ((stripNul value).toList.take limit)).take limit) := by
    rw [clip, clip, (htidy.take limit).stripNul_eq, String.toList_ofList]
  rw [hagain, clip, endsSolid_iff, ← htidy.cut_again limit]
  exact ⟨fun heq => String.ofList_injective heq, congrArg String.ofList⟩

/-! ## Messages -/

theorem length_joinLineEnds_le (cs : List Char) : (joinLineEnds cs).length ≤ cs.length := by
  induction cs with
  | nil => exact Nat.le_refl 0
  | cons c rest ih =>
    unfold joinLineEnds
    split
    · exact Nat.le_succ_of_le ih
    · exact Nat.succ_le_succ ih

theorem joinLineEnds_subset (cs : List Char) : ∀ c ∈ joinLineEnds cs, c ∈ cs := by
  induction cs with
  | nil => exact fun _ hc => hc
  | cons first rest ih =>
    intro c hc
    unfold joinLineEnds at hc
    split at hc
    · exact List.mem_cons_of_mem _ (ih c hc)
    · rcases List.mem_cons.mp hc with rfl | hmem
      · exact List.mem_cons_self
      · exact List.mem_cons_of_mem _ (ih c hmem)

theorem joinLineEnds_eq_self_iff (cs : List Char) :
    joinLineEnds cs = cs ↔ hasLineEnd cs = false := by
  induction cs with
  | nil => exact ⟨fun _ => rfl, fun _ => rfl⟩
  | cons c rest ih =>
    unfold joinLineEnds hasLineEnd
    split
    · next hend =>
      constructor
      · intro heq
        have hlength := congrArg List.length heq
        have hle := length_joinLineEnds_le rest
        rw [List.length_cons] at hlength
        omega
      · intro hnone
        simp [hend.1, hend.2] at hnone
    · next hkept =>
      have hhere : (c == '\r' && rest.head? == some '\n') = false := by
        simpa using hkept
      rw [hhere, Bool.false_or, ← ih]
      exact ⟨fun heq => (List.cons.inj heq).2, congrArg (c :: ·)⟩

theorem joinLineEnds_ne_nil (hcs : cs ≠ []) : joinLineEnds cs ≠ [] := by
  induction cs with
  | nil => exact absurd rfl hcs
  | cons c rest ih =>
    unfold joinLineEnds
    split
    · next hend =>
      refine ih fun hnil => ?_
      rw [hnil] at hend
      cases hend.2
    · exact List.cons_ne_nil _ _

theorem getLast?_joinLineEnds (cs : List Char) : (joinLineEnds cs).getLast? = cs.getLast? := by
  induction cs with
  | nil => rfl
  | cons c rest ih =>
    cases rest with
    | nil => simp [joinLineEnds]
    | cons second others =>
      have hlast : (c :: joinLineEnds (second :: others)).getLast? =
          (joinLineEnds (second :: others)).getLast? :=
        List.getLast?_cons_of_ne_nil (joinLineEnds_ne_nil (List.cons_ne_nil _ _))
      rw [joinLineEnds, List.getLast?_cons_cons]
      split
      · exact ih
      · rw [hlast, ih]

theorem Tidy.joinLineEnds (htidy : Tidy cs) : Tidy (joinLineEnds cs) where
  clear c hc := htidy.clear c (joinLineEnds_subset cs c hc)
  head := by
    cases cs with
    | nil => exact fun _ hc => nomatch hc
    | cons first rest =>
      rw [KeywordHits.joinLineEnds, if_neg]
      · exact htidy.head
      · rintro ⟨rfl, -⟩
        exact absurd (htidy.head _ rfl) (by decide)

theorem solid_stripNul (value : String) :
    ∀ c ∈ (stripNul value).toList.getLast?, isPySpace c = false := by
  rw [stripNul, pyStrip, String.toList_ofList, String.toList_ofList]
  exact getLast?_trimChars _ _

theorem safeMessageText_tidy (messageText : String) : Tidy (safeMessageText messageText).toList ∧
      (∀ c ∈ (safeMessageText messageText).toList.getLast?, isPySpace c = false) ∧
      (safeMessageText messageText).toList.length ≤ 500 := by
  have htidy := (tidy_stripNul messageText).joinLineEnds
  simp only [safeMessageText]
  split
  · rw [String.toList_ofList]
    refine ⟨⟨fun c hc => ?_, ?_⟩, ?_, ?_⟩
    · rcases List.mem_append.mp hc with hkept | hdots
      · exact htidy.clear c (List.mem_of_mem_take hkept)
      · rcases List.mem_cons.mp hdots with rfl | hdots
        · decide
        · rcases List.mem_cons.mp hdots with rfl | hdots
          · decide
          · rw [List.mem_singleton.mp hdots]
            decide
    · next hlong =>
      intro c hc
      cases hcs : KeywordHits.joinLineEnds (stripNul messageText).toList with
      | nil =>
        rw [hcs] at hlong
        exact absurd hlong (Nat.not_lt_zero 500)
      | cons first rest =>
        rw [hcs] at hc
        exact (hcs ▸ htidy).head c hc
    · intro c hc
      rw [List.getLast?_append] at hc
      obtain rfl := Option.some.inj (show some '.' = some c from hc)
      decide
    · rw [List.length_append, List.length_take]
      change min 497 _ + 3 ≤ 500
      omega
  · next hshort =>
    rw [String.toList_ofList]
    refine ⟨htidy, fun c hc => ?_, Nat.not_lt.mp hshort⟩
    rw [getLast?_joinLineEnds] at hc
    exact solid_stripNul messageText c hc

theorem safeMessageText_again_iff (messageText : String) :
    safeMessageText (safeMessageText messageText) = safeMessageText messageText ↔
      hasLineEnd (safeMessageText messageText).toList = false := by
  obtain ⟨htidy, hsolid, hlength⟩ := safeMessageText_tidy messageText
  generalize safeMessageText messageText = text at *
  have hstrip : stripNul text = text := by
    have heq := htidy.stripNul_eq
    rwa [htidy.trim_eq hsolid, String.ofList_toList] at heq
  have hshort := Nat.le_trans (length_joinLineEnds_le text.toList) hlength
  rw [safeMessageText, hstrip, if_neg (Nat.not_lt.mpr hshort), ← joinLineEnds_eq_self_iff]
  constructor
  · intro heq
    have hchars := congrArg String.toList heq
    rwa [String.toList_ofList] at hchars
  · intro heq
    rw [heq, String.ofList_toList]

/-! ## Links and keywords -/

theorem length_flatMap_lowerChar (cs : List Char) : cs.length ≤ (cs.flatMap lowerChar).length := by
  induction cs with
  | nil => exact Nat.le_refl 0
  | cons c rest ih =>
    have hone : 1 ≤ (lowerChar c).length := by
      unfold lowerChar
      split
      · exact Nat.le_refl 1
      · split
        · exact Nat.le_succ 1
        · exact Nat.le_refl 1
        · exact Nat.le_refl 1
    rw [List.flatMap_cons, List.length_append, List.length_cons]
    omega

theorem startsHttp_take (hstarts : startsHttp (pyLower (String.ofList cs)) = true) :
    startsHttp (pyLower (String.ofList (cs.take 500))) = true := by
  have hcut : ∀ start : List Char, start.length ≤ 8 → start <+: cs.flatMap lowerChar →
      start <+: (cs.take 500).flatMap lowerChar := by
    intro start hlength hbegins
    have hwhole : (cs.take 500).flatMap lowerChar <+: cs.flatMap lowerChar := by
      refine ⟨(cs.drop 500).flatMap lowerChar, ?_⟩
      rw [← List.flatMap_append, List.take_append_drop]
    by_cases hlong : 500 ≤ cs.length
    · refine List.prefix_of_prefix_length_le hbegins hwhole ?_
      have hle := length_flatMap_lowerChar (cs.take 500)
      rw [List.length_take] at hle
      omega
    · rwa [List.take_of_length_le (by omega)]
  unfold startsHttp pyLower at hstarts ⊢
  simp only [String.toList_ofList, Bool.or_eq_true, List.isPrefixOf_iff_prefix] at hstarts ⊢
  exact hstarts.imp (hcut "http://".toList (by decide)) (hcut "https://".toList (by decide))

theorem safeUrl_of_http {url : String} (hstarts : startsHttp (pyLower (stripNul url)) = true) :
    safeUrl url = String.ofList ((stripNul url).toList.take 500) := by
  simp only [safeUrl]
  rw [hstarts, if_pos rfl]

theorem safeUrl_of_other {url : String} (hstarts : ¬ startsHttp (pyLower (stripNul url)) = true) :
    safeUrl url = "" := by
  simp only [safeUrl]
  rw [if_neg hstarts]

theorem safeUrl_again_iff (url : String) :
    safeUrl (safeUrl url) = safeUrl url ↔ endsSolid (safeUrl url) = true := by
  have htidy := tidy_stripNul url
  by_cases hstarts : startsHttp (pyLower (stripNul url)) = true
  · have hstrip := (htidy.take 500).stripNul_eq
    rw [safeUrl_of_http hstarts, endsSolid_iff]
    constructor
    · intro hagain c hc
      by_cases hstill : startsHttp (pyLower
          (stripNul (String.ofList ((stripNul url).toList.take 500)))) = true
      · rw [safeUrl_of_http hstill, hstrip, String.toList_ofList] at hagain
        exact (htidy.cut_again 500).mp (String.ofList_injective hagain) c hc
      · rw [safeUrl_of_other hstill] at hagain
        have hempty : (stripNul url).toList.take 500 = [] := by
          rw [← String.toList_ofList (l := (stripNul url).toList.take 500), ← hagain]
          rfl
        rw [hempty] at hc
        cases hc
    · intro hsolid
      rw [(htidy.take 500).trim_eq hsolid] at hstrip
      rw [← String.ofList_toList (s := stripNul url)] at hstarts
      have hstill := startsHttp_take hstarts
      rw [← hstrip] at hstill
      rw [safeUrl_of_http hstill, hstrip, String.toList_ofList, List.take_take, Nat.min_self]
  · rw [safeUrl_of_other hstarts]
    decide

theorem trimChars_ne_nil {p : Char → Bool} {c : Char} (hkept : p c = false) (hmem : c ∈ cs) :
    trimChars p cs ≠ [] := by
  intro hnil
  have hreverse := List.reverse_eq_nil_iff.mp hnil
  have hall := List.dropWhile_eq_nil_iff.mp hreverse
  have hdrop : cs.dropWhile p ≠ [] := fun hempty => by
    have hc := List.dropWhile_eq_nil_iff.mp hempty c hmem
    rw [hkept] at hc
    cases hc
  obtain ⟨first, rest, hfirst⟩ := List.exists_cons_of_ne_nil hdrop
  have htrue := hall first (List.mem_reverse.mpr (hfirst ▸ List.mem_cons_self))
  rw [head?_dropWhile p cs first (by rw [hfirst]; rfl)] at htrue
  cases htrue

theorem stripNul_clip_ne {value : String} (hvalue : stripNul value ≠ "") :
    stripNul (clip value 200) ≠ "" := by
  have htidy := (tidy_stripNul value).take 200
  rw [clip, htidy.stripNul_eq]
  intro hempty
  have hnil : trimChars isPySpace ((stripNul value).toList.take 200) = [] := by
    rw [← String.toList_ofList (l := trimChars isPySpace ((stripNul value).toList.take 200)), hempty]
    rfl
  cases hcs : (stripNul value).toList with
  | nil => exact hvalue (String.toList_inj.mp hcs)
  | cons first rest =>
    -- the first character is no blank, so that it is not trimmed
    rw [hcs, List.take_succ_cons] at hnil
    have hfirst : isPySpace first = false := (tidy_stripNul value).head first (by rw [hcs]; rfl)
    refine trimChars_ne_nil hfirst ?_ hnil
    exact List.mem_cons_self

theorem cleanKeywords_again_iff (keywords : List String) :
    cleanKeywords (cleanKeywords keywords) = cleanKeywords keywords ↔
      (cleanKeywords keywords).all endsSolid = true := by
  have hmember : ∀ u ∈ cleanKeywords keywords, ∃ k, stripNul k ≠ "" ∧ u = clip k 200 := by
    intro u hu
    obtain ⟨k, hk, rfl⟩ := List.mem_map.mp (List.mem_of_mem_take hu)
    exact ⟨k, by simpa using (List.mem_filter.mp hk).2, rfl⟩
  have hlength : (cleanKeywords keywords).length ≤ 20 := by
    rw [cleanKeywords, List.length_take]
    exact Nat.min_le_left _ _
  have hkept : (cleanKeywords keywords).filter (fun k => stripNul k ≠ "") =
      cleanKeywords keywords := by
    refine List.filter_eq_self.mpr fun u hu => ?_
    obtain ⟨k, hk, rfl⟩ := hmember u hu
    exact decide_eq_true (stripNul_clip_ne hk)
  have hagain : cleanKeywords (cleanKeywords keywords) =
      (cleanKeywords keywords).map fun k => clip k 200 := by
    rw [cleanKeywords, hkept, List.take_of_length_le (by rwa [List.length_map])]
  rw [hagain, List.all_eq_true]
  constructor
  · intro hsame u hu
    have hone : clip u 200 = u :=
      List.map_inj_left.mp (hsame.trans (List.map_id _).symm) u hu
    obtain ⟨k, -, rfl⟩ := hmember u hu
    exact (clip_clip_iff k 200).mp hone
  · intro hsolid
    refine (List.map_congr_left fun u hu => ?_).trans (List.map_id _)
    obtain ⟨k, -, rfl⟩ := hmember u hu
    exact (clip_clip_iff k 200).mpr (hsolid _ hu)

end SignPulse.KeywordHits
