import SignPulse.Foundation.Regex
import SignPulse.Signer.CooldownClusters

/-!
# Cooldowns in texts

`parse_cooldown_timedelta` of `adaptive_schedule.py`, with exact durations in seconds.  All of its
expressions ignore the case of letters but the one for ranges.
-/

namespace SignPulse.AdaptiveSchedule

open Foundation
open Foundation.Regex

/-! ## Expressions -/

section Expressions

variable (ignoreCase : Bool)

def charClass (chars : String) : CharClass :=
  if ignoreCase then .ignoringCase chars.toList else .oneOf chars.toList

def lit (text : String) : Regex :=
  text.toList.foldr (fun c rest => .seq (.one (charClass ignoreCase (String.singleton c))) rest) .empty

/-- `text` with its last letter left out or not. -/
def plural (text : String) : Regex := .seq (lit ignoreCase text) (.alt (lit ignoreCase "s") .empty)

/-- `(?![a-zA-Z])`. -/
def noLetter : Regex :=
  .notAhead (charClass ignoreCase "abcdefghijklmnopqrstuvwxyzABCDEFGHIJKLMNOPQRSTUVWXYZ")

def alts (options : List Regex) : Regex :=
  match options with
  | [] => .empty
  | [last] => last
  | first :: rest => .alt first (alts rest)

/-- `_D_RE`, `_H_RE`, `_M_RE` and `_S_RE`. -/
def unitPattern : TimeUnit → Regex
  | .days => alts [lit ignoreCase "天", plural ignoreCase "day",
      .seq (lit ignoreCase "d") (noLetter ignoreCase)]
  | .hours => alts [lit ignoreCase "小时",
      .seq (lit ignoreCase "时") (.notAhead (.oneOf "间候刻尚态代局".toList)),
      plural ignoreCase "hour", plural ignoreCase "hr",
      .seq (lit ignoreCase "h") (noLetter ignoreCase)]
  | .minutes => alts [lit ignoreCase "分钟",
      .seq (.notBehind [.oneOf "积金得获加总".toList]) (.seq (lit ignoreCase "分")
        (.notAhead (.oneOf "钟数值享析类配别寸辩辨界".toList))),
      plural ignoreCase "minute", plural ignoreCase "min",
      .seq (lit ignoreCase "m") (noLetter ignoreCase)]
  | .seconds => alts [lit ignoreCase "秒钟",
      .seq (lit ignoreCase "秒") (.notAhead (.oneOf "表杀懂选回批".toList)),
      plural ignoreCase "second", plural ignoreCase "sec",
      .seq (lit ignoreCase "s") (noLetter ignoreCase)]

def units : List TimeUnit := [.days, .hours, .minutes, .seconds]

end Expressions

/-- `\d+(?:\.\d+)?`. -/
def valPattern : Regex :=
  .seq (.many .digit 1) (.alt (.seq (.one (.oneOf ['.'])) (.many .digit 1)) .empty)

def spaces : Regex := .many .space 0

/-- A number with `个` and a unit or without. -/
def rangeEnd : Regex :=
  .seq valPattern (.seq spaces (.seq (.alt (lit false "个") .empty)
    (.alt (alts (units.map (unitPattern false))) .empty)))

/-- `_NUMERIC_RANGE_PATTERN`, which does not ignore case. -/
def rangePattern : Regex :=
  .seq rangeEnd (.seq spaces (.seq (.one (.oneOf "-–—~至".toList)) (.seq spaces rangeEnd)))

/-- One line of `_preprocess_duration_text`. -/
structure Phrase where
  pattern : Regex
  keepsNumber : Bool
  text : String

def Phrase.replacement (phrase : Phrase) (taken : List Char) : List Char :=
  (if phrase.keepsNumber then taken.takeWhile isPyDigit else []) ++ phrase.text.toList

/-- The words of a phrase with blanks between them. -/
def spaced : List String → Regex
  | [] => .empty
  | [last] => lit false last
  | word :: rest => .seq (lit false word) (.seq spaces (spaced rest))

def noDigit : Regex := .notBehind [.digit]

def phrases : List Phrase :=
  [⟨.seq (.one (.oneOf "一1".toList)) (.seq spaces (spaced ["个半", "小时"])), false, "1.5小时"⟩,
    ⟨.seq noDigit (.seq (.many .digit 1) (.seq spaces (lit false "小时半"))), true, ".5小时"⟩,
    ⟨.seq noDigit (spaced ["半", "天"]), false, "0.5天"⟩,
    ⟨.seq noDigit (spaced ["半", "小时"]), false, "0.5小时"⟩,
    ⟨.seq noDigit (spaced ["半", "分钟"]), false, "0.5分钟"⟩,
    ⟨.seq noDigit (spaced ["半", "个", "小时"]), false, "0.5小时"⟩,
    ⟨.seq noDigit (.seq (spaced ["半", "个"])
      (.notAhead (.not (.either .space (.oneOf "-–—~至,，。!！?？".toList))))), false, "0.5小时"⟩,
    ⟨.seq noDigit (spaced ["一个", "小时"]), false, "1小时"⟩,
    ⟨.seq noDigit (spaced ["一", "天"]), false, "1天"⟩]

/-- The natural phrases in numbers. -/
def naturalize (text : List Char) : List Char :=
  phrases.foldl (fun text phrase => sub phrase.pattern phrase.replacement [] 0 text) text

/-- `_preprocess_duration_text`. -/
def preprocess (text : List Char) : List Char :=
  sub rangePattern (fun _ => [' ']) [] 0 (naturalize text)

/-! ## Durations -/

/-- The words and signs that a duration may not follow, also with a blank between. -/
def refused : List String :=
  ["第", "连续", "连续签到", "已连续", "获得", "得分", "积分", "今日积分", "剩余积分", "金币", "经验", "点数", "奖励", "加", "+"]

def notAfter (word : String) : Regex :=
  let classes := word.toList.map fun c => charClass true (String.singleton c)
  .seq (.notBehind classes) (.notBehind (classes ++ [.space]))

/-- `_TOKEN_PATTERN` up to the group `val`. -/
def tokenVal : Regex :=
  refused.foldr (fun word rest => .seq (notAfter word) rest) (.seq noDigit valPattern)

/-- `float` of digits with a point or without. -/
def decimal (text : List Char) : ℚ :=
  let fraction := (text.dropWhile isPyDigit).drop 1
  decimalNumber (text.takeWhile isPyDigit) + decimalNumber fraction / 10 ^ fraction.length

/-- The first match of `_TOKEN_PATTERN` at a place. -/
def tokenAt (before text : List Char) : Option TimeToken :=
  ((tokenVal.matchesAt before text).flatMap fun (val, rest) =>
    (spaces.matchesAt (val.reverse ++ before) rest).flatMap fun (gap, rest) =>
      units.flatMap fun unit =>
        ((unitPattern true unit).matchesAt (gap.reverse ++ (val.reverse ++ before)) rest).map
          fun (name, _) =>
            { unit, val := decimal val, start := before.length
              stop := before.length + (val.length + gap.length + name.length) }).head?

/-- `_extract_tokens` from a place on. -/
def tokensFrom : List Char → ℕ → List Char → List TimeToken
  | _, _, [] => []
  | before, skip + 1, c :: rest => tokensFrom (c :: before) skip rest
  | before, 0, c :: rest =>
    match tokenAt before (c :: rest) with
    | some tok => tok :: tokensFrom (c :: before) (tok.stop - tok.start - 1) rest
    | none => tokensFrom (c :: before) 0 rest

/-- `_dict_to_timedelta`.  A `timedelta` has less than 10^9 days. -/
def dictToTimedelta (cluster : Cluster) : Except String (Option ℚ) :=
  let amount := fun unit => (Dict.getItem cluster unit).getD 0
  let total := 86400 * amount .days + 3600 * amount .hours + 60 * amount .minutes + amount .seconds
  if 86400 * 10 ^ 9 ≤ total then .error "OverflowError"
  else .ok (if 10 ≤ total ∧ total ≤ 259200 then some total else none)

/-- `_extract_first_duration`. -/
def extractFirstDuration (text : List Char) : Except String (Option ℚ) :=
  let text := preprocess text
  match clusterTokens (tokensFrom [] 0 text) text with
  | [] => .ok none
  | cluster :: _ => dictToTimedelta cluster

/-- `re.search` with `re.IGNORECASE`, without a match where it raises, and `float`. -/
structure Library where
  search : List Char → List Char → Option (Option (List Char) × List Char)
  readFloat : List Char → Option ℚ

/-- What a custom pattern finds: its first group if there is one, else the whole match. -/
def Library.ofMatch (library : Library) (found : Option (List Char) × List Char) :
    Except String (Option ℚ) := do
  if let some captured := found.1 then
    if captured ≠ [] then
      if let some res ← extractFirstDuration captured then
        return some res
      if let some num := library.readFloat (trimChars isPySpace captured) then
        if 10 ≤ num ∧ num ≤ 259200 then
          return some num
  extractFirstDuration found.2

def Library.customDuration (library : Library) (text : List Char) :
    List (List Char) → Except String (Option ℚ)
  | [] => .ok none
  | pattern :: patterns =>
    let pattern := trimChars isPySpace pattern
    if pattern = [] ∨ 200 < pattern.length then library.customDuration text patterns
    else
      match library.search pattern text with
      | none => library.customDuration text patterns
      | some found => do
        match ← library.ofMatch found with
        | some res => return some res
        | none => library.customDuration text patterns

/-- `parse_cooldown_timedelta`. -/
def Library.parseCooldownTimedelta (library : Library) (text : List Char)
    (customPatterns : List (List Char)) : Except String (Option ℚ) := do
  if text = [] then return none
  match ← library.customDuration text customPatterns with
  | some res => return some res
  | none => extractFirstDuration text

/-! ## Texts in lower case -/

abbrev lower (text : List Char) : List Char := text.map lowerLetter

section Lower

variable {text before rest : List Char}

theorem isPyDigit_lower : isPyDigit ∘ lowerLetter = isPyDigit :=
  funext (same_lowerLetter (by decide +kernel))

theorem decimalNumber_lower (digits : List Char) :
    decimalNumber (lower digits) = decimalNumber digits := by
  have hvalue : ∀ c, decimalValue (lowerLetter c) = decimalValue c :=
    same_lowerLetter (by decide +kernel)
  simp only [decimalNumber, List.foldl_map, hvalue]

theorem decimal_lower (text : List Char) : decimal (lower text) = decimal text := by
  simp only [decimal, List.takeWhile_map, List.dropWhile_map, isPyDigit_lower, ← List.map_drop,
    decimalNumber_lower, List.length_map]

theorem naturalize_lower (text : List Char) : naturalize (lower text) = lower (naturalize text) := by
  have hphrases : ∀ phrase ∈ phrases,
      (phrase.pattern.classes.all fun k => ignoresCase k.holds) = true ∧
        lower phrase.text.toList = phrase.text.toList :=
    List.forall_iff_forall_mem.1 (by decide +kernel)
  unfold naturalize
  generalize phrases = list at hphrases
  induction list generalizing text with
  | nil => rfl
  | cons phrase list ih =>
    obtain ⟨⟨hpattern, htext⟩, hrest⟩ := List.forall_mem_cons.1 hphrases
    have hnew : ∀ taken, phrase.replacement (lower taken) = lower (phrase.replacement taken) :=
      fun taken => by
        simp only [Phrase.replacement, List.takeWhile_map, isPyDigit_lower, List.map_append, htext]
        split <;> rfl
    have hsub := sub_map hnew (alike_of_blind (blind_lowerLetter hpattern) text)
      (show [].reverse ++ text = text from rfl) 0
    rw [List.foldl_cons, List.foldl_cons, ← ih _ hrest]
    exact congrArg (List.foldl _ · list) hsub

/-- At no place of the text, its phrases in numbers, is another range read in lower case. -/
abbrev RangesAlike (text : List Char) : Prop :=
  Alike lowerLetter rangePattern (naturalize text)

theorem preprocess_lower (halike : RangesAlike text) :
    preprocess (lower text) = lower (preprocess text) := by
  have hblank : ∀ taken : List Char, [' '] = lower [' '] := fun _ => rfl
  rw [preprocess, naturalize_lower]
  exact sub_map hblank halike (show [].reverse ++ naturalize text = naturalize text from rfl) 0

theorem tokenAt_lower (before text : List Char) :
    tokenAt (lower before) (lower text) = tokenAt before text := by
  have hval : (tokenVal.classes.all fun k => ignoresCase k.holds) = true := by decide +kernel
  have hspaces : (spaces.classes.all fun k => ignoresCase k.holds) = true := by decide +kernel
  have hunits : ∀ unit, ((unitPattern true unit).classes.all fun k => ignoresCase k.holds) = true :=
    fun unit => by cases unit <;> decide +kernel
  rw [tokenAt, matchesAt_map (blind_lowerLetter hval), List.flatMap_map]
  refine congrArg List.head? (List.flatMap_congr fun (val, rest) _ => ?_)
  simp only [Prod.map_apply, ← List.map_reverse, ← List.map_append]
  rw [matchesAt_map (blind_lowerLetter hspaces), List.flatMap_map]
  refine List.flatMap_congr fun (gap, rest) _ => List.flatMap_congr fun unit _ => ?_
  simp only [Prod.map_apply, ← List.map_reverse, ← List.map_append]
  rw [matchesAt_map (blind_lowerLetter (hunits unit)), List.map_map]
  refine List.map_congr_left fun (name, left) _ => ?_
  simp [decimal_lower]

theorem tokensFrom_lower (before : List Char) (skip : ℕ) (text : List Char) :
    tokensFrom (lower before) skip (lower text) = tokensFrom before skip text := by
  induction text generalizing before skip with
  | nil => cases skip <;> rfl
  | cons c text ih =>
    have hplace := tokenAt_lower before (c :: text)
    have hrest := ih (c :: before)
    simp only [lower, List.map_cons] at hplace hrest ⊢
    cases skip with
    | succ skip => exact hrest skip
    | zero =>
      rw [tokensFrom, hplace, tokensFrom]
      cases tokenAt before (c :: text) with
      | none => exact hrest 0
      | some tok => exact congrArg _ (hrest _)

theorem canMerge_lower (text : List Char) (current : Cluster) (last tok : TimeToken) :
    canMerge (lower text) current last tok = canMerge text current last tok := by
  have hconnector : isConnector ∘ lowerLetter = isConnector :=
    funext (same_lowerLetter (by decide +kernel))
  simp only [canMerge, between, lower, ← List.map_drop, ← List.map_take, List.all_map, hconnector]

theorem clusterTokens_lower (tokens : List TimeToken) (text : List Char) :
    clusterTokens tokens (lower text) = clusterTokens tokens text := by
  have hfrom : ∀ current last, clusterFrom (lower text) current last tokens.tail =
      clusterFrom text current last tokens.tail := by
    generalize tokens.tail = rest
    induction rest with
    | nil => exact fun _ _ => rfl
    | cons tok rest ih =>
      intro current last
      simp only [clusterFrom, canMerge_lower, ih]
  cases tokens with
  | nil => rfl
  | cons tok rest => exact hfrom _ _

theorem extractFirstDuration_lower (halike : RangesAlike text) :
    extractFirstDuration (lower text) = extractFirstDuration text := by
  have htokens : tokensFrom [] 0 (lower (preprocess text)) = tokensFrom [] 0 (preprocess text) :=
    tokensFrom_lower [] 0 _
  simp only [extractFirstDuration, preprocess_lower halike, clusterTokens_lower, htokens]

/-- The library sees no difference between a text and the text in lower case: `re.IGNORECASE` finds
the same in both, and `float` reads the same number. -/
structure Library.IgnoresCase (library : Library) (text : List Char)
    (customPatterns : List (List Char)) : Prop where
  search : ∀ pattern ∈ customPatterns, library.search (trimChars isPySpace pattern) (lower text) =
    (library.search (trimChars isPySpace pattern) text).map (Prod.map (Option.map lower) lower)
  readFloat : ∀ text, library.readFloat (lower text) = library.readFloat text

/-- The ranges in the texts that custom patterns find. -/
def Library.MatchesAlike (library : Library) (text : List Char)
    (customPatterns : List (List Char)) : Prop :=
  ∀ pattern ∈ customPatterns, ∀ found ∈ library.search (trimChars isPySpace pattern) text,
    RangesAlike found.2 ∧ ∀ captured ∈ found.1, RangesAlike captured

variable {library : Library} {customPatterns : List (List Char)}

theorem ofMatch_lower {found : Option (List Char) × List Char}
    (hfloat : ∀ text, library.readFloat (lower text) = library.readFloat text)
    (hwhole : RangesAlike found.2) (hcaptured : ∀ captured ∈ found.1, RangesAlike captured) :
    library.ofMatch (Prod.map (Option.map lower) lower found) = library.ofMatch found := by
  have hspace : isPySpace ∘ lowerLetter = isPySpace :=
    funext (same_lowerLetter (by decide +kernel))
  have htrim : ∀ text, trimChars isPySpace (lower text) = lower (trimChars isPySpace text) :=
    fun text => by
      simp only [trimChars, lower, List.dropWhile_map, hspace, ← List.map_reverse]
  obtain ⟨captured, whole⟩ := found
  cases captured with
  | none => simp [Library.ofMatch, extractFirstDuration_lower hwhole]
  | some captured =>
    simp only [Library.ofMatch, Prod.map_apply, Option.map_some, htrim, hfloat,
      extractFirstDuration_lower hwhole, extractFirstDuration_lower (hcaptured captured rfl)]
    simp

theorem customDuration_lower (hignores : library.IgnoresCase text customPatterns)
    (hmatches : library.MatchesAlike text customPatterns) :
    library.customDuration (lower text) customPatterns =
      library.customDuration text customPatterns := by
  induction customPatterns with
  | nil => rfl
  | cons pattern patterns ih =>
    have hrest := ih
      ⟨fun other hother => hignores.search other (List.mem_cons_of_mem _ hother), hignores.readFloat⟩
      fun other hother => hmatches other (List.mem_cons_of_mem _ hother)
    simp only [Library.customDuration, hrest, hignores.search pattern List.mem_cons_self]
    cases hfound : library.search (trimChars isPySpace pattern) text with
    | none => rfl
    | some found =>
      obtain ⟨hwhole, hcaptured⟩ := hmatches pattern List.mem_cons_self found hfound
      simp only [Option.map_some, ofMatch_lower hignores.readFloat hwhole hcaptured]

/-- A reply and the reply in lower case have the same cooldown if the ranges in it, and in what
custom patterns find in it, are read alike in both. -/
theorem parseCooldownTimedelta_lower (hignores : library.IgnoresCase text customPatterns)
    (halike : RangesAlike text) (hmatches : library.MatchesAlike text customPatterns) :
    library.parseCooldownTimedelta (lower text) customPatterns =
      library.parseCooldownTimedelta text customPatterns := by
  simp only [Library.parseCooldownTimedelta, List.map_eq_nil_iff,
    customDuration_lower hignores hmatches, extractFirstDuration_lower halike]

/-- Without custom patterns the library is not used. -/
def noLibrary : Library := ⟨fun _ _ => none, fun _ => none⟩

theorem parseCooldownTimedelta_lower_units :
    noLibrary.parseCooldownTimedelta (lower "2H 30M".toList) [] =
      noLibrary.parseCooldownTimedelta "2H 30M".toList [] :=
  parseCooldownTimedelta_lower ⟨by simp, fun _ => rfl⟩ (by decide +kernel)
    (by simp [Library.MatchesAlike])

theorem range_in_upper_case : noLibrary.parseCooldownTimedelta "1H-2H".toList [] = .ok (some 3600) ∧
      noLibrary.parseCooldownTimedelta (lower "1H-2H".toList) [] = .ok none := by
  decide +kernel

end Lower

end SignPulse.AdaptiveSchedule
