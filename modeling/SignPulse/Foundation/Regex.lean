import Mathlib.Data.List.TakeWhile
import SignPulse.Foundation.PyText

/-!
# Regular expressions

The character classes of Python's `re` on texts, and what a greedy repetition of a class can take.
-/

namespace SignPulse.Foundation

/-- The zeros of the decimal digits in the Unicode table; the other nine follow each. -/
def digitZeros : List ℕ :=
  [0x30, 0x660, 0x6f0, 0x7c0, 0x966, 0x9e6, 0xa66, 0xae6, 0xb66, 0xbe6, 0xc66, 0xce6, 0xd66,
    0xde6, 0xe50, 0xed0, 0xf20, 0x1040, 0x1090, 0x17e0, 0x1810, 0x1946, 0x19d0, 0x1a80,
    0x1a90, 0x1b50, 0x1bb0, 0x1c40, 0x1c50, 0xa620, 0xa8d0, 0xa900, 0xa9d0, 0xa9f0, 0xaa50,
    0xabf0, 0xff10, 0x104a0, 0x10d30, 0x11066, 0x110f0, 0x11136, 0x111d0, 0x112f0, 0x11450,
    0x114d0, 0x11650, 0x116c0, 0x11730, 0x118e0, 0x11950, 0x11c50, 0x11d50, 0x11da0,
    0x16a60, 0x16ac0, 0x16b50, 0x1d7ce, 0x1d7d8, 0x1d7e2, 0x1d7ec, 0x1d7f6, 0x1e140,
    0x1e2f0, 0x1e950, 0x1fbf0]

/-- The value of a decimal digit. -/
def decimalValue (c : Char) : Option ℕ :=
  (digitZeros.find? fun base => base ≤ c.toNat && c.toNat ≤ base + 9).map (c.toNat - ·)

/-- `\d` of a regular expression. -/
def isPyDigit (c : Char) : Bool := (decimalValue c).isSome

theorem isPyDigit_iff {c : Char} :
    isPyDigit c = true ↔ ∃ base ∈ digitZeros, base ≤ c.toNat ∧ c.toNat ≤ base + 9 := by
  simp [isPyDigit, decimalValue]

theorem not_space_of_digit {c : Char} (hdigit : isPyDigit c = true) : isPySpace c = false := by
  obtain ⟨base, hmem, hle, hge⟩ := isPyDigit_iff.1 hdigit
  have hapart : ∀ base ∈ digitZeros, 32 < base ∧ (base + 9 < 0x85 ∨ 0xA0 < base) ∧
      (base + 9 < 0x1680 ∨ 0x1680 < base) ∧ (base + 9 < 0x2000 ∨ 0x3000 < base) := by
    decide
  have hcases := hapart base hmem
  simp [isPySpace]
  omega

def decimalNumber (digits : List Char) : ℕ :=
  digits.foldl (fun n c => 10 * n + (decimalValue c).getD 0) 0

/-- A letter as `re.IGNORECASE` compares it: the long s, the Kelvin sign and two more letters i
count as ASCII. -/
def foldLetter (c : Char) : Char :=
  if 'A' ≤ c ∧ c ≤ 'Z' then Char.ofNat (c.toNat + 32)
  else match c.toNat with
    | 0x130 | 0x131 => 'i'
    | 0x17F => 's'
    | 0x212A => 'k'
    | _ => c

/-- The ASCII letters in lower case. -/
def lowerLetter (c : Char) : Char :=
  if 'A' ≤ c ∧ c ≤ 'Z' then Char.ofNat (c.toNat + 32) else c

/-- A class of characters.  `ignoringCase` lists lower case letters. -/
inductive CharClass where
  | digit
  | space
  | oneOf (chars : List Char)
  | ignoringCase (chars : List Char)
  | either (first second : CharClass)
  | not (others : CharClass)

def CharClass.holds : CharClass → Char → Bool
  | digit, c => isPyDigit c
  | space, c => isPySpace c
  | oneOf chars, c => c ∈ chars
  | ignoringCase chars, c => foldLetter c ∈ chars
  | either first second, c => first.holds c || second.holds c
  | not others, c => !others.holds c

inductive Regex where
  | empty
  | one (k : CharClass)
  | many (k : CharClass) (least : ℕ)
  | seq (first second : Regex)
  | alt (first second : Regex)
  | notAhead (k : CharClass)
  | notBehind (ks : List CharClass)

namespace Regex

/-- What a repetition of a class can take, and what it leaves, the longest first. -/
def splits (test : Char → Bool) (least most : ℕ) (text : List Char) :
    List (List Char × List Char) :=
  let longest := min (text.takeWhile test).length most
  (((List.range (longest + 1)).filter (least ≤ ·)).reverse).map text.splitAt

theorem mem_splits {test : Char → Bool} {least most : ℕ} {text taken rest : List Char} :
    (taken, rest) ∈ splits test least most text ↔ text = taken ++ rest ∧
      (∀ c ∈ taken, test c = true) ∧ least ≤ taken.length ∧ taken.length ≤ most := by
  simp only [splits, List.mem_map, List.mem_reverse, List.mem_filter, List.mem_range,
    decide_eq_true_eq, List.splitAt_eq, Prod.mk.injEq]
  constructor
  · rintro ⟨n, ⟨hlongest, hleast⟩, rfl, rfl⟩
    have hrun : n ≤ (text.takeWhile test).length := by omega
    have hle := hrun.trans (List.takeWhile_prefix test).length_le
    have htake : text.take n <+: text.takeWhile test :=
      List.prefix_of_prefix_length_le (List.take_prefix n text) (List.takeWhile_prefix test)
        (by rw [List.length_take_of_le hle]; exact hrun)
    refine ⟨(List.take_append_drop n text).symm, fun c hc => ?_, ?_, ?_⟩
    · exact List.mem_takeWhile_imp (htake.subset hc)
    all_goals
      rw [List.length_take_of_le hle]
      omega
  · rintro ⟨rfl, htest, hleast, hmost⟩
    refine ⟨taken.length, ⟨?_, hleast⟩, List.take_left, List.drop_left⟩
    rw [List.takeWhile_append_of_pos htest, List.length_append]
    omega

/-! ## Matches -/

/-- The text before a place, read backwards, ends in characters of these classes. -/
def endsIn (ks : List CharClass) (before : List Char) : Bool :=
  ks.length ≤ before.length && (ks.reverse.zip before).all fun (k, c) => k.holds c

/-- What can be matched at a place, and what is left, in the order in which it is tried.  The text
before the place is read backwards. -/
def matchesAt : Regex → List Char → List Char → List (List Char × List Char)
  | empty, _, text => [([], text)]
  | one _, _, [] => []
  | one k, _, c :: rest => if k.holds c then [([c], rest)] else []
  | many k least, _, text => splits k.holds least text.length text
  | seq first second, before, text =>
    (first.matchesAt before text).flatMap fun (taken, rest) =>
      (second.matchesAt (taken.reverse ++ before) rest).map fun (more, left) =>
        (taken ++ more, left)
  | alt first second, before, text => first.matchesAt before text ++ second.matchesAt before text
  | notAhead k, _, text => if text.head?.any k.holds then [] else [([], text)]
  | notBehind ks, before, text => if endsIn ks before then [] else [([], text)]

/-- `re.sub` from a place on, for an expression that matches no empty text.  The first characters
belong to a match already. -/
def sub (r : Regex) (new : List Char → List Char) : List Char → ℕ → List Char → List Char
  | _, _, [] => []
  | before, skip + 1, c :: rest => sub r new (c :: before) skip rest
  | before, 0, c :: rest =>
    match (r.matchesAt before (c :: rest)).head? with
    | some (taken, _) => new taken ++ sub r new (c :: before) (taken.length - 1) rest
    | none => c :: sub r new (c :: before) 0 rest

def classes : Regex → List CharClass
  | empty => []
  | one k | many k _ | notAhead k => [k]
  | seq first second | alt first second => first.classes ++ second.classes
  | notBehind ks => ks

/-! ## Texts in which the characters are changed -/

section Changed

variable {f : Char → Char} {r : Regex} {before rest whole : List Char}

/-- The change is not seen by a class. -/
def Blind (f : Char → Char) (k : CharClass) : Prop := ∀ c, k.holds (f c) = k.holds c

/-- What is the same of each ASCII letter in both cases. -/
def ignoresCase {β : Type*} [DecidableEq β] (g : Char → β) : Bool :=
  (List.range 26).all fun i => g (Char.ofNat (97 + i)) = g (Char.ofNat (65 + i))

theorem same_lowerLetter {β : Type*} [DecidableEq β] {g : Char → β} (hg : ignoresCase g = true)
    (c : Char) : g (lowerLetter c) = g c := by
  by_cases hupper : 'A' ≤ c ∧ c ≤ 'Z'
  · have hle : 65 ≤ c.toNat ∧ c.toNat ≤ 90 := hupper
    have hchars := List.all_eq_true.1 hg (c.toNat - 65) (List.mem_range.2 (by omega))
    have hlow : 97 + (c.toNat - 65) = c.toNat + 32 := by omega
    have hhigh : 65 + (c.toNat - 65) = c.toNat := by omega
    rw [hlow, hhigh, Char.ofNat_toNat, decide_eq_true_eq] at hchars
    rwa [lowerLetter, if_pos hupper]
  · rw [lowerLetter, if_neg hupper]

theorem blind_lowerLetter (hr : (r.classes.all fun k => ignoresCase k.holds) = true) :
    ∀ k ∈ r.classes, Blind lowerLetter k := fun k hk =>
  same_lowerLetter (List.all_eq_true.1 hr k hk)

theorem splits_map {test : Char → Bool} (htest : ∀ c, test (f c) = test c) (least most : ℕ)
    (text : List Char) : splits test least most (text.map f) =
      (splits test least most text).map (Prod.map (List.map f) (List.map f)) := by
  have hrun : test ∘ f = test := funext htest
  simp [splits, List.takeWhile_map, hrun, Function.comp_def, Prod.map]

theorem endsIn_map {ks : List CharClass} (hblind : ∀ k ∈ ks, Blind f k) (before : List Char) :
    endsIn ks (before.map f) = endsIn ks before := by
  have hall : ((ks.reverse.zip (before.map f)).all fun (k, c) => k.holds c) =
      (ks.reverse.zip before).all fun (k, c) => k.holds c := by
    rw [List.zip_map_right, List.all_map, Bool.eq_iff_iff, List.all_eq_true, List.all_eq_true]
    refine forall₂_congr fun (k, c) hmem => ?_
    have hk := hblind k (List.mem_reverse.1 (List.of_mem_zip hmem).1) c
    exact iff_of_eq (congrArg (· = true) hk)
  rw [endsIn, endsIn, hall, List.length_map]

theorem matchesAt_map (hblind : ∀ k ∈ r.classes, Blind f k) (before text : List Char) :
    r.matchesAt (before.map f) (text.map f) =
      (r.matchesAt before text).map (Prod.map (List.map f) (List.map f)) := by
  induction r generalizing before text with
  | empty => rfl
  | one k =>
    cases text with
    | nil => rfl
    | cons c rest =>
      have hk := hblind k (List.mem_singleton_self k) c
      simp only [matchesAt, List.map_cons, hk]
      split <;> rfl
  | many k least =>
    simp only [matchesAt, List.length_map]
    exact splits_map (hblind k (List.mem_singleton_self k)) _ _ _
  | seq first second ihfirst ihsecond =>
    simp only [classes, List.mem_append] at hblind
    simp only [matchesAt, ihfirst fun k hk => hblind k (.inl hk), List.flatMap_map,
      List.map_flatMap, List.map_map]
    refine List.flatMap_congr fun (taken, rest) _ => ?_
    have hsecond := ihsecond (fun k hk => hblind k (.inr hk)) (taken.reverse ++ before) rest
    rw [List.map_append, List.map_reverse] at hsecond
    simp only [Prod.map_apply, hsecond, List.map_map]
    refine List.map_congr_left fun (more, left) _ => ?_
    simp
  | alt first second ihfirst ihsecond =>
    simp only [classes, List.mem_append] at hblind
    simp only [matchesAt, ihfirst fun k hk => hblind k (.inl hk),
      ihsecond fun k hk => hblind k (.inr hk), List.map_append]
  | notAhead k =>
    have hhead : (text.map f).head?.any k.holds = text.head?.any k.holds := by
      cases text with
      | nil => rfl
      | cons c rest => exact hblind k (List.mem_singleton_self k) c
    rw [matchesAt, matchesAt, hhead, apply_ite (List.map _)]
    rfl
  | notBehind ks =>
    have hks : endsIn ks (before.map f) = endsIn ks before := endsIn_map hblind before
    rw [matchesAt, matchesAt, hks, apply_ite (List.map _)]
    rfl

/-- The first matches at a place of a text and of the changed one are the same. -/
def AlikeAt (f : Char → Char) (r : Regex) (before rest : List Char) : Prop :=
  (r.matchesAt (before.map f) (rest.map f)).head? =
    (r.matchesAt before rest).head?.map (Prod.map (List.map f) (List.map f))

/-- So they are at every place of the text. -/
def Alike (f : Char → Char) (r : Regex) (whole : List Char) : Prop :=
  ∀ n ≤ whole.length, AlikeAt f r (whole.take n).reverse (whole.drop n)

instance (f : Char → Char) (r : Regex) (whole : List Char) : Decidable (Alike f r whole) :=
  inferInstanceAs (Decidable (∀ n ≤ whole.length, _ = _))

theorem Alike.at_split (halike : Alike f r whole) (hsplit : before.reverse ++ rest = whole) :
    AlikeAt f r before rest := by
  subst hsplit
  have hplace := halike before.length (by simp)
  rwa [List.take_left' (List.length_reverse ..), List.drop_left' (List.length_reverse ..),
    List.reverse_reverse] at hplace

theorem alike_of_blind (hblind : ∀ k ∈ r.classes, Blind f k) (whole : List Char) :
    Alike f r whole := fun n _ => by
  rw [AlikeAt, matchesAt_map hblind, List.head?_map]

theorem sub_map {new : List Char → List Char} (hnew : ∀ taken, new (taken.map f) = (new taken).map f)
    (halike : Alike f r whole) (hsplit : before.reverse ++ rest = whole) (skip : ℕ) :
    sub r new (before.map f) skip (rest.map f) = (sub r new before skip rest).map f := by
  induction rest generalizing before skip with
  | nil => cases skip <;> rfl
  | cons c rest ih =>
    have hrest := ih (show (c :: before).reverse ++ rest = whole by simpa using hsplit)
    cases skip with
    | succ skip => exact hrest skip
    | zero =>
      have hplace := halike.at_split hsplit
      rw [AlikeAt, List.map_cons] at hplace
      rw [List.map_cons, sub, hplace, sub]
      cases (r.matchesAt before (c :: rest)).head? with
      | none => simpa using hrest 0
      | some found =>
        have hmore := hrest (found.1.length - 1)
        simp only [List.map_cons] at hmore
        simp [hnew, hmore]

end Changed

end Regex

end SignPulse.Foundation
