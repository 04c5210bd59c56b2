import SignPulse.Flow.ComparedLiterals

/-!
# The parts of a text

What `_split_top_level` makes of a text: joined with the separator the parts give the text back,
and no cut is made in quotes or in parentheses.
-/

namespace SignPulse.Conditions

/-- Where a reader stands: in which quotes, and how deep in parentheses. -/
abbrev Standing := Option Char × ℕ

def outside : Standing := (none, 0)

/-- The place after a character.  In quotes only their end counts, and a parenthesis that closes
nothing is a character like any other. -/
def advance : Standing → Char → Standing
  | (some quote, depth), c => (if c = quote then none else some quote, depth)
  | (none, depth), c =>
    if isQuote c then (some c, depth)
    else if c = '(' then (none, depth + 1)
    else if c = ')' then (none, depth - 1)
    else (none, depth)

def placeAfter (place : Standing) (text : List Char) : Standing := text.foldl advance place

/-- The parts of a text from a place on, with so many cuts left if they are limited. -/
inductive Parts (sep : List Char) : Option ℕ → Standing → List Char → List (List Char) → Prop where
  | done (left : Option ℕ) (place : Standing) : Parts sep left place [] [[]]
  | cut {left : Option ℕ} {rest : List Char} {parts : List (List Char)} (hleft : left ≠ some 0)
      (hrest : Parts sep (left.map (· - 1)) outside rest parts) :
      Parts sep left outside (sep ++ rest) ([] :: parts)
  | keep {left : Option ℕ} {place : Standing} {c : Char} {rest : List Char}
      {parts : List (List Char)}
      (hkept : place = outside → left ≠ some 0 → isPlain c = true → ¬ sep <+: c :: rest)
      (hrest : Parts sep left (advance place c) rest parts) :
      Parts sep left place (c :: rest) (consHead c parts)

/-- The parts give the text back, a limit is kept, every cut is outside quotes and parentheses,
and a separator that is left in a part is inside, unless the limit has been reached. -/
structure Division (text sep : List Char) (maxsplit : Option ℕ) (parts : List (List Char)) :
    Prop where
  join : sep.intercalate parts = text
  bounded : ∀ most, maxsplit = some most → parts.length ≤ most + 1
  cuts : (∀ c ∈ sep, isPlain c = true) → ∀ front back, parts = front ++ back → front ≠ [] →
    back ≠ [] → placeAfter outside (sep.intercalate front) = outside
  inside : (∀ c ∈ sep.head?, isPlain c = true) → ∀ front part back,
    parts = front ++ part :: back → (back = [] → maxsplit ≠ some front.length) →
      ∀ before after, part = before ++ sep ++ after → placeAfter outside before ≠ outside

section Parts

variable {sep text : List Char} {left : Option ℕ} {place : Standing} {parts : List (List Char)}

theorem parts_splitFrom (hsep : sep ≠ []) (quote : Option Char) (depth : ℕ) (left : Option ℕ)
    (skip : ℕ) (text : List Char) :
    Parts sep left (quote, depth) (text.drop skip) (splitFrom sep quote depth left skip text) := by
  fun_induction splitFrom sep quote depth left skip text with
  | case1 => simpa using Parts.done _ _
  | case2 quote depth left skip c rest ih => simpa using ih
  | case3 depth left quote c rest ih => exact .keep (by simp [outside]) ih
  | case4 depth left c rest hquote ih =>
    exact .keep (by simp [isPlain, hquote]) (by simpa [advance, hquote] using ih)
  | case5 depth left rest hquote ih =>
    exact .keep (by simp [isPlain]) (by simpa [advance, hquote] using ih)
  | case6 depth left rest hquote hopen ih =>
    exact .keep (by simp [isPlain]) (by simpa [advance, hquote] using ih)
  | case7 depth left c rest hquote hopen hclose hcut ih =>
    obtain ⟨rfl, hleft, tail, htail⟩ := hcut
    cases sep with
    | nil => exact absurd rfl hsep
    | cons first others =>
      obtain ⟨rfl, rfl⟩ := List.cons.inj htail
      exact .cut hleft (by simpa [outside] using ih)
  | case8 depth left c rest hquote hopen hclose hkept ih =>
    refine .keep (fun hplace hleft _ hstarts => hkept ⟨?_, hleft, hstarts⟩) ?_
    · exact congrArg Prod.snd hplace
    · simpa [advance, hquote, hopen, hclose] using ih

theorem Parts.ne_nil (hparts : Parts sep left place text parts) : parts ≠ [] := by
  cases hparts with
  | done => simp
  | cut => simp
  | @keep _ _ _ _ parts _ _ => cases parts <;> simp [consHead]

theorem Parts.exists_cons (hparts : Parts sep left place text parts) :
    ∃ part rest, parts = part :: rest := List.exists_cons_of_ne_nil hparts.ne_nil

theorem intercalate_consHead (c : Char) (part : List Char) :
    sep.intercalate ((c :: part) :: parts) = c :: sep.intercalate (part :: parts) := by
  cases parts <;> simp [List.intercalate]

theorem intercalate_nil_cons (hparts : parts ≠ []) :
    sep.intercalate ([] :: parts) = sep ++ sep.intercalate parts := by
  cases parts with
  | nil => exact absurd rfl hparts
  | cons part rest => simp [List.intercalate]

theorem Parts.join (hparts : Parts sep left place text parts) : sep.intercalate parts = text := by
  induction hparts with
  | done => rfl
  | cut _ hrest ih => rw [intercalate_nil_cons hrest.ne_nil, ih]
  | keep _ hrest ih =>
    obtain ⟨part, others, rfl⟩ := hrest.exists_cons
    rw [consHead, intercalate_consHead, ih]

theorem Parts.length_le (hparts : Parts sep left place text parts) (most : ℕ)
    (hleft : left = some most) : parts.length ≤ most + 1 := by
  induction hparts generalizing most with
  | done => simp
  | cut hne _ ih =>
    subst hleft
    have hmost : most ≠ 0 := fun hzero => hne (congrArg some hzero)
    have hrest := ih (most - 1) rfl
    simp only [List.length_cons]
    omega
  | keep _ hrest ih =>
    obtain ⟨part, others, rfl⟩ := hrest.exists_cons
    simpa [consHead] using ih most hleft

theorem placeAfter_plain (hplain : ∀ c ∈ text, isPlain c = true) :
    placeAfter outside text = outside := by
  induction text with
  | nil => rfl
  | cons c rest ih =>
    have hc := hplain c List.mem_cons_self
    simp only [isPlain, Bool.and_eq_true, Bool.not_eq_true', decide_eq_true_eq] at hc
    have hstep : advance outside c = outside := by simp [advance, outside, hc]
    rw [placeAfter, List.foldl_cons, hstep]
    exact ih fun d hd => hplain d (List.mem_cons_of_mem _ hd)

theorem Parts.cuts (hparts : Parts sep left place text parts)
    (hplain : ∀ c ∈ sep, isPlain c = true) (front back : List (List Char))
    (hcut : parts = front ++ back) (hfront : front ≠ []) (hback : back ≠ []) :
    placeAfter place (sep.intercalate front) = outside := by
  obtain ⟨first, front, rfl⟩ := List.exists_cons_of_ne_nil hfront
  induction hparts generalizing first front with
  | done =>
    exact absurd (List.append_eq_nil_iff.mp (List.cons.inj hcut).2.symm).2 hback
  | cut _ hrest ih =>
    obtain ⟨rfl, rfl⟩ := List.cons.inj hcut
    cases front with
    | nil => rfl
    | cons second front =>
      rw [intercalate_nil_cons (List.cons_ne_nil _ _), placeAfter, List.foldl_append]
      change placeAfter (placeAfter outside sep) _ = outside
      rw [placeAfter_plain hplain]
      exact ih second front rfl (List.cons_ne_nil _ _)
  | keep _ hrest ih =>
    obtain ⟨part, others, rfl⟩ := hrest.exists_cons
    obtain ⟨rfl, rfl⟩ := List.cons.inj hcut
    rw [intercalate_consHead]
    exact ih part front rfl (List.cons_ne_nil _ _)

theorem Parts.inside (hparts : Parts sep left place text parts) (hsep : sep ≠ [])
    (hfirst : ∀ c ∈ sep.head?, isPlain c = true) (front back : List (List Char))
    (part : List Char) (hpart : parts = front ++ part :: back)
    (hlast : back = [] → left ≠ some front.length) (before after : List Char)
    (hfound : part = before ++ sep ++ after) :
    placeAfter (if front = [] then place else outside) before ≠ outside := by
  induction hparts generalizing front part before with
  | done =>
    have hnil : part = [] := by cases front <;> simp_all
    simp_all
  | @cut left rest parts hleft hrest ih =>
    cases front with
    | nil =>
      simp_all
    | cons first front =>
      obtain ⟨-, rfl⟩ := List.cons.inj hpart
      have hbound : back = [] → left.map (· - 1) ≠ some front.length := by
        intro hback hsome
        have hne := hlast hback
        cases left with
        | none => simp at hsome
        | some most =>
          simp only [Option.map_some, Option.some.injEq, List.length_cons, ne_eq] at *
          omega
      simpa using ih front part rfl hbound before hfound
  | @keep left place c rest parts hkept hrest ih =>
    obtain ⟨head, others, rfl⟩ := hrest.exists_cons
    cases front with
    | cons first front =>
      obtain ⟨-, rfl⟩ := List.cons.inj hpart
      simpa using ih (head :: front) part rfl (by simpa using hlast) before hfound
    | nil =>
      obtain ⟨rfl, rfl⟩ := List.cons.inj hpart
      cases before with
      | cons d before =>
        obtain ⟨rfl, hhead⟩ := List.cons.inj hfound
        simpa [placeAfter] using ih [] head rfl (by simpa using hlast) before hhead
      | nil =>
        intro hplace
        -- The part begins with the separator, so the text does.
        have hstarts : sep <+: c :: rest := by
          have hhead : head <+: rest := by
            rw [← hrest.join]
            cases others <;> simp [List.intercalate]
          exact List.IsPrefix.trans ⟨after, hfound.symm⟩ ((List.prefix_cons_inj c).mpr hhead)
        have hleft : left ≠ some 0 := by
          intro hzero
          have hlength := hrest.length_le 0 hzero
          exact hlast (by simpa using hlength) hzero
        refine hkept (by simpa [placeAfter] using hplace) hleft (hfirst c ?_) hstarts
        cases sep with
        | nil => exact absurd rfl hsep
        | cons first others => exact congrArg some (List.cons.inj hfound).1.symm

end Parts

theorem splitTopLevel_division {sep : List Char} (hsep : sep ≠ []) (text : List Char)
    (maxsplit : Option ℕ) : Division text sep maxsplit (splitTopLevel text sep maxsplit) := by
  have hparts : Parts sep maxsplit outside text (splitTopLevel text sep maxsplit) :=
    parts_splitFrom hsep none 0 maxsplit 0 text
  refine ⟨hparts.join, hparts.length_le, hparts.cuts, fun hfirst front part back hpart hlast => ?_⟩
  intro before after hfound
  simpa using hparts.inside hsep hfirst front back part hpart hlast before after hfound

theorem splitTopLevel_division_and : Division "(a and b) and c".toList " and ".toList none
    (splitTopLevel "(a and b) and c".toList " and ".toList none) :=
  splitTopLevel_division (by decide) _ _

/-- There is no cut at a separator that opens a parenthesis. -/
theorem uncut_parenthesis :
    ∃ part ∈ splitTopLevel "a(b".toList ['('] none, ∃ before after,
      part = before ++ ['('] ++ after ∧ placeAfter outside before = outside :=
  ⟨"a(b".toList, by decide, "a".toList, "b".toList, by decide⟩

end SignPulse.Conditions
