import Mathlib.Algebra.Group.Nat.Defs
import SignPulse.Foundation.Regex

/-!
# Arithmetic in replies

`ArithmeticFastSolver` finds two numbers with an operator between them and evaluates these.  In a
longer expression that is the first pair which no digit and no `-` stands beside.
-/

namespace SignPulse.Arithmetic

open Foundation
open Regex (splits mem_splits)

inductive Operator where
  | add
  | sub
  | mul
  | floorDiv
  deriving DecidableEq

def readOperator (c : Char) : Option Operator :=
  if c = '+' then some .add else if c = '-' then some .sub
  else if c = '*' ∨ c = '×' then some .mul else if c = '/' ∨ c = '÷' then some .floorDiv
  else none

def Operator.text : Operator → List Char
  | .add => ['+']
  | .sub => ['-']
  | .mul => ['*']
  | .floorDiv => ['/', '/']

/-- The groups of a match. -/
structure Candidate where
  left : List Char
  op : Operator
  right : List Char
  deriving DecidableEq

/-- `[\d\-]`. -/
def isBeside (c : Option Char) : Bool := c.any fun c => isPyDigit c || c = '-'

/-- The matches of `_CANDIDATE_REGEX` at a place, `before` being the character before it. -/
def candidates (before : Option Char) (text : List Char) : List Candidate :=
  if isBeside before then []
  else (splits isPyDigit 1 8 text).flatMap fun (left, rest) =>
    (splits isPySpace 0 rest.length rest).flatMap fun (_, rest) =>
      match rest with
      | [] => []
      | c :: rest =>
        match readOperator c with
        | none => []
        | some op =>
          (splits isPySpace 0 rest.length rest).flatMap fun (_, rest) =>
            (splits isPyDigit 1 8 rest).flatMap fun (right, rest) =>
              if isBeside rest.head? then [] else [⟨left, op, right⟩]

/-- `_CANDIDATE_REGEX.search`. -/
def search : Option Char → List Char → Option Candidate
  | _, [] => none
  | before, c :: rest => (candidates before (c :: rest)).head?.or (search (some c) rest)

/-- A number as `ast.parse` reads it: ASCII digits, and a zero first only before zeros. -/
def readLiteral (digits : List Char) : Option ℤ :=
  if digits.all (·.isDigit) && (digits.head? ≠ some '0' || digits.all (· = '0')) then
    some (decimalNumber digits)
  else none

def Operator.apply (op : Operator) (a b : ℤ) : Option ℤ :=
  match op with
  | .add => some (a + b)
  | .sub => some (a - b)
  | .mul => some (a * b)
  | .floorDiv => if b = 0 then none else some (a.fdiv b)

def maxExprLen : ℕ := 32

def maxResult : ℕ := 10 ^ 8

def Candidate.expr (found : Candidate) : List Char :=
  found.left ++ ' ' :: found.op.text ++ ' ' :: found.right

/-- `ArithmeticFastSolver.solve`.  The tree of such an expression is one binary operation of two
integers, which the walk over it lets pass. -/
def solve (text : List Char) : Option ℤ :=
  match search none text with
  | none => none
  | some found =>
    if found.expr.length > maxExprLen then none
    else
      match readLiteral found.left, readLiteral found.right with
      | some a, some b => (found.op.apply a b).filter fun res => res.natAbs ≤ maxResult
      | _, _ => none

example : solve "80 ÷ 4 = ?".toList = some 20 := by decide

/-! ## Expressions -/

/-- An operator and the number after it, with the blanks. -/
structure Link where
  space : List Char
  sign : Char
  op : Operator
  gap : List Char
  number : List Char

/-- What stands before the number. -/
def Link.lead (link : Link) : List Char := link.space ++ link.sign :: link.gap

def Link.text (link : Link) : List Char := link.lead ++ link.number

def IsNumber (digits : List Char) : Prop :=
  (∀ c ∈ digits, isPyDigit c = true) ∧ 1 ≤ digits.length ∧ digits.length ≤ 8

structure Link.Valid (link : Link) : Prop where
  space : ∀ c ∈ link.space, isPySpace c = true
  sign : readOperator link.sign = some link.op
  gap : ∀ c ∈ link.gap, isPySpace c = true
  number : IsNumber link.number

def render (first : List Char) (links : List Link) : List Char :=
  first ++ links.flatMap Link.text

/-- The usual precedence: `add` takes the term that is being read to the terms before it. -/
def evalFrom (add : ℤ → ℤ) (term : ℤ) : List (Operator × ℤ) → Option ℤ
  | [] => some (add term)
  | (.add, n) :: rest => evalFrom (add term + ·) n rest
  | (.sub, n) :: rest => evalFrom (add term - ·) n rest
  | (.mul, n) :: rest => evalFrom add (term * n) rest
  | (.floorDiv, n) :: rest => if n = 0 then none else evalFrom add (term.fdiv n) rest

def wholeValue (first : List Char) (links : List Link) : Option ℤ :=
  evalFrom id (decimalNumber first) (links.map fun link => (link.op, (decimalNumber link.number : ℤ)))

/-- Two numbers with an operator between them. -/
def HasPair (text : List Char) : Prop :=
  ∃ left link, IsNumber left ∧ Link.Valid link ∧ left ++ link.text <:+: text

/-- The expression is all that its text has of one: its numbers are whole, and no pair has its
first number before it or its last number after it. -/
structure OnlyExpression (before first : List Char) (links : List Link) (after : List Char) :
    Prop where
  number : IsNumber first
  valid : ∀ link ∈ links, link.Valid
  two : links ≠ []
  starts : ∀ c ∈ before.getLast?, isPyDigit c = false
  ends : ∀ c ∈ after.head?, isPyDigit c = false
  alone_before : ¬ HasPair (before ++ first)
  alone_after : ¬ HasPair ((links.getLast?.elim first Link.number) ++ after)

/-! ## Matches -/

section Matches

variable {text rest left right before after : List Char} {link other : Link} {c : Char}
  {found : Candidate} {previous : Option Char}

theorem plain_of_operator {op : Operator} (hsign : readOperator c = some op) :
    isPyDigit c = false ∧ isPySpace c = false := by
  have hmem : c = '+' ∨ c = '-' ∨ c = '*' ∨ c = '×' ∨ c = '/' ∨ c = '÷' := by
    unfold readOperator at hsign
    grind
  rcases hmem with rfl | rfl | rfl | rfl | rfl | rfl <;> exact ⟨by decide, by decide⟩

theorem Link.Valid.lead_plain (hvalid : link.Valid) : ∀ c ∈ link.lead, isPyDigit c = false := by
  have hspace : ∀ c, isPySpace c = true → isPyDigit c = false := fun c hspace => by
    by_contra hdigit
    rw [not_space_of_digit (by simpa using hdigit)] at hspace
    contradiction
  intro c hc
  rcases List.mem_append.1 hc with hc | hc
  · exact hspace c (hvalid.space c hc)
  · rcases List.mem_cons.1 hc with rfl | hc
    · exact (plain_of_operator hvalid.sign).1
    · exact hspace c (hvalid.gap c hc)

theorem lead_ne_nil (link : Link) : link.lead ≠ [] := by simp [Link.lead]

/-- A run of a class is known by where it ends. -/
theorem run_unique {test : Char → Bool} {rest after : List Char}
    (hleft : ∀ c ∈ left, test c = true) (hright : ∀ c ∈ right, test c = true)
    (hrest : ∀ c ∈ rest.head?, test c = false) (hafter : ∀ c ∈ after.head?, test c = false)
    (heq : left ++ rest = right ++ after) : left = right ∧ rest = after := by
  have hrun : ∀ {run rest : List Char}, (∀ c ∈ run, test c = true) →
      (∀ c ∈ rest.head?, test c = false) → (run ++ rest).takeWhile test = run :=
    fun {run rest} hrun hrest => by
      rw [List.takeWhile_append_of_pos hrun]
      cases rest with
      | nil => simp
      | cons c rest => simp [hrest c rfl]
  have hsame := congrArg (List.takeWhile test) heq
  rw [hrun hleft hrest, hrun hright hafter] at hsame
  subst hsame
  exact ⟨rfl, List.append_cancel_left heq⟩

theorem mem_candidates : found ∈ candidates previous text ↔ isBeside previous = false ∧
    IsNumber found.left ∧ ∃ (link : Link) (rest : List Char), link.Valid ∧
      text = found.left ++ (link.text ++ rest) ∧ isBeside rest.head? = false ∧
        link.op = found.op ∧ link.number = found.right := by
  unfold candidates
  split
  · next hbeside => simp [hbeside]
  · next hbeside =>
    rw [and_iff_right (by simpa using hbeside)]
    simp only [List.mem_flatMap, Prod.exists, mem_splits]
    constructor
    · rintro ⟨left, _, ⟨rfl, hleft⟩, space, middle, ⟨rfl, hspace, -⟩, hfound⟩
      split at hfound
      · contradiction
      · next sign middle =>
        split at hfound
        · contradiction
        · next op hsign =>
          simp only [List.mem_flatMap, Prod.exists, mem_splits] at hfound
          obtain ⟨gap, _, ⟨rfl, hgap, -⟩, right, rest, ⟨rfl, hright⟩, hfound⟩ := hfound
          split at hfound
          · contradiction
          · next hrest =>
            obtain rfl := List.mem_singleton.1 hfound
            refine ⟨hleft, ⟨space, sign, op, gap, right⟩, rest, ⟨hspace, hsign, hgap, hright⟩, ?_,
              by simpa using hrest, rfl, rfl⟩
            simp [Link.text, Link.lead]
    · rintro ⟨hleft, ⟨space, sign, op, gap, right⟩, rest, hvalid, rfl, hrest, rfl, rfl⟩
      refine ⟨found.left, _, ⟨rfl, hleft⟩, space, sign :: (gap ++ (found.right ++ rest)),
        ⟨by simp [Link.text, Link.lead], hvalid.space, Nat.zero_le _, ?_⟩, ?_⟩
      · simp [Link.text, Link.lead]
      · simp only [hvalid.sign, List.mem_flatMap, Prod.exists, mem_splits]
        refine ⟨gap, _, ⟨rfl, hvalid.gap, Nat.zero_le _, by simp⟩, found.right, rest,
          ⟨rfl, hvalid.number⟩, ?_⟩
        simp [hrest]

theorem head_text_append (hvalid : link.Valid) (rest : List Char) :
    ∀ c ∈ (link.text ++ rest).head?, isPyDigit c = false := by
  intro c hc
  obtain ⟨d, lead, hlead⟩ := List.exists_cons_of_ne_nil (lead_ne_nil link)
  refine hvalid.lead_plain c ?_
  simp only [Link.text, hlead, List.cons_append, List.head?_cons, Option.mem_some_iff] at hc ⊢
  exact hc ▸ List.mem_cons_self

theorem IsNumber.ne_nil (hnumber : IsNumber left) : left ≠ [] :=
  List.ne_nil_of_length_pos hnumber.2.1

theorem IsNumber.head_append (hnumber : IsNumber left) (rest : List Char) :
    ∀ c ∈ (left ++ rest).head?, isPySpace c = false := by
  intro c hc
  obtain ⟨d, others, rfl⟩ := List.exists_cons_of_ne_nil hnumber.ne_nil
  obtain rfl := Option.some.inj hc
  exact not_space_of_digit (hnumber.1 d List.mem_cons_self)

theorem digit_of_isBeside (hrest : isBeside rest.head? = false) :
    ∀ c ∈ rest.head?, isPyDigit c = false := by
  intro c hc
  rw [Option.mem_def.1 hc] at hrest
  simp only [isBeside, Option.any_some, Bool.or_eq_false_iff] at hrest
  exact hrest.1

section

variable (hleft : IsNumber left) (hvalid : link.Valid)
  (hrest : ∀ c ∈ rest.head?, isPyDigit c = false)

include hleft hvalid hrest

theorem mem_unique (hfound : found ∈ candidates previous (left ++ (link.text ++ rest))) :
    found = ⟨left, link.op, link.number⟩ ∧ isBeside rest.head? = false := by
  obtain ⟨-, hnumber, other, after, hother, heq, hafter, hop, hright⟩ := mem_candidates.1 hfound
  obtain ⟨hsame, htext⟩ := run_unique hleft.1 hnumber.1 (head_text_append hvalid rest)
    (head_text_append hother after) heq
  simp only [Link.text, Link.lead, List.append_assoc, List.cons_append] at htext
  obtain ⟨-, htext⟩ := run_unique hvalid.space hother.space
    (by simpa using (plain_of_operator hvalid.sign).2)
    (by simpa using (plain_of_operator hother.sign).2) htext
  obtain ⟨hsigns, htext⟩ := List.cons.inj htext
  obtain ⟨-, htext⟩ := run_unique hvalid.gap hother.gap (hvalid.number.head_append rest)
    (hother.number.head_append after) htext
  obtain ⟨hnumbers, rfl⟩ := run_unique hvalid.number.1 hother.number.1 hrest
    (digit_of_isBeside hafter) htext
  have hops : link.op = other.op :=
    Option.some.inj (hvalid.sign.symm.trans (hsigns ▸ hother.sign))
  refine ⟨?_, hafter⟩
  cases found
  simp_all

theorem head?_candidates : (candidates previous (left ++ (link.text ++ rest))).head? =
      if isBeside previous || isBeside rest.head? then none
      else some ⟨left, link.op, link.number⟩ := by
  cases hmatches : candidates previous (left ++ (link.text ++ rest)) with
  | nil =>
    split
    · rfl
    · next hfree =>
      simp only [Bool.or_eq_true, not_or, Bool.not_eq_true] at hfree
      have hmem : (⟨left, link.op, link.number⟩ : Candidate) ∈
          candidates previous (left ++ (link.text ++ rest)) :=
        mem_candidates.2 ⟨hfree.1, hleft, link, rest, hvalid, rfl, hfree.2, rfl, rfl⟩
      rw [hmatches] at hmem
      contradiction
  | cons found others =>
    have hmem : found ∈ candidates previous (left ++ (link.text ++ rest)) := by
      rw [hmatches]
      exact List.mem_cons_self
    obtain ⟨hfound, hfree⟩ := mem_unique hleft hvalid hrest hmem
    rw [(mem_candidates.1 hmem).1, hfree, hfound]
    rfl

end

/-! ## The search -/

theorem candidates_of_beside (hbeside : isBeside previous = true) :
    candidates previous text = [] := if_pos hbeside

theorem candidates_of_plain (hplain : ∀ c ∈ text.head?, isPyDigit c = false) :
    candidates previous text = [] := by
  refine List.eq_nil_iff_forall_not_mem.2 fun found hfound => ?_
  obtain ⟨-, hnumber, link, rest, -, rfl, -⟩ := mem_candidates.1 hfound
  obtain ⟨c, others, hleft⟩ := List.exists_cons_of_ne_nil hnumber.ne_nil
  have hdigit := hnumber.1 c (by simp [hleft])
  rw [hplain c (by simp [hleft])] at hdigit
  contradiction

theorem getLast?_cons_or (c : Char) (text : List Char) (previous : Option Char) :
    (c :: text).getLast?.or previous = text.getLast?.or (some c) := by
  rw [List.getLast?_cons]
  cases text.getLast? <;> rfl

/-- A part without a match is passed over. -/
theorem search_append (rest : List Char) (hnone : ∀ front back, text = front ++ back → back ≠ [] →
      candidates (front.getLast?.or previous) (back ++ rest) = []) :
    search previous (text ++ rest) = search (text.getLast?.or previous) rest := by
  induction text generalizing previous with
  | nil => simp
  | cons c text ih =>
    have hfirst := hnone [] (c :: text) rfl (List.cons_ne_nil _ _)
    simp only [List.getLast?_nil, Option.none_or, List.cons_append] at hfirst
    rw [List.cons_append, search, hfirst, List.head?_nil, Option.none_or, ih, getLast?_cons_or]
    intro front back hsplit hback
    have hlater := hnone (c :: front) back (by rw [hsplit]; rfl) hback
    rwa [getLast?_cons_or] at hlater

theorem search_plain (hplain : ∀ c ∈ text, isPyDigit c = false) (rest : List Char) :
    search previous (text ++ rest) = search (text.getLast?.or previous) rest := by
  refine search_append rest fun front back hsplit hback => candidates_of_plain fun c hc => ?_
  obtain ⟨d, others, rfl⟩ := List.exists_cons_of_ne_nil hback
  obtain rfl := Option.some.inj hc
  exact hplain d (by simp [hsplit])

theorem search_digits (hdigits : ∀ d ∈ text, isPyDigit d = true) (hc : isPyDigit c = true)
    (rest : List Char) :
    search (some c) (text ++ rest) = search (text.getLast?.or (some c)) rest := by
  refine search_append rest fun front back hsplit _ => candidates_of_beside ?_
  cases hlast : front.getLast? with
  | none => simp [isBeside, hc]
  | some d =>
    have hd := hdigits d (by rw [hsplit]; exact List.mem_append_left _ (List.mem_of_getLast? hlast))
    simp [isBeside, hd]

theorem search_eq_none (hnone : ¬ HasPair text) : search previous text = none := by
  rw [← List.append_nil text]
  refine search_append [] fun front back hsplit _ =>
    List.eq_nil_iff_forall_not_mem.2 fun found hfound => ?_
  obtain ⟨-, hnumber, link, rest, hvalid, heq, -⟩ := mem_candidates.1 hfound
  refine hnone ⟨found.left, link, hnumber, hvalid, front, rest, ?_⟩
  rw [hsplit, ← List.append_nil back, heq]
  simp

/-- The first pair of neighbours which no `-` stands beside. -/
def firstFree (previous : Option Char) (first : List Char) :
    List Link → List Char → Option Candidate
  | [], _ => none
  | link :: links, after =>
    if isBeside previous || isBeside (links.flatMap Link.text ++ after).head? then
      firstFree link.lead.getLast? link.number links after
    else some ⟨first, link.op, link.number⟩

theorem search_links {first : List Char} {links : List Link} (hfirst : IsNumber first)
    (hvalid : ∀ link ∈ links, link.Valid) (hafter : ∀ c ∈ after.head?, isPyDigit c = false)
    (halone : ¬ HasPair ((links.getLast?.elim first Link.number) ++ after)) :
    search previous (first ++ (links.flatMap Link.text ++ after)) =
      firstFree previous first links after := by
  induction links generalizing previous first with
  | nil => exact search_eq_none halone
  | cons link links ih =>
    obtain ⟨hlink, hlinks⟩ := List.forall_mem_cons.1 hvalid
    have hrest : ∀ c ∈ (links.flatMap Link.text ++ after).head?, isPyDigit c = false := by
      cases links with
      | nil => exact hafter
      | cons next links =>
        rw [List.flatMap_cons, List.append_assoc]
        exact head_text_append (hlinks next List.mem_cons_self) _
    obtain ⟨c, digits, rfl⟩ := List.exists_cons_of_ne_nil hfirst.ne_nil
    obtain ⟨hc, hdigits⟩ := List.forall_mem_cons.1 hfirst.1
    rw [List.flatMap_cons, List.append_assoc, List.cons_append, search, ← List.cons_append,
      head?_candidates hfirst hlink hrest, firstFree]
    split
    · rw [Option.none_or, search_digits hdigits hc, Link.text, List.append_assoc,
        search_plain hlink.lead_plain]
      rw [List.getLast?_eq_some_getLast (lead_ne_nil link), Option.some_or, ih hlink.number hlinks]
      rw [List.getLast?_cons, Option.elim_some] at halone
      cases hlast : links.getLast? <;> simpa [hlast] using halone
    · rfl

/-- No match begins before the expression. -/
theorem search_before {first : List Char} (hfirst : IsNumber first)
    (hstarts : ∀ c ∈ before.getLast?, isPyDigit c = false) (halone : ¬ HasPair (before ++ first))
    (rest : List Char) :
    search none (before ++ (first ++ rest)) = search before.getLast? (first ++ rest) := by
  rw [search_append (first ++ rest), Option.or_none]
  intro front back hsplit hback
  refine List.eq_nil_iff_forall_not_mem.2 fun found hfound => ?_
  obtain ⟨-, hnumber, link, after, hvalid, heq, -⟩ := mem_candidates.1 hfound
  -- The number after the operator begins in `back` or with the expression.
  have hpair : ∀ more, back = found.left ++ link.lead ++ more →
      link.number ++ after ≠ more ++ (first ++ rest) := fun more hback hmore => by
    obtain ⟨d, digits, hd⟩ := List.exists_cons_of_ne_nil hvalid.number.ne_nil
    obtain ⟨e, others, he⟩ := List.exists_cons_of_ne_nil
      (List.append_ne_nil_of_right_ne_nil more hfirst.ne_nil)
    rw [← List.append_assoc, hd, he] at hmore
    obtain ⟨rfl, -⟩ := List.cons.inj hmore
    have hone : IsNumber [d] :=
      ⟨by simpa using hvalid.number.1 d (by simp [hd]), by simp, by simp⟩
    refine halone ⟨found.left, { link with number := [d] }, hnumber,
      ⟨hvalid.space, hvalid.sign, hvalid.gap, hone⟩, front, others, ?_⟩
    rw [hsplit, hback, List.append_assoc front (found.left ++ link.lead ++ more) first,
      List.append_assoc _ more first, he]
    simp [Link.text, Link.lead]
  rw [Link.text, List.append_assoc, ← List.append_assoc found.left,
    List.append_eq_append_iff] at heq
  rcases heq with ⟨more, hlead, hmore⟩ | ⟨more, hlead, hmore⟩
  · cases more with
    | nil => exact hpair [] (by simpa using hlead.symm) (by simpa using hmore.symm)
    | cons c more =>
      -- The expression would begin in the number before the operator or in the blanks.
      have hdigit : isPyDigit c = true := by
        obtain ⟨f, others, hf⟩ := List.exists_cons_of_ne_nil hfirst.ne_nil
        rw [hf] at hmore
        exact (List.cons.inj hmore).1 ▸ hfirst.1 f (by simp [hf])
      rcases List.append_eq_append_iff.1 hlead with ⟨gap, rfl, hgap⟩ | ⟨digits, hdigits, -⟩
      · have hplain := hvalid.lead_plain c (by simp [hgap])
        rw [hdigit] at hplain
        contradiction
      · have hlast := List.getLast?_eq_some_getLast hback
        have hplain := hstarts (back.getLast hback)
          (by rw [hsplit, List.getLast?_append_of_ne_nil _ hback]; exact hlast)
        rw [hnumber.1 _ (by simp [hdigits])] at hplain
        contradiction
  · exact hpair more hlead hmore

theorem search_expression {first : List Char} {links : List Link}
    (honly : OnlyExpression before first links after) :
    search none (before ++ (render first links ++ after)) =
      firstFree before.getLast? first links after := by
  rw [render, List.append_assoc, search_before honly.number honly.starts honly.alone_before]
  exact search_links honly.number honly.valid honly.ends honly.alone_after

/-! ## Values -/

theorem value_of_readLiteral {a : ℤ} (hread : readLiteral left = some a) : a = decimalNumber left := by
  unfold readLiteral at hread
  split at hread
  · exact (Option.some.inj hread).symm
  · contradiction

/-- What the solver makes of a pair. -/
def IsResult (found : Candidate) (res : ℤ) : Prop :=
  ∃ a b, readLiteral found.left = some a ∧ readLiteral found.right = some b ∧
    found.op.apply a b = some res ∧ res.natAbs ≤ maxResult

theorem solve_eq_some_iff {res : ℤ} : solve text = some res ↔
    ∃ found, search none text = some found ∧ found.expr.length ≤ maxExprLen ∧
      IsResult found res := by
  unfold solve IsResult
  cases search none text with
  | none => simp
  | some found =>
    simp only [Option.some.injEq, exists_eq_left']
    split
    · next hlong => simp [Nat.not_le.2 hlong]
    · next hshort =>
      rw [and_iff_right (Nat.le_of_not_lt hshort)]
      cases readLiteral found.left <;> cases readLiteral found.right <;>
        simp [Option.filter_eq_some_iff]

theorem wholeValue_pair (link : Link) (first : List Char) :
    wholeValue first [link] = link.op.apply (decimalNumber first) (decimalNumber link.number) := by
  cases hop : link.op <;> simp [wholeValue, evalFrom, Operator.apply, hop]

/-- The first free pair has no value within the bounds, or it has the value of the whole. -/
def PairHasWhole (before first : List Char) (links : List Link) (after : List Char) : Prop :=
  ∀ found ∈ firstFree before.getLast? first links after, ∀ res, IsResult found res →
    wholeValue first links = some res

theorem short_of_firstFree {first : List Char} {links : List Link} (hfirst : IsNumber first)
    (hvalid : ∀ link ∈ links, link.Valid)
    (hfound : firstFree previous first links after = some found) :
    found.expr.length ≤ maxExprLen := by
  induction links generalizing previous first with
  | nil => contradiction
  | cons link links ih =>
    obtain ⟨hlink, hlinks⟩ := List.forall_mem_cons.1 hvalid
    rw [firstFree] at hfound
    split at hfound
    · exact ih hlink.number hlinks hfound
    · cases hfound
      have hop : link.op.text.length ≤ 2 := by cases link.op <;> decide
      have hleft := hfirst.2.2
      have hright := hlink.number.2.2
      simp only [Candidate.expr, List.length_append, List.length_cons, maxExprLen]
      omega

/-- The solver never returns the value of a part exactly if the expression has two numbers, or
the first free pair has no value but that of the whole. -/
theorem solve_whole_iff {first : List Char} {links : List Link}
    (honly : OnlyExpression before first links after) :
    (∀ res, solve (before ++ (render first links ++ after)) = some res →
      wholeValue first links = some res) ↔
        links.length = 1 ∨ PairHasWhole before first links after := by
  have hsearch := search_expression honly
  have hresult : ∀ res, solve (before ++ (render first links ++ after)) = some res ↔
      ∃ found, firstFree before.getLast? first links after = some found ∧ IsResult found res :=
    fun res => by
      rw [solve_eq_some_iff, hsearch]
      constructor
      · exact fun ⟨found, hfound, _, hres⟩ => ⟨found, hfound, hres⟩
      · exact fun ⟨found, hfound, hres⟩ =>
          ⟨found, hfound, short_of_firstFree honly.number honly.valid hfound, hres⟩
  have hpair : links.length = 1 → PairHasWhole before first links after := by
    rintro hone found hfound res ⟨a, b, ha, hb, hres, -⟩
    obtain ⟨link, rfl⟩ := List.length_eq_one_iff.1 hone
    rw [Option.mem_def, firstFree] at hfound
    split at hfound
    · contradiction
    · cases hfound
      rw [wholeValue_pair, ← value_of_readLiteral ha, ← value_of_readLiteral hb]
      exact hres
  rw [or_iff_right_of_imp hpair]
  constructor
  · exact fun hwhole found hfound res hres => hwhole res ((hresult res).2 ⟨found, hfound, hres⟩)
  · intro hwhole res hsolve
    obtain ⟨found, hfound, hres⟩ := (hresult res).1 hsolve
    exact hwhole found hfound res hres

theorem hasPair_digits (hdigits : ∀ c ∈ text, isPyDigit c = true) : ¬ HasPair text := by
  rintro ⟨left, link, -, hvalid, hpart⟩
  obtain ⟨c, lead, hlead⟩ := List.exists_cons_of_ne_nil (lead_ne_nil link)
  have hmem : c ∈ text := hpart.subset (by simp [Link.text, hlead])
  have hplain := hvalid.lead_plain c (by simp [hlead])
  rw [hdigits c hmem] at hplain
  contradiction

def sumLinks : List Link := [⟨[], '+', .add, [], ['2']⟩, ⟨[], '+', .add, [], ['3']⟩]

theorem only_sum : OnlyExpression [] ['1'] sumLinks [] :=
  { number := ⟨List.all_eq_true.1 (by decide), by decide, by decide⟩
    valid := by
      simp only [sumLinks, List.forall_mem_cons, List.not_mem_nil, false_implies, implies_true,
        and_true]
      refine ⟨⟨by simp, rfl, by simp, ?_⟩, ⟨by simp, rfl, by simp, ?_⟩⟩
      · exact ⟨List.all_eq_true.1 (by decide), by decide, by decide⟩
      · exact ⟨List.all_eq_true.1 (by decide), by decide, by decide⟩
    two := List.cons_ne_nil _ _
    starts := by simp
    ends := by simp
    alone_before := hasPair_digits (List.all_eq_true.1 (by decide))
    alone_after := hasPair_digits (List.all_eq_true.1 (by decide)) }

theorem solve_whole_iff_sum :
    (∀ res, solve ([] ++ (render ['1'] sumLinks ++ [])) = some res →
      wholeValue ['1'] sumLinks = some res) ↔
        sumLinks.length = 1 ∨ PairHasWhole [] ['1'] sumLinks [] :=
  solve_whole_iff only_sum

theorem part_of_sum : OnlyExpression [] ['1'] sumLinks [] ∧
    [] ++ (render ['1'] sumLinks ++ []) = "1+2+3".toList ∧
      solve "1+2+3".toList = some 3 ∧ wholeValue ['1'] sumLinks = some 6 :=
  ⟨only_sum, by decide, by decide, by decide⟩

end Matches

end SignPulse.Arithmetic
