import SignPulse.Flow.Conditions
import SignPulse.Foundation.JoinedFields

/-!
# Comparisons with literals

What `eval_condition` makes of a path, an operator and a quoted literal, whatever the literal
contains.
-/

namespace SignPulse.Conditions

open Foundation
open FlowContext

/-! ## Texts that are not cut -/

def addFront (text : List Char) (parts : List (List Char)) : List (List Char) :=
  text.foldr consHead parts

@[simp]
theorem addFront_cons (c : Char) (text : List Char) (parts : List (List Char)) :
    addFront (c :: text) parts = consHead c (addFront text parts) := rfl

theorem addFront_append (text others : List Char) (parts : List (List Char)) :
    addFront (text ++ others) parts = addFront text (addFront others parts) :=
  List.foldr_append ..

theorem addFront_part (text part : List Char) (parts : List (List Char)) :
    addFront text (part :: parts) = (text ++ part) :: parts := by
  induction text with
  | nil => rfl
  | cons c text ih => rw [addFront_cons, ih]; rfl

/-- Neither a quote nor a parenthesis. -/
def isPlain (c : Char) : Bool := !isQuote c && c ≠ '(' && c ≠ ')'

theorem none_of_all {test : Char → Bool} {text : List Char}
    (hall : (text.all fun c => !test c) = true) : ∀ c ∈ text, test c = false := by
  simpa using hall

theorem splitFrom_plain {sep : List Char} {c : Char} (hplain : isPlain c = true) (depth : ℕ)
    (left : Option ℕ) {rest : List Char}
    (hsep : depth = 0 → left ≠ some 0 → ¬ sep <+: c :: rest) :
    splitFrom sep none depth left 0 (c :: rest) =
      consHead c (splitFrom sep none depth left 0 rest) := by
  simp only [isPlain, Bool.and_eq_true, Bool.not_eq_true', decide_eq_true_eq] at hplain
  obtain ⟨⟨hquote, hopen⟩, hclose⟩ := hplain
  rw [splitFrom, if_neg (Bool.eq_false_iff.mp hquote), if_neg hopen, if_neg hclose, if_neg]
  rintro ⟨hdepth, hleft, hbegins⟩
  exact hsep hdepth hleft hbegins

/-- A separator begins nowhere in the text. -/
theorem splitFrom_append {sep text : List Char} (hplain : ∀ c ∈ text, isPlain c = true)
    (depth : ℕ) (left : Option ℕ) {rest : List Char}
    (hsep : depth = 0 → left ≠ some 0 →
      ∀ tail, tail <:+ text → tail ≠ [] → ¬ sep <+: tail ++ rest) :
    splitFrom sep none depth left 0 (text ++ rest) =
      addFront text (splitFrom sep none depth left 0 rest) := by
  induction text with
  | nil => rfl
  | cons c text ih =>
    rw [List.cons_append, splitFrom_plain (hplain c List.mem_cons_self) depth left, addFront_cons,
      ih (fun d hd => hplain d (List.mem_cons_of_mem _ hd))]
    · intro hdepth hleft tail htail
      exact hsep hdepth hleft tail (htail.trans (List.suffix_cons c text))
    · intro hdepth hleft
      exact hsep hdepth hleft (c :: text) List.suffix_rfl (List.cons_ne_nil c text)

theorem splitFrom_inside {sep : List Char} {quote : Char} {inside : List Char}
    (hquote : quote ∉ inside) (depth : ℕ) (left : Option ℕ) (rest : List Char) :
    splitFrom sep (some quote) depth left 0 (inside ++ quote :: rest) =
      addFront (inside ++ [quote]) (splitFrom sep none depth left 0 rest) := by
  induction inside with
  | nil =>
    rw [List.nil_append, splitFrom, if_pos rfl]
    rfl
  | cons c inside ih =>
    have hc : c ≠ quote := fun heq => hquote (heq ▸ List.mem_cons_self)
    rw [List.cons_append, splitFrom, if_neg hc, ih fun hmem => hquote (List.mem_cons_of_mem _ hmem)]
    rfl

def literal (quote : Char) (inside : List Char) : List Char := quote :: (inside ++ [quote])

theorem isPySpace_of_isQuote {quote : Char} (hquote : isQuote quote = true) :
    isPySpace quote = false := by
  rw [isQuote, Bool.or_eq_true] at hquote
  obtain hquote | hquote := hquote <;> rw [of_decide_eq_true hquote] <;> decide

theorem getLast?_literal (quote : Char) (inside : List Char) :
    (literal quote inside).getLast? = some quote := by
  rw [literal, ← List.cons_append, List.getLast?_concat]

theorem splitFrom_literal {sep : List Char} {quote : Char} {inside : List Char}
    (hisQuote : isQuote quote = true) (hquote : quote ∉ inside) (depth : ℕ) (left : Option ℕ)
    (rest : List Char) :
    splitFrom sep none depth left 0 (literal quote inside ++ rest) =
      addFront (literal quote inside) (splitFrom sep none depth left 0 rest) := by
  have htext : literal quote inside ++ rest = quote :: (inside ++ quote :: rest) := by
    simp [literal]
  rw [htext, splitFrom, if_pos hisQuote, splitFrom_inside hquote]
  rfl

/-! ## Where an operator occurs -/

section Infixes

variable {α : Type*}

/-- What does not contain an element lies on one side of it. -/
theorem infix_of_not_mem {part before after : List α} {middle : α} (hmiddle : middle ∉ part)
    (hpart : part <:+: before ++ middle :: after) : part <:+: before ∨ part <:+: after := by
  obtain ⟨start, rest, heq⟩ := hpart
  rw [List.append_assoc] at heq
  obtain ⟨more, hbefore, hrest⟩ | ⟨more, hstart, hrest⟩ := List.append_eq_append_iff.mp heq
  · obtain ⟨inner, hmore, htail⟩ | ⟨inner, hinner, htail⟩ := List.append_eq_append_iff.mp hrest
    · exact .inl ⟨start, inner, by rw [hbefore, hmore, List.append_assoc]⟩
    · cases inner with
      | nil =>
        rw [List.append_nil] at hinner
        exact .inl ⟨start, [], by rw [hbefore, hinner, List.append_nil]⟩
      | cons first inner =>
        obtain ⟨rfl, -⟩ := List.cons.inj htail
        exact absurd (hinner ▸ List.mem_append_right _ List.mem_cons_self) hmiddle
  · cases more with
    | nil =>
      cases part with
      | nil => exact .inl (List.nil_infix)
      | cons first part =>
        rw [List.nil_append, List.cons_append] at hrest
        obtain ⟨rfl, -⟩ := List.cons.inj hrest
        exact absurd List.mem_cons_self hmiddle
    | cons first more =>
      rw [List.cons_append] at hrest
      obtain ⟨rfl, hafter⟩ := List.cons.inj hrest
      exact .inr ⟨more, rest, by rw [hafter, List.append_assoc]⟩

/-- What begins with an element begins after a list without it. -/
theorem infix_of_append {first : α} {part before after : List α} (hfirst : first ∉ before)
    (hpart : first :: part <:+: before ++ after) : first :: part <:+: after := by
  obtain ⟨start, rest, heq⟩ := hpart
  rw [List.append_assoc] at heq
  obtain ⟨more, hbefore, hrest⟩ | ⟨more, hstart, hrest⟩ := List.append_eq_append_iff.mp heq
  · cases more with
    | nil => exact ⟨[], rest, by rw [List.nil_append, ← List.nil_append after, ← hrest]⟩
    | cons other more =>
      rw [List.cons_append, List.cons_append] at hrest
      obtain ⟨rfl, -⟩ := List.cons.inj hrest
      exact absurd (hbefore ▸ List.mem_append_right _ List.mem_cons_self) hfirst
  · exact ⟨more, rest, by rw [List.append_assoc, hrest]⟩

end Infixes

/-- A path: no blanks, no quotes and no parentheses, and not a negation. -/
structure IsPath (path : List Char) : Prop where
  nonempty : path ≠ []
  unspaced : ∀ c ∈ path, isPySpace c = false
  plain : ∀ c ∈ path, isPlain c = true
  no_bang : path.head? ≠ some '!'
  no_not : path ≠ "not".toList

/-- The text of a comparison with a literal. -/
def comparedText (path : List Char) (op : CompareOp) (quote : Char) (inside : List Char) :
    List Char :=
  path ++ op.spelling ++ literal quote inside

/-- A separator between blanks, without quotes. -/
structure IsSeparator (sep : List Char) : Prop where
  blank : sep.head? = some ' '
  unquoted : ∀ c ∈ sep, isQuote c = false

theorem isSeparator_spelling (op : CompareOp) : IsSeparator op.spelling := by
  cases op <;> exact ⟨rfl, none_of_all (by decide)⟩

theorem plain_of_mem_spelling (op : CompareOp) : ∀ c ∈ op.spelling, isPlain c = true := by
  cases op <;> exact List.all_eq_true.mp (by decide)

section Comparison

variable {path : List Char} {op : CompareOp} {quote : Char} {inside sep : List Char}

theorem blank_not_mem (hpath : IsPath path) : ' ' ∉ path := fun hmem =>
  absurd (hpath.unspaced ' ' hmem) (by decide)

theorem quote_not_mem_sep (hsep : IsSeparator sep) (hisQuote : isQuote quote = true) :
    quote ∉ sep := fun hmem =>
  absurd hisQuote (Bool.eq_false_iff.mp (hsep.unquoted quote hmem))

theorem infix_of_infix_comparedText (hpath : IsPath path) (hisQuote : isQuote quote = true)
    (hsep : IsSeparator sep) (hwithin : sep <:+: comparedText path op quote inside) :
    sep <:+: op.spelling ∨ sep <:+: inside := by
  have hquote := quote_not_mem_sep hsep hisQuote
  obtain hfront | hback := infix_of_not_mem hquote hwithin
  · cases sep with
    | nil => exact .inl List.nil_infix
    | cons first sep =>
      obtain rfl : first = ' ' := Option.some.inj hsep.blank
      exact .inl (infix_of_append (blank_not_mem hpath) hfront)
  · obtain hinside | hnil := infix_of_not_mem hquote hback
    · exact .inr hinside
    · exact .inr (List.infix_nil.mp hnil ▸ List.nil_infix)

theorem comparedText_within_of_within (hwithin : sep <:+: inside) :
    sep <:+: comparedText path op quote inside := by
  refine hwithin.trans ⟨path ++ op.spelling ++ [quote], [quote], ?_⟩
  simp [comparedText, literal]

theorem splitFrom_literal_end (hisQuote : isQuote quote = true) (hquote : quote ∉ inside)
    (depth : ℕ) (left : Option ℕ) :
    splitFrom sep none depth left 0 (literal quote inside) = [literal quote inside] := by
  have hsplit := @splitFrom_literal sep quote inside hisQuote hquote depth left []
  rw [List.append_nil] at hsplit
  rw [hsplit]
  rw [splitFrom, addFront_part, List.append_nil]

/-- A separator that is no part of the operator cuts nothing. -/
theorem splitTopLevel_other (hpath : IsPath path) (hisQuote : isQuote quote = true)
    (hquote : quote ∉ inside) (hsep : IsSeparator sep) (hother : ¬ sep <:+: op.spelling)
    (left : Option ℕ) :
    splitTopLevel (comparedText path op quote inside) sep left =
      [comparedText path op quote inside] := by
  have hplain : ∀ c ∈ path ++ op.spelling, isPlain c = true := by
    intro c hc
    obtain hc | hc := List.mem_append.mp hc
    · exact hpath.plain c hc
    · exact plain_of_mem_spelling op c hc
  unfold splitTopLevel comparedText
  rw [splitFrom_append hplain, splitFrom_literal_end hisQuote hquote, addFront_part]
  intro _ _ tail htail _ hbegins
  apply hother
  have hfront : sep <+: tail := by
    obtain hfront | hlonger := List.prefix_or_prefix_of_prefix hbegins
      (List.prefix_append (tail ++ [quote]) (inside ++ [quote]) |>.trans (by simp [literal]))
    · obtain hfront | heq := List.prefix_concat_iff.mp hfront |>.symm
      · exact hfront
      · exact absurd (heq ▸ List.mem_append_right _ List.mem_cons_self)
          (quote_not_mem_sep hsep hisQuote)
    · exact absurd (hlonger.subset (List.mem_append_right _ List.mem_cons_self))
        (quote_not_mem_sep hsep hisQuote)
  have hwithin := hfront.isInfix.trans htail.isInfix
  cases sep with
  | nil => exact List.nil_infix
  | cons first sep =>
    obtain rfl : first = ' ' := Option.some.inj hsep.blank
    exact infix_of_append (blank_not_mem hpath) hwithin

theorem splitFrom_skip (depth : ℕ) (left : Option ℕ) (text rest : List Char) :
    splitFrom sep none depth left text.length (text ++ rest) =
      splitFrom sep none depth left 0 rest := by
  induction text with
  | nil => rfl
  | cons c text ih =>
    rw [List.length_cons, List.cons_append, splitFrom, ih]

/-- A separator that begins with a blank cuts a text outside of parentheses. -/
theorem splitFrom_cut {left : Option ℕ} {word rest : List Char} (hsep : sep = ' ' :: word)
    (hleft : left ≠ some 0) :
    splitFrom sep none 0 left 0 (sep ++ rest) =
      [] :: splitFrom sep none 0 (left.map (· - 1)) 0 rest := by
  have hbegins : sep <+: ' ' :: (word ++ rest) := ⟨rest, by rw [hsep]; rfl⟩
  have hlength : sep.length - 1 = word.length := by rw [hsep]; rfl
  have htext : sep ++ rest = ' ' :: (word ++ rest) := by rw [hsep]; rfl
  rw [htext, splitFrom, if_neg (by decide), if_neg (by decide), if_neg (by decide),
    if_pos ⟨rfl, hleft, hbegins⟩, hlength, splitFrom_skip]

/-- The operator cuts the text into its operands. -/
theorem splitTopLevel_own (hpath : IsPath path) (hisQuote : isQuote quote = true)
    (hquote : quote ∉ inside) :
    splitTopLevel (comparedText path op quote inside) op.spelling (some 1) =
      [path, literal quote inside] := by
  have hcut : splitFrom op.spelling none 0 (some 1) 0 (op.spelling ++ literal quote inside) =
      [] :: [literal quote inside] := by
    have hcut := @splitFrom_cut op.spelling (some 1) (op.word.toList ++ [' '])
      (literal quote inside) rfl (by decide)
    exact hcut.trans (congrArg ([] :: ·) (splitFrom_literal_end hisQuote hquote 0 _))
  unfold splitTopLevel comparedText
  rw [List.append_assoc, splitFrom_append hpath.plain, hcut, addFront_part, List.append_nil]
  intro _ _ tail htail hne hbegins
  cases tail with
  | nil => exact hne rfl
  | cons first tail =>
    obtain ⟨rest, hrest⟩ := hbegins
    obtain ⟨rfl, -⟩ := List.cons.inj hrest
    exact blank_not_mem hpath (htail.subset List.mem_cons_self)

/-! ## The operator that is found -/

/-- The operators that are looked for before, in the same chain. -/
def earlier : CompareOp → List CompareOp
  | .isIn => [.notIn]
  | .contains => [.notContains]
  | .le => [.ge]
  | .gt => [.ge, .le]
  | .lt => [.ge, .le, .gt]
  | _ => []

/-- The literal contains an operator that is looked for before in the same chain. -/
def Shadowed (op : CompareOp) (inside : List Char) : Prop :=
  ∃ other ∈ earlier op, other.spelling <:+: inside

instance decidableShadowed (op : CompareOp) (inside : List Char) :
    Decidable (Shadowed op inside) := by
  unfold Shadowed
  infer_instance

theorem not_infix_of_mem_earlier (op : CompareOp) :
    ∀ other ∈ earlier op, ¬ other.spelling <:+: op.spelling := by
  cases op <;> decide

theorem chain_of_op (op : CompareOp) :
    ∃ before rest after, operatorChains = before ++ (earlier op ++ op :: rest) :: after ∧
      ∀ chain ∈ before ++ after, ∀ other ∈ chain, ¬ other.spelling <:+: op.spelling := by
  cases op with
  | isIn => exact ⟨[], [], operatorChains.drop 1, rfl, by decide⟩
  | notIn => exact ⟨[], [.isIn], operatorChains.drop 1, rfl, by decide⟩
  | contains => exact ⟨operatorChains.take 1, [], operatorChains.drop 2, rfl, by decide⟩
  | notContains =>
    exact ⟨operatorChains.take 1, [.contains], operatorChains.drop 2, rfl, by decide⟩
  | matchesPattern => exact ⟨operatorChains.take 2, [], operatorChains.drop 3, rfl, by decide⟩
  | ge => exact ⟨operatorChains.take 3, [.le, .gt, .lt], operatorChains.drop 4, rfl, by decide⟩
  | le => exact ⟨operatorChains.take 3, [.gt, .lt], operatorChains.drop 4, rfl, by decide⟩
  | gt => exact ⟨operatorChains.take 3, [.lt], operatorChains.drop 4, rfl, by decide⟩
  | lt => exact ⟨operatorChains.take 3, [], operatorChains.drop 4, rfl, by decide⟩
  | eq => exact ⟨operatorChains.take 4, [], operatorChains.drop 5, rfl, by decide⟩
  | ne => exact ⟨operatorChains.take 5, [], operatorChains.drop 6, rfl, by decide⟩

variable (python : Interpreter) (scope : Dict String PyValue)

theorem tryOperator_other (hpath : IsPath path) (hisQuote : isQuote quote = true)
    (hquote : quote ∉ inside) {other : CompareOp} (hother : ¬ other.spelling <:+: op.spelling) :
    tryOperator python scope other (comparedText path op quote inside) = none := by
  rw [tryOperator, splitTopLevel_other hpath hisQuote hquote (isSeparator_spelling other) hother]

theorem firstOperator_others (hpath : IsPath path) (hisQuote : isQuote quote = true)
    (hquote : quote ∉ inside) {chain : List CompareOp}
    (hchain : ∀ other ∈ chain, ¬ other.spelling <:+: op.spelling) :
    firstOperator python scope (comparedText path op quote inside) chain = none := by
  induction chain with
  | nil => rfl
  | cons other chain ih =>
    unfold firstOperator
    split
    · exact tryOperator_other python scope hpath hisQuote hquote (hchain other List.mem_cons_self)
    · exact ih fun another hmem => hchain another (List.mem_cons_of_mem _ hmem)

theorem evalOperand_literal (hisQuote : isQuote quote = true) :
    evalOperand python scope (literal quote inside) = .data (.str (String.ofList inside)) := by
  have hspace := isPySpace_of_isQuote hisQuote
  have hlast := getLast?_literal quote inside
  have hstrip : strip (literal quote inside) = literal quote inside := by
    refine trimChars_eq_self ?_ ?_
    · intro c hc
      cases hc
      exact hspace
    · intro c hc
      rw [hlast] at hc
      cases hc
      exact hspace
  have hquoted : (quotedBy apostrophe (literal quote inside) ||
      quotedBy '"' (literal quote inside)) = true := by
    unfold quotedBy
    rw [hlast]
    unfold isQuote at hisQuote
    simpa [literal, Bool.or_eq_true] using hisQuote
  simp only [evalOperand]
  rw [hstrip, if_neg (show literal quote inside ≠ [] from List.cons_ne_nil _ _), if_pos hquoted]
  simp [literal]

/-- The comparison as its operator means it. -/
def ruleHolds (path : List Char) (op : CompareOp) (inside : List Char) : Bool :=
  rule python op (evalOperand python scope path) (.data (.str (String.ofList inside)))

section

variable (hpath : IsPath path) (hisQuote : isQuote quote = true) (hquote : quote ∉ inside)

include hpath hisQuote hquote

theorem tryOperator_own : tryOperator python scope op (comparedText path op quote inside) =
      some (ruleHolds python scope path op inside) := by
  rw [tryOperator, splitTopLevel_own hpath hisQuote hquote]
  dsimp only
  rw [evalOperand_literal python scope hisQuote]
  rfl

/-- The operators before are only found in the literal, where they cut nothing. -/
theorem firstOperator_own {before : List CompareOp} (rest : List CompareOp)
    (hbefore : ∀ other ∈ before, ¬ other.spelling <:+: op.spelling) :
    firstOperator python scope (comparedText path op quote inside) (before ++ op :: rest) =
      if ∃ other ∈ before, other.spelling <:+: inside then none
      else some (ruleHolds python scope path op inside) := by
  induction before with
  | nil =>
    have hwithin : op.spelling <:+: comparedText path op quote inside :=
      ⟨path, literal quote inside, rfl⟩
    rw [List.nil_append, firstOperator, if_pos hwithin,
      tryOperator_own python scope hpath hisQuote hquote, if_neg (by simp)]
  | cons other before ih =>
    have hother := hbefore other List.mem_cons_self
    rw [List.cons_append, firstOperator]
    by_cases hinside : other.spelling <:+: inside
    · rw [if_pos (comparedText_within_of_within hinside),
        tryOperator_other python scope hpath hisQuote hquote hother,
        if_pos ⟨other, List.mem_cons_self, hinside⟩]
    · have habsent : ¬ other.spelling <:+: comparedText path op quote inside := fun hwithin =>
        (infix_of_infix_comparedText hpath hisQuote (isSeparator_spelling other) hwithin).elim
          hother hinside
      rw [if_neg habsent, ih fun another hmem => hbefore another (List.mem_cons_of_mem _ hmem)]
      simp only [List.exists_mem_cons_iff, hinside, false_or]

theorem evalComparison_comparedText :
    evalComparison python scope (comparedText path op quote inside) =
      if Shadowed op inside then none else some (ruleHolds python scope path op inside) := by
  obtain ⟨before, rest, after, hchains, hothers⟩ := chain_of_op op
  have hnone : ∀ chains : List (List CompareOp), (∀ chain ∈ chains, chain ∈ before ++ after) →
      chains.findSome? (fun chain =>
        firstOperator python scope (comparedText path op quote inside) chain) = none := by
    intro chains hchains
    rw [List.findSome?_eq_none_iff]
    exact fun chain hchain =>
      firstOperator_others python scope hpath hisQuote hquote (hothers chain (hchains chain hchain))
  unfold evalComparison
  rw [hchains, List.findSome?_append, List.findSome?_cons,
    hnone before fun chain hmem => List.mem_append_left _ hmem,
    hnone after fun chain hmem => List.mem_append_right _ hmem,
    firstOperator_own python scope hpath hisQuote hquote rest (not_infix_of_mem_earlier op)]
  unfold Shadowed
  by_cases hshadowed : ∃ other ∈ earlier op, other.spelling <:+: inside
  · rw [if_pos hshadowed]
    rfl
  · rw [if_neg hshadowed]
    rfl

end

/-! ## The whole text -/

theorem strip_comparedText (hpath : IsPath path) (hisQuote : isQuote quote = true) :
    strip (comparedText path op quote inside) = comparedText path op quote inside := by
  refine trimChars_eq_self ?_ ?_
  · intro c hc
    cases path with
    | nil => exact absurd rfl hpath.nonempty
    | cons first path =>
      obtain rfl := Option.some.inj hc
      exact hpath.unspaced first List.mem_cons_self
  · intro c hc
    rw [comparedText, List.getLast?_append, getLast?_literal] at hc
    obtain rfl := Option.some.inj hc
    exact isPySpace_of_isQuote hisQuote

theorem head?_comparedText (hpath : IsPath path) :
    (comparedText path op quote inside).head? = path.head? := by
  cases path with
  | nil => exact absurd rfl hpath.nonempty
  | cons first path => rfl

theorem stripGroups_of_head? {expr : List Char} (hhead : expr.head? ≠ some '(') (times : ℕ) :
    stripGroups times expr = expr := by
  cases times with
  | zero => rfl
  | succ times =>
    have hgroup : isOuterGroup expr = false := by
      simp [isOuterGroup, hhead]
    rw [stripGroups, hgroup]
    rfl

theorem not_not_comparedText (hpath : IsPath path) :
    ¬ "not ".toList <+: comparedText path op quote inside := by
  intro hbegins
  obtain ⟨rest, hrest⟩ := hbegins
  have hnot : "not".toList ++ ' ' :: rest =
      path ++ ' ' :: (op.word.toList ++ [' '] ++ literal quote inside) := by
    rw [comparedText, CompareOp.spelling] at hrest
    simpa using hrest
  obtain ⟨hsame, -⟩ := eq_of_append_separator (by decide) (blank_not_mem hpath) hnot
  exact hpath.no_not hsame.symm

theorem partsBetween_comparedText (hpath : IsPath path) (hisQuote : isQuote quote = true)
    (hquote : quote ∉ inside) (hsep : IsSeparator sep) (hother : ¬ sep <:+: op.spelling) :
    partsBetween sep (comparedText path op quote inside) = none := by
  rw [partsBetween, splitTopLevel_other hpath hisQuote hquote hsep hother]
  split <;> rfl

theorem evalCondition_comparedText (hpath : IsPath path) (hisQuote : isQuote quote = true)
    (hquote : quote ∉ inside) :
    evalCondition python scope (comparedText path op quote inside) =
      if Shadowed op inside then pathTruth python scope (comparedText path op quote inside)
      else ruleHolds python scope path op inside := by
  have hhead := @head?_comparedText path op quote inside hpath
  have hgroup : (comparedText path op quote inside).head? ≠ some '(' := by
    intro hopen
    rw [hhead] at hopen
    have hplain := hpath.plain '(' (List.mem_of_mem_head? hopen)
    exact absurd hplain (by decide)
  have hbang : (comparedText path op quote inside).head? ≠ some '!' := by
    rw [hhead]
    exact hpath.no_bang
  have hor : ¬ " or ".toList <:+: op.spelling := by cases op <;> decide
  have hand : ¬ " and ".toList <:+: op.spelling := by cases op <;> decide
  have hnonempty : comparedText path op quote inside ≠ [] := by
    intro hnil
    rw [hnil] at hhead
    exact hpath.nonempty (List.head?_eq_none_iff.mp hhead.symm)
  have hnot := @not_not_comparedText path op quote inside hpath
  rw [evalCondition_eq, evalBody, strip_comparedText hpath hisQuote, stripGroups_of_head? hgroup,
    if_neg fun hgroup => hnot hgroup.1, if_neg fun hgroup => hbang hgroup.1,
    partsBetween_comparedText hpath hisQuote hquote ⟨rfl, none_of_all (by decide)⟩ hor,
    partsBetween_comparedText hpath hisQuote hquote ⟨rfl, none_of_all (by decide)⟩ hand]
  rw [evalTest, evalComparison_comparedText python scope hpath hisQuote hquote]
  by_cases hshadowed : Shadowed op inside
  · rw [if_pos hshadowed, if_pos hshadowed, if_neg hbang, if_neg hnot, if_neg hnonempty]
  · rw [if_neg hshadowed, if_neg hshadowed]

end Comparison

/-- A comparison of a path with a literal follows its operator, unless the literal contains one
that is looked for before; then the whole text is taken for a path, which can only give the same
by chance. -/
theorem comparison_iff (python : Interpreter) (ctx : ScopedFlowContext)
    (system : Dict String PyValue) (defaultOutput : String) {path : List Char} (op : CompareOp)
    {quote : Char} {inside : List Char} (hpath : IsPath path) (hisQuote : isQuote quote = true)
    (hquote : quote ∉ inside) :
    evalConditionIn python ctx system (String.ofList (comparedText path op quote inside))
        defaultOutput =
      ruleHolds python (ctx.buildScopeDict system defaultOutput) path op inside ↔
    (Shadowed op inside → pathTruth python (ctx.buildScopeDict system defaultOutput)
          (comparedText path op quote inside) =
        ruleHolds python (ctx.buildScopeDict system defaultOutput) path op inside) := by
  unfold evalConditionIn
  rw [String.toList_ofList, evalCondition_comparedText python _ hpath hisQuote hquote]
  split
  · next hshadowed => exact ⟨fun hsame _ => hsame, fun hsame => hsame hshadowed⟩
  · next hclear => exact iff_of_true rfl fun hshadowed => absurd hshadowed hclear

/-! ## A literal with another operator -/

/-- The conversions of texts that are no numbers. -/
def plainInterpreter : Interpreter where
  digits _ := none
  floatOf _ := none
  strOf
    | .data (.str text) => text
    | _ => ""
  strOf_str _ := rfl
  searches _ _ := false

def replyContext (reply : String) : ScopedFlowContext where
  vars := [("reply", .str reply)]

theorem isPath_reply : IsPath "vars.reply".toList where
  nonempty := by decide
  unspaced := none_of_all (by decide)
  plain := List.all_eq_true.mp (by decide)
  no_bang := by decide
  no_not := by decide

theorem comparison_iff_reply : evalConditionIn plainInterpreter (replyContext "done") []
        (String.ofList (comparedText "vars.reply".toList .isIn '"' "done or failed".toList)) "" =
      ruleHolds plainInterpreter ((replyContext "done").buildScopeDict [] "") "vars.reply".toList
        .isIn "done or failed".toList ↔
    (Shadowed .isIn "done or failed".toList →
      pathTruth plainInterpreter ((replyContext "done").buildScopeDict [] "")
          (comparedText "vars.reply".toList .isIn '"' "done or failed".toList) =
        ruleHolds plainInterpreter ((replyContext "done").buildScopeDict [] "")
          "vars.reply".toList .isIn "done or failed".toList) :=
  comparison_iff plainInterpreter (replyContext "done") [] "" .isIn isPath_reply (by decide)
    (by decide)

/-- The reply is in the literal, but the text is not read as a comparison. -/
theorem not_in_inside_literal :
    ¬ ∀ (python : Interpreter) (ctx : ScopedFlowContext) (system : Dict String PyValue)
        (defaultOutput : String) (path : List Char) (op : CompareOp) (quote : Char)
        (inside : List Char),
      IsPath path → isQuote quote = true → quote ∉ inside →
        evalConditionIn python ctx system (String.ofList (comparedText path op quote inside))
            defaultOutput =
          ruleHolds python (ctx.buildScopeDict system defaultOutput) path op inside := by
  intro hall
  have hsame := hall plainInterpreter (replyContext "done") [] "" "vars.reply".toList .isIn '"'
    "done, not in error".toList isPath_reply (by decide) (by decide)
  exact absurd hsame (by decide)

end SignPulse.Conditions
