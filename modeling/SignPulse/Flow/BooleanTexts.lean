import SignPulse.Flow.ComparedLiterals

/-!
# Texts of boolean expressions

Boolean expressions that are written with the fewest parentheses, and where their texts are cut.
-/

namespace SignPulse.Conditions

open Foundation

/-! ## Expressions and their texts -/

/-- A word of an expression: a path, a number, a pattern without blanks. -/
structure Word where
  text : List Char
  nonempty : text ≠ []
  unspaced : ∀ c ∈ text, isPySpace c = false
  plain : ∀ c ∈ text, isPlain c = true
  no_bang : text.head? ≠ some '!'
  no_and : text ≠ "and".toList
  no_or : text ≠ "or".toList
  no_not : text ≠ "not".toList

structure QuotedText where
  quote : Char
  inside : List Char
  isQuote : isQuote quote = true
  unquoted : quote ∉ inside

inductive Term where
  | ofWord (word : Word)
  | ofQuoted (quoted : QuotedText)

def Term.text : Term → List Char
  | .ofWord word => word.text
  | .ofQuoted quoted => literal quoted.quote quoted.inside

inductive NotForm where
  | word | bang
  deriving DecidableEq

def NotForm.text : NotForm → List Char
  | .word => "not ".toList
  | .bang => ['!']

inductive BoolExpr where
  | test (word : Word)
  | compare (left : Term) (op : CompareOp) (right : Term)
  | neg (form : NotForm) (inner : BoolExpr)
  | conj (left right : BoolExpr)
  | disj (left right : BoolExpr)

inductive Connective where
  | or | and
  deriving DecidableEq

def Connective.text : Connective → List Char
  | .or => " or ".toList
  | .and => " and ".toList

def group (text : List Char) : List Char := '(' :: (text ++ [')'])

namespace BoolExpr

def isDisj : BoolExpr → Bool
  | .disj _ _ => true
  | _ => false

def isTest : BoolExpr → Bool
  | .test _ => true
  | _ => false

/-- An expression that stands in parentheses under a negation. -/
def isChain : BoolExpr → Bool
  | .conj _ _ => true
  | .disj _ _ => true
  | _ => false

/-- The text with single blanks, and with parentheses where an operand binds less. -/
def text : BoolExpr → List Char
  | .test word => word.text
  | .compare left op right => left.text ++ (op.spelling ++ right.text)
  | .neg form inner => form.text ++ if inner.isChain then group inner.text else inner.text
  | .conj left right =>
    (if left.isDisj then group left.text else left.text) ++
      (Connective.and.text ++ if right.isDisj then group right.text else right.text)
  | .disj left right => left.text ++ (Connective.or.text ++ right.text)

/-- The text of an operand of `and`. -/
def partText (expr : BoolExpr) : List Char :=
  if expr.isDisj then group expr.text else expr.text

def holds (value : List Char → Bool) : BoolExpr → Bool
  | .test word => value word.text
  | .compare left op right => value (left.text ++ (op.spelling ++ right.text))
  | .neg _ inner => !inner.holds value
  | .conj left right => left.holds value && right.holds value
  | .disj left right => left.holds value || right.holds value

end BoolExpr

/-! ## The texts that are read as they are meant -/

/-- The parentheses match, with those that stand in literals. -/
def Balanced (text : List Char) : Prop := outerDepth 1 text = some 1

/-- Where an expression stands: alone, or as an operand of a chain, at the beginning of the text of
the chain or not. -/
inductive Place where
  | whole
  | orPart (first : Bool)
  | andPart (first : Bool)
  deriving DecidableEq

def Place.begins : Place → Bool
  | .whole => false
  | .orPart first => first
  | .andPart first => first

/-- What the evaluator takes for a chain begins with no negated group; only variables and groups are
negated; and the parentheses of a group match if those in its literals are counted. -/
def Readable : Place → BoolExpr → Prop
  | _, .test _ => True
  | _, .compare _ _ _ => True
  | place, .neg _ inner =>
    inner.isTest = true ∨
      (inner.isChain = true ∧ place.begins = false ∧ Balanced inner.text ∧ Readable .whole inner)
  | .andPart first, .conj left right =>
    Readable (.andPart first) left ∧ Readable (.andPart false) right
  | _, .conj left right => Readable (.andPart true) left ∧ Readable (.andPart false) right
  | .orPart first, .disj left right =>
    Readable (.orPart first) left ∧ Readable (.orPart false) right
  | .andPart _, .disj left right =>
    Balanced (BoolExpr.disj left right).text ∧ Readable (.orPart true) left ∧
      Readable (.orPart false) right
  | .whole, .disj left right => Readable (.orPart true) left ∧ Readable (.orPart false) right

/-! ## Texts that stand as one part -/

/-- What may follow a part of a text. -/
def Boundary (rest : List Char) : Prop := ∀ c ∈ rest.head?, c = ' '

theorem boundary_nil : Boundary [] := by
  intro c hc
  cases hc

theorem boundary_cons (rest : List Char) : Boundary (' ' :: rest) := by
  intro c hc
  exact (Option.some.inj hc).symm

/-- The connective without the blank before it. -/
def Connective.tail (connective : Connective) : List Char := connective.text.drop 1

theorem connective_text (connective : Connective) : connective.text = ' ' :: connective.tail := by
  cases connective <;> rfl

/-- A text that begins and ends with other characters than blanks, whose first word is no
connective, and in which nothing is cut within parentheses. -/
structure Tame (text : List Char) : Prop where
  head : ∀ c ∈ text.head?, isPySpace c = false
  last : ∀ c ∈ text.getLast?, isPySpace c = false
  nonempty : text ≠ []
  opens : ∀ {rest}, Boundary rest → ∀ connective : Connective,
    ¬ connective.tail <+: text ++ rest
  inside : ∀ {sep : List Char} {depth : ℕ} (left : Option ℕ) (rest : List Char), 0 < depth →
    splitFrom sep none depth left 0 (text ++ rest) =
      addFront text (splitFrom sep none depth left 0 rest)

def Passes (connective : Connective) (text : List Char) : Prop :=
  ∀ rest, Boundary rest → splitFrom connective.text none 0 none 0 (text ++ rest) =
    addFront text (splitFrom connective.text none 0 none 0 rest)

theorem Tame.strip_eq {text : List Char} (htame : Tame text) : strip text = text :=
  trimChars_eq_self htame.head htame.last

theorem Tame.boundary_append {text : List Char} (htame : Tame text) (rest : List Char)
    {c : Char} (hc : c ∈ (text ++ rest).head?) : c ∈ text.head? := by
  cases text with
  | nil => exact absurd rfl htame.nonempty
  | cons first text => exact hc

section Words

variable (word : Word)

theorem word_blank_not_mem : ' ' ∉ word.text := fun hmem =>
  absurd (word.unspaced ' ' hmem) (by decide)

theorem word_opens {rest : List Char} (hrest : Boundary rest) (connective : Connective) :
    ¬ connective.tail <+: word.text ++ rest := by
  have hname : ∀ name : List Char, ' ' ∉ name → word.text ≠ name →
      ¬ name ++ [' '] <+: word.text ++ rest := by
    rintro name hblank hne ⟨after, hafter⟩
    rw [List.append_assoc] at hafter
    cases rest with
    | nil =>
      rw [List.append_nil] at hafter
      exact word_blank_not_mem word (hafter ▸ List.mem_append_right _ List.mem_cons_self)
    | cons c rest =>
      obtain rfl := hrest c rfl
      exact hne (eq_of_append_separator hblank (word_blank_not_mem word) hafter).1.symm
  cases connective with
  | or => exact hname "or".toList (by decide) word.no_or
  | and => exact hname "and".toList (by decide) word.no_and

theorem tame_word : Tame word.text where
  head c hc := word.unspaced c (List.mem_of_mem_head? hc)
  last c hc := word.unspaced c (List.mem_of_getLast? hc)
  nonempty := word.nonempty
  opens := word_opens word
  inside left _ hdepth :=
    splitFrom_append word.plain _ left fun hzero => absurd hzero (Nat.pos_iff_ne_zero.mp hdepth)

theorem passes_word (connective : Connective) : Passes connective word.text := by
  intro rest hrest
  refine splitFrom_append word.plain 0 none fun _ _ tail htail hne hbegins => ?_
  rw [connective_text] at hbegins
  cases tail with
  | nil => exact hne rfl
  | cons first tail =>
    obtain rfl := (List.cons_prefix_cons.mp hbegins).1
    exact word_blank_not_mem word (htail.subset List.mem_cons_self)

end Words

theorem tame_quoted (quoted : QuotedText) : Tame (literal quoted.quote quoted.inside) where
  head c hc := by
    cases hc
    exact isPySpace_of_isQuote quoted.isQuote
  last c hc := by
    rw [getLast?_literal] at hc
    cases hc
    exact isPySpace_of_isQuote quoted.isQuote
  nonempty := List.cons_ne_nil _ _
  opens {_} _ connective hbegins := by
    have hquote := quoted.isQuote
    cases connective with
    | or =>
      rw [← (List.cons_prefix_cons.mp hbegins).1] at hquote
      exact absurd hquote (by decide)
    | and =>
      rw [← (List.cons_prefix_cons.mp hbegins).1] at hquote
      exact absurd hquote (by decide)
  inside left rest _ := splitFrom_literal quoted.isQuote quoted.unquoted _ left rest

theorem tame_term (term : Term) : Tame term.text := by
  cases term with
  | ofWord word => exact tame_word word
  | ofQuoted quoted => exact tame_quoted quoted

theorem passes_term (connective : Connective) (term : Term) : Passes connective term.text := by
  cases term with
  | ofWord word => exact passes_word word connective
  | ofQuoted quoted =>
    intro rest _
    exact splitFrom_literal quoted.isQuote quoted.unquoted 0 none rest

/-! ## Texts before a part -/

/-- A text before another one, in which the connective begins at most with a blank at its end. -/
structure Leads (connective : Connective) (front : List Char) : Prop where
  plain : ∀ c ∈ front, isPlain c = true
  tails : ∀ tail ∈ front.tails, tail = [] ∨ tail = [' '] ∨ tail.head? ≠ some ' ' ∨
    (2 ≤ tail.length ∧ tail.take 2 ≠ connective.text.take 2)

theorem leads_spelling (connective : Connective) (op : CompareOp) :
    Leads connective op.spelling where
  plain := plain_of_mem_spelling op
  tails := by cases connective <;> cases op <;> decide

theorem leads_notForm (connective : Connective) (form : NotForm) : Leads connective form.text where
  plain := by cases form <;> exact List.all_eq_true.mp (by decide)
  tails := by cases connective <;> cases form <;> decide

theorem leads_and : Leads .or Connective.and.text where
  plain := List.all_eq_true.mp (by decide)
  tails := by decide

theorem passes_leads {connective : Connective} {front text : List Char}
    (hleads : Leads connective front) (htame : Tame text) (hpasses : Passes connective text) :
    Passes connective (front ++ text) := by
  intro rest hrest
  rw [List.append_assoc, splitFrom_append hleads.plain 0 none, hpasses rest hrest, addFront_append]
  intro _ _ tail htail hne hbegins
  obtain hnil | hblank | hother | ⟨hlength, htake⟩ :=
    hleads.tails tail ((List.mem_tails _ _).mpr htail)
  · exact hne hnil
  · rw [hblank, connective_text] at hbegins
    exact htame.opens hrest connective (List.cons_prefix_cons.mp hbegins).2
  · rw [connective_text] at hbegins
    cases tail with
    | nil => exact hne rfl
    | cons first tail =>
      exact hother (congrArg some (List.cons_prefix_cons.mp hbegins).1.symm)
  · obtain ⟨after, hafter⟩ := hbegins
    have hsame := congrArg (List.take 2) hafter
    have hlong : 2 ≤ connective.text.length := by cases connective <;> decide
    rw [List.take_append_of_le_length hlong, List.take_append_of_le_length hlength] at hsame
    exact htake hsame.symm

theorem inside_plain {front text : List Char} (hplain : ∀ c ∈ front, isPlain c = true)
    (htame : Tame text) {sep : List Char} {depth : ℕ}
    (left : Option ℕ) (rest : List Char) (hdepth : 0 < depth) :
    splitFrom sep none depth left 0 (front ++ text ++ rest) =
      addFront (front ++ text) (splitFrom sep none depth left 0 rest) := by
  rw [List.append_assoc, splitFrom_append hplain _ left
    fun hzero => absurd hzero (Nat.pos_iff_ne_zero.mp hdepth), htame.inside left rest hdepth,
    addFront_append]

theorem Tame.append {front middle text : List Char} (hfront : Tame front)
    (hplain : ∀ c ∈ middle, isPlain c = true) (hblank : Boundary middle) (hnonempty : middle ≠ [])
    (htext : Tame text) : Tame (front ++ (middle ++ text)) where
  head c hc := hfront.head c (hfront.boundary_append _ hc)
  last c hc := by
    rw [← List.append_assoc, List.getLast?_append_of_ne_nil _ htext.nonempty] at hc
    exact htext.last c hc
  nonempty := List.append_ne_nil_of_left_ne_nil hfront.nonempty _
  opens {rest} _ connective := by
    rw [List.append_assoc]
    refine hfront.opens (fun c hc => hblank c ?_) connective
    cases middle with
    | nil => exact absurd rfl hnonempty
    | cons first middle => exact hc
  inside left rest hdepth := by
    rw [List.append_assoc, hfront.inside left _ hdepth, inside_plain hplain htext left rest hdepth,
      addFront_append front]

/-! ## Groups -/

theorem splitFrom_group {sep text : List Char} (htame : Tame text) (depth : ℕ) (left : Option ℕ)
    (rest : List Char) :
    splitFrom sep none depth left 0 (group text ++ rest) =
      addFront (group text) (splitFrom sep none depth left 0 rest) := by
  have htext : group text ++ rest = '(' :: (text ++ ')' :: rest) := by
    simp [group]
  rw [htext, splitFrom, if_neg (by decide), if_pos rfl, htame.inside left _ (Nat.succ_pos depth),
    splitFrom, if_neg (by decide), if_neg (by decide), if_pos rfl]
  have hfront : addFront (group text) (splitFrom sep none depth left 0 rest) =
      consHead '(' (addFront text (consHead ')' (splitFrom sep none depth left 0 rest))) := by
    rw [group, addFront_cons, addFront_append]
    rfl
  exact hfront.symm

theorem tame_group {text : List Char} (htame : Tame text) : Tame (group text) where
  head c hc := by
    cases hc
    decide
  last c hc := by
    rw [group, ← List.cons_append, List.getLast?_concat] at hc
    cases hc
    decide
  nonempty := List.cons_ne_nil _ _
  opens {_} _ connective hbegins := by
    cases connective with
    | or => exact absurd (List.cons_prefix_cons.mp hbegins).1 (by decide)
    | and => exact absurd (List.cons_prefix_cons.mp hbegins).1 (by decide)
  inside left rest _ := splitFrom_group htame _ left rest

theorem passes_group {text : List Char} (htame : Tame text) (connective : Connective) :
    Passes connective (group text) := fun rest _ => splitFrom_group htame 0 none rest

theorem tame_neg (form : NotForm) {text : List Char} (htame : Tame text) :
    Tame (form.text ++ text) where
  head c hc := by
    cases form <;> obtain rfl := Option.some.inj hc <;> decide
  last c hc := by
    rw [List.getLast?_append_of_ne_nil _ htame.nonempty] at hc
    exact htame.last c hc
  nonempty := List.append_ne_nil_of_right_ne_nil _ htame.nonempty
  opens {_} _ connective hbegins := by
    cases form <;> cases connective <;>
      exact absurd (List.cons_prefix_cons.mp hbegins).1 (by decide)
  inside left rest hdepth := inside_plain (leads_notForm .or form).plain htame left rest hdepth

/-! ## The texts of expressions -/

namespace BoolExpr

theorem tame_part {expr : BoolExpr} (htame : Tame expr.text) : Tame expr.partText := by
  unfold partText
  split
  · exact tame_group htame
  · exact htame

theorem plain_connective (connective : Connective) : ∀ c ∈ connective.text, isPlain c = true := by
  cases connective <;> exact List.all_eq_true.mp (by decide)

theorem tame_text (expr : BoolExpr) : Tame expr.text := by
  induction expr with
  | test word => exact tame_word word
  | compare left op right =>
    exact (tame_term left).append (plain_of_mem_spelling op) (boundary_cons _)
      (List.cons_ne_nil _ _) (tame_term right)
  | neg form inner ih =>
    refine tame_neg form ?_
    split
    · exact tame_group ih
    · exact ih
  | conj left right hleft hright =>
    exact (tame_part hleft).append (plain_connective .and) (boundary_cons _)
      (List.cons_ne_nil _ _) (tame_part hright)
  | disj left right hleft hright =>
    exact hleft.append (plain_connective .or) (boundary_cons _) (List.cons_ne_nil _ _) hright

def isConj : BoolExpr → Bool
  | .conj _ _ => true
  | _ => false

theorem passes_partText (connective : Connective) (expr : BoolExpr)
    (hpart : connective = .and → expr.isConj = false) : Passes connective expr.partText := by
  induction expr with
  | test word => exact passes_word word connective
  | compare left op right =>
    intro rest hrest
    have hright := passes_leads (leads_spelling connective op) (tame_term right)
      (passes_term connective right) rest hrest
    have hleft : Boundary (op.spelling ++ right.text ++ rest) := boundary_cons _
    have htext : (BoolExpr.compare left op right).partText ++ rest =
        left.text ++ (op.spelling ++ right.text ++ rest) := List.append_assoc ..
    rw [htext, passes_term connective left _ hleft, hright, ← addFront_append]
    rfl
  | neg form inner ih =>
    refine passes_leads (leads_notForm connective form) ?_ ?_
    · split
      · exact tame_group (tame_text inner)
      · exact tame_text inner
    · split
      · exact passes_group (tame_text inner) connective
      · next hchain =>
        cases inner with
        | test word => exact ih fun _ => rfl
        | compare left op right => exact ih fun _ => rfl
        | neg form inner => exact ih fun _ => rfl
        | conj left right => exact absurd rfl hchain
        | disj left right => exact absurd rfl hchain
  | conj left right hleft hright =>
    cases connective with
    | and => exact Bool.noConfusion (hpart rfl)
    | or =>
      have hor : ∀ expr : BoolExpr, Connective.or = .and → expr.isConj = false :=
        fun expr hsame => Connective.noConfusion hsame
      intro rest hrest
      have hafter := passes_leads leads_and (tame_part (tame_text right))
        (hright (hor right)) rest hrest
      have hbefore : Boundary (Connective.and.text ++ right.partText ++ rest) :=
        boundary_cons _
      have htext : (BoolExpr.conj left right).partText ++ rest =
          left.partText ++ (Connective.and.text ++ right.partText ++ rest) :=
        List.append_assoc ..
      rw [htext, hleft (hor left) _ hbefore, hafter, ← addFront_append]
      rfl
  | disj left right => exact passes_group (tame_text (.disj left right)) connective

end BoolExpr

def Cuts (connective : Connective) (text : List Char) (front : List (List Char))
    (last : List Char) : Prop :=
  ∀ rest, Boundary rest → splitFrom connective.text none 0 none 0 (text ++ rest) =
    front ++ addFront last (splitFrom connective.text none 0 none 0 rest)

theorem Passes.cuts {connective : Connective} {text : List Char}
    (hpasses : Passes connective text) : Cuts connective text [] text := hpasses

theorem Cuts.append {connective : Connective} {text other last otherLast : List Char}
    {front otherFront : List (List Char)} (htext : Cuts connective text front last)
    (hother : Cuts connective other otherFront otherLast) :
    Cuts connective (text ++ (connective.text ++ other)) (front ++ last :: otherFront)
      otherLast := by
  intro rest hrest
  have hboundary : Boundary (connective.text ++ (other ++ rest)) := by
    rw [connective_text]
    exact boundary_cons _
  rw [List.append_assoc, List.append_assoc, htext _ hboundary,
    splitFrom_cut (connective_text connective) (by decide), addFront_part, List.append_nil]
  have hafter := hother rest hrest
  rw [Option.map_none, hafter, List.append_assoc]
  rfl

theorem Cuts.splitTopLevel_eq {connective : Connective} {text last : List Char}
    {front : List (List Char)} (hcuts : Cuts connective text front last) :
    splitTopLevel text connective.text none = front ++ [last] := by
  have hsplit := hcuts [] boundary_nil
  rw [List.append_nil] at hsplit
  rw [splitTopLevel, hsplit, splitFrom, addFront_part, List.append_nil]

namespace BoolExpr

/-- The operands of a chain of `or`, the last one apart. -/
def disjuncts : BoolExpr → List BoolExpr × BoolExpr
  | .disj left right =>
    (left.disjuncts.1 ++ left.disjuncts.2 :: right.disjuncts.1, right.disjuncts.2)
  | expr => ([], expr)

/-- The operands of a chain of `and`, the last one apart. -/
def conjuncts : BoolExpr → List BoolExpr × BoolExpr
  | .conj left right =>
    (left.conjuncts.1 ++ left.conjuncts.2 :: right.conjuncts.1, right.conjuncts.2)
  | expr => ([], expr)

theorem cuts_or (expr : BoolExpr) :
    Cuts .or expr.text (expr.disjuncts.1.map text) expr.disjuncts.2.text := by
  induction expr with
  | disj left right hleft hright =>
    have hcuts := hleft.append hright
    rwa [disjuncts, List.map_append, List.map_cons]
  | test word => exact (passes_word word .or).cuts
  | compare left op right =>
    exact (passes_partText .or (.compare left op right) fun _ => rfl).cuts
  | neg form inner => exact (passes_partText .or (.neg form inner) fun _ => rfl).cuts
  | conj left right =>
    exact (passes_partText .or (.conj left right) fun hsame => Connective.noConfusion hsame).cuts

theorem cuts_and (expr : BoolExpr) :
    Cuts .and expr.partText (expr.conjuncts.1.map partText) expr.conjuncts.2.partText := by
  induction expr with
  | conj left right hleft hright =>
    have hcuts := hleft.append hright
    rwa [conjuncts, List.map_append, List.map_cons]
  | test word => exact (passes_word word .and).cuts
  | compare left op right =>
    exact (passes_partText .and (.compare left op right) fun _ => rfl).cuts
  | neg form inner => exact (passes_partText .and (.neg form inner) fun _ => rfl).cuts
  | disj left right => exact (passes_partText .and (.disj left right) fun _ => rfl).cuts

variable (value : List Char → Bool)

theorem disjuncts_disj (left right : BoolExpr) :
    (BoolExpr.disj left right).disjuncts.1 ++ [(BoolExpr.disj left right).disjuncts.2] =
      (left.disjuncts.1 ++ [left.disjuncts.2]) ++ (right.disjuncts.1 ++ [right.disjuncts.2]) := by
  simp [disjuncts]

theorem holds_disjuncts (expr : BoolExpr) : expr.holds value =
      (expr.disjuncts.1 ++ [expr.disjuncts.2]).any fun operand => operand.holds value := by
  induction expr with
  | disj left right hleft hright =>
    rw [holds, hleft, hright, disjuncts_disj]
    exact List.any_append.symm
  | _ => simp [disjuncts]

theorem conjuncts_conj (left right : BoolExpr) :
    (BoolExpr.conj left right).conjuncts.1 ++ [(BoolExpr.conj left right).conjuncts.2] =
      (left.conjuncts.1 ++ [left.conjuncts.2]) ++ (right.conjuncts.1 ++ [right.conjuncts.2]) := by
  simp [conjuncts]

theorem holds_conjuncts (expr : BoolExpr) : expr.holds value =
      (expr.conjuncts.1 ++ [expr.conjuncts.2]).all fun operand => operand.holds value := by
  induction expr with
  | conj left right hleft hright =>
    rw [holds, hleft, hright, conjuncts_conj]
    exact List.all_append.symm
  | _ => simp [conjuncts]

end BoolExpr

/-! ## The beginning of a chain -/

theorem outerDepth_append {text rest : List Char} (depth : ℤ) : outerDepth depth (text ++ rest) =
      (outerDepth depth text).bind fun after => outerDepth after rest := by
  induction text generalizing depth with
  | nil => rfl
  | cons c text ih =>
    rw [List.cons_append, outerDepth, outerDepth]
    split
    · exact ih _
    · split
      · split
        · rfl
        · exact ih _
      · exact ih _

theorem head?_strip {text : List Char} {c : Char} (hhead : text.head? = some c)
    (hspace : isPySpace c = false) : (strip text).head? = some c := by
  cases text with
  | nil => cases hhead
  | cons first text =>
    obtain rfl := Option.some.inj hhead
    have hdrop : (first :: text).dropWhile isPySpace = first :: text :=
      List.dropWhile_cons_of_neg (Bool.eq_false_iff.mp hspace)
    rw [strip, trimChars, hdrop, List.reverse_cons, List.dropWhile_append]
    split
    · rw [List.dropWhile_cons_of_neg (Bool.eq_false_iff.mp hspace)]
      rfl
    · rw [List.reverse_append]
      rfl

/-- A text is not one group, and not the negation of one. -/
structure Undivided (text : List Char) : Prop where
  outer : isOuterGroup text = false
  no_word : ¬ ("not ".toList <+: text ∧ (strip (text.drop 4)).head? = some '(')
  no_bang : ¬ (text.head? = some '!' ∧ (strip (text.drop 1)).head? = some '(')

/-- Such is every text that goes on after this one. -/
def Starts (text : List Char) : Prop := ∀ rest, Undivided (text ++ ' ' :: rest)

theorem Starts.append {text : List Char} (hstarts : Starts text) (more : List Char) :
    Starts (text ++ ' ' :: more) := by
  intro rest
  rw [List.append_assoc]
  exact hstarts _

theorem starts_of_head {text : List Char} {c : Char} (hhead : text.head? = some c)
    (hopen : c ≠ '(') (hbang : c ≠ '!') (hnot : ∀ rest, ¬ "not ".toList <+: text ++ ' ' :: rest) :
    Starts text := by
  intro rest
  have hfirst : (text ++ ' ' :: rest).head? = some c := by
    rw [List.head?_append, hhead]
    rfl
  exact
    { outer := by simp [isOuterGroup, hfirst, hopen]
      no_word := fun hword => hnot rest hword.1
      no_bang := fun hnegated => hbang (Option.some.inj (hfirst.symm.trans hnegated.1)) }

theorem exists_head_word (word : Word) :
    ∃ c, word.text.head? = some c ∧ isPySpace c = false ∧ c ≠ '(' ∧ c ≠ '!' := by
  cases htext : word.text with
  | nil => exact absurd htext word.nonempty
  | cons c text =>
    have hmem : c ∈ word.text := htext ▸ List.mem_cons_self
    have hplain := word.plain c hmem
    refine ⟨c, rfl, word.unspaced c hmem, ?_, ?_⟩
    · rintro rfl
      exact absurd hplain (by decide)
    · rintro rfl
      exact word.no_bang (congrArg List.head? htext)

theorem starts_word (word : Word) : Starts word.text := by
  obtain ⟨c, hhead, -, hopen, hbang⟩ := exists_head_word word
  refine starts_of_head hhead hopen hbang ?_
  rintro rest ⟨after, hafter⟩
  rw [show "not ".toList ++ after = "not".toList ++ ' ' :: after from rfl] at hafter
  exact word.no_not (eq_of_append_separator (by decide) (word_blank_not_mem word) hafter).1.symm

theorem starts_quoted (quoted : QuotedText) : Starts (literal quoted.quote quoted.inside) := by
  have hquote := quoted.isQuote
  refine starts_of_head rfl ?_ ?_ ?_
  · intro heq
    rw [heq] at hquote
    exact absurd hquote (by decide)
  · intro heq
    rw [heq] at hquote
    exact absurd hquote (by decide)
  · intro rest hbegins
    rw [← (List.cons_prefix_cons.mp hbegins).1] at hquote
    exact absurd hquote (by decide)

theorem starts_term (term : Term) : Starts term.text := by
  cases term with
  | ofWord word => exact starts_word word
  | ofQuoted quoted => exact starts_quoted quoted

theorem undivided_negated (form : NotForm) {text : List Char}
    (hafter : (strip text).head? ≠ some '(') : Undivided (form.text ++ text) := by
  cases form with
  | word =>
    exact
      { outer := rfl
        no_word := fun hnegated => hafter hnegated.2
        no_bang := fun hnegated => absurd (Option.some.inj hnegated.1) (by decide) }
  | bang =>
    exact
      { outer := rfl
        no_word := fun hnegated =>
          absurd (List.cons_prefix_cons.mp hnegated.1).1 (by decide)
        no_bang := fun hnegated => hafter hnegated.2 }

theorem starts_negated (form : NotForm) (word : Word) : Starts (form.text ++ word.text) := by
  obtain ⟨c, hhead, hspace, hopen, -⟩ := exists_head_word word
  intro rest
  have hword : (word.text ++ ' ' :: rest).head? = some c := by
    rw [List.head?_append, hhead]
    rfl
  rw [List.append_assoc]
  apply undivided_negated
  rw [head?_strip hword hspace]
  exact fun heq => hopen (Option.some.inj heq)

theorem starts_group {text : List Char} (hbalanced : Balanced text) : Starts (group text) := by
  intro rest
  have htext : group text ++ ' ' :: rest = '(' :: (text ++ ')' :: ' ' :: rest) := by
    simp [group]
  rw [htext]
  refine
    { outer := ?_
      no_word := fun hnegated => absurd (List.cons_prefix_cons.mp hnegated.1).1 (by decide)
      no_bang := fun hnegated => absurd (Option.some.inj hnegated.1) (by decide) }
  have hlast : ('(' :: (text ++ ')' :: ' ' :: rest)).dropLast =
      '(' :: (text ++ ')' :: (' ' :: rest).dropLast) := by
    rw [← List.cons_append, List.dropLast_append_of_ne_nil (List.cons_ne_nil _ _)]
    rfl
  have hdepth : outerDepth 0 ('(' :: (text ++ ')' :: (' ' :: rest).dropLast)) = none := by
    have hinner : outerDepth (0 + 1) text = some 1 := hbalanced
    rw [outerDepth, if_pos rfl, outerDepth_append, hinner]
    rfl
  rw [isOuterGroup, hlast, hdepth]
  simp

def Place.textOf : Place → BoolExpr → List Char
  | .andPart _, expr => expr.partText
  | _, expr => expr.text

theorem starts_textOf (expr : BoolExpr) {place : Place} (hbegins : place.begins = true)
    (hreadable : Readable place expr) : Starts (place.textOf expr) := by
  induction expr generalizing place with
  | test word =>
    cases place <;> exact starts_word word
  | compare left op right =>
    have hleft := (starts_term left).append (op.word.toList ++ [' '] ++ right.text)
    cases place <;> exact hleft
  | neg form inner =>
    obtain htest | ⟨-, hnot, -⟩ := hreadable
    · cases inner with
      | test word => cases place <;> exact starts_negated form word
      | _ => cases htest
    · rw [hbegins] at hnot
      cases hnot
  | conj left right hleft hright =>
    have hfirst : Readable (.andPart true) left := by
      cases place with
      | whole => cases hbegins
      | orPart first => exact hreadable.1
      | andPart first =>
        obtain rfl : first = true := hbegins
        exact hreadable.1
    have hstarts := (hleft rfl hfirst).append (Connective.and.tail ++ right.partText)
    cases place <;> exact hstarts
  | disj left right hleft hright =>
    cases place with
    | whole => cases hbegins
    | orPart first =>
      obtain rfl : first = true := hbegins
      exact (hleft rfl hreadable.1).append (Connective.or.tail ++ right.text)
    | andPart first => exact starts_group hreadable.1

theorem undivided_chain {expr : BoolExpr} (hchain : expr.isChain = true)
    (hreadable : Readable .whole expr) : Undivided expr.text := by
  cases expr with
  | conj left right => exact starts_textOf left rfl hreadable.1 _
  | disj left right => exact starts_textOf left rfl hreadable.1 _
  | _ => cases hchain

end SignPulse.Conditions
