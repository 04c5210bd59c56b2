import SignPulse.Flow.BooleanTexts

/-!
# Values of boolean expressions

What `eval_condition` makes of a boolean expression that is written with the fewest parentheses.
-/

namespace SignPulse.Conditions

open Foundation
open FlowContext

/-! ## The value of a text -/

section Values

variable (python : Interpreter) (scope : Dict String PyValue)

theorem stripGroups_of_not_outer {expr : List Char} (houter : isOuterGroup expr = false)
    (times : ℕ) : stripGroups times expr = expr := by
  cases times with
  | zero => rfl
  | succ times =>
    rw [stripGroups, houter]
    rfl

/-- The part of `eval_condition` after the groups and the negations of groups. -/
def evalOperands (expr : List Char) : Bool :=
  match partsBetween " or ".toList expr with
  | some parts => parts.any fun part => evalCondition python scope (strip part)
  | none =>
    match partsBetween " and ".toList expr with
    | some parts => parts.all fun part => evalCondition python scope (strip part)
    | none => evalTest python scope expr

variable {text : List Char}

theorem evalCondition_of_undivided (htame : Tame text) (hundivided : Undivided text) :
    evalCondition python scope text = evalOperands python scope text := by
  rw [evalCondition_eq, evalBody, htame.strip_eq, stripGroups_of_not_outer hundivided.outer,
    if_neg hundivided.no_word, if_neg hundivided.no_bang]
  rfl

theorem evalCondition_group (htame : Tame text) (hundivided : Undivided text)
    (hbalanced : Balanced text) :
    evalCondition python scope (group text) = evalCondition python scope text := by
  have hinner : ((group text).drop 1).dropLast = text := by
    simp [group]
  have houter : isOuterGroup (group text) = true := by
    have hlast : (group text).getLast? = some ')' := by
      rw [group, ← List.cons_append, List.getLast?_concat]
    have hdrop : (group text).dropLast = '(' :: text := by
      rw [group, ← List.cons_append, List.dropLast_concat]
    have hdepth : outerDepth 0 ('(' :: text) = some 1 := hbalanced
    rw [isOuterGroup, hlast, hdrop, hdepth]
    simp [group]
  have hstrip : stripGroups (group text).length (group text) = text := by
    have hlength : (group text).length = (text ++ [')']).length + 1 := rfl
    rw [hlength, stripGroups, houter, if_pos rfl, hinner, htame.strip_eq,
      stripGroups_of_not_outer hundivided.outer]
  rw [evalCondition_of_undivided python scope htame hundivided, evalCondition_eq, evalBody,
    (tame_group htame).strip_eq, hstrip, if_neg hundivided.no_word, if_neg hundivided.no_bang]
  rfl

theorem partsBetween_of_cuts {connective : Connective} {last : List Char} {front : List (List Char)}
    (hcuts : Cuts connective text front last) :
    partsBetween connective.text text =
      if connective.text <:+: text ∧ front ≠ [] then some (front ++ [last]) else none := by
  rw [partsBetween, hcuts.splitTopLevel_eq]
  by_cases hwithin : connective.text <:+: text
  · rw [if_pos hwithin]
    cases front with
    | nil => simp
    | cons first front => simp [hwithin]
  · rw [if_neg hwithin, if_neg fun hboth => hwithin hboth.1]

theorem evalOperands_disj (left right : BoolExpr) :
    evalOperands python scope (BoolExpr.disj left right).text =
      ((BoolExpr.disj left right).disjuncts.1 ++ [(BoolExpr.disj left right).disjuncts.2]).any
        fun operand => evalCondition python scope operand.text := by
  have hcuts := partsBetween_of_cuts (BoolExpr.disj left right).cuts_or
  have hwithin : Connective.or.text <:+: (BoolExpr.disj left right).text :=
    ⟨left.text, right.text, List.append_assoc ..⟩
  have hfront : (BoolExpr.disj left right).disjuncts.1.map BoolExpr.text ≠ [] := by
    simp [BoolExpr.disjuncts]
  rw [if_pos ⟨hwithin, hfront⟩] at hcuts
  have hparts : partsBetween " or ".toList (BoolExpr.disj left right).text = _ := hcuts
  rw [evalOperands, hparts]
  simp only [List.any_append, List.any_map, List.any_cons, List.any_nil, Bool.or_false,
    Function.comp_def, (BoolExpr.tame_text _).strip_eq]

theorem evalOperands_conj (left right : BoolExpr) :
    evalOperands python scope (BoolExpr.conj left right).text =
      ((BoolExpr.conj left right).conjuncts.1 ++ [(BoolExpr.conj left right).conjuncts.2]).all
        fun operand => evalCondition python scope operand.partText := by
  have hnone := partsBetween_of_cuts (BoolExpr.conj left right).cuts_or
  have hcuts := partsBetween_of_cuts (BoolExpr.conj left right).cuts_and
  have hwithin : Connective.and.text <:+: (BoolExpr.conj left right).text :=
    ⟨left.partText, right.partText, List.append_assoc ..⟩
  have hfront : (BoolExpr.conj left right).conjuncts.1.map BoolExpr.partText ≠ [] := by
    simp [BoolExpr.conjuncts]
  have hor : partsBetween " or ".toList (BoolExpr.conj left right).text = none :=
    hnone.trans (if_neg fun hboth => hboth.2 rfl)
  have hparts : partsBetween " and ".toList (BoolExpr.conj left right).text = _ :=
    hcuts.trans (if_pos ⟨hwithin, hfront⟩)
  rw [evalOperands, hor, hparts]
  simp only [List.all_append, List.all_map, List.all_cons, List.all_nil, Bool.and_true,
    Function.comp_def, (BoolExpr.tame_part (BoolExpr.tame_text _)).strip_eq]

/-! ### Negations -/

theorem not_infix_of_count {sep : List Char} (hsep : 2 ≤ sep.count ' ') (htext : text.count ' ' ≤ 1)
    : ¬ sep <:+: text := fun hwithin =>
  absurd (hsep.trans (hwithin.sublist.count_le ' ')) (Nat.not_le.mpr (Nat.lt_succ_of_le htext))

theorem evalComparison_of_count (htext : text.count ' ' ≤ 1) :
    evalComparison python scope text = none := by
  have hfirst : ∀ chain : List CompareOp, firstOperator python scope text chain = none := by
    intro chain
    induction chain with
    | nil => rfl
    | cons op chain ih =>
      have hspelling : 2 ≤ op.spelling.count ' ' := by cases op <;> decide
      rw [firstOperator, if_neg (not_infix_of_count hspelling htext), ih]
  rw [evalComparison, List.findSome?_eq_none_iff]
  exact fun chain _ => hfirst chain

/-- A text with one blank is no chain and no comparison. -/
theorem evalCondition_of_count (htame : Tame text) (hundivided : Undivided text)
    (htext : text.count ' ' ≤ 1) :
    evalCondition python scope text =
      if text.head? = some '!' then !pathTruth python scope (strip (text.drop 1))
      else if "not ".toList <+: text then !pathTruth python scope (strip (text.drop 4))
      else pathTruth python scope text := by
  have hparts : ∀ connective : Connective, partsBetween connective.text text = none := by
    intro connective
    have hspelling : 2 ≤ connective.text.count ' ' := by cases connective <;> decide
    rw [partsBetween, if_neg (not_infix_of_count hspelling htext)]
  have hor : partsBetween " or ".toList text = none := hparts .or
  have hand : partsBetween " and ".toList text = none := hparts .and
  rw [evalCondition_of_undivided python scope htame hundivided, evalOperands, hor, hand]
  rw [evalTest, evalComparison_of_count python scope htext]
  rw [if_neg htame.nonempty]

theorem evalCondition_word (word : Word) :
    evalCondition python scope word.text = pathTruth python scope word.text := by
  obtain ⟨c, hhead, -, hopen, hbang⟩ := exists_head_word word
  have hno_bang : word.text.head? ≠ some '!' := word.no_bang
  have hno_word : ¬ "not ".toList <+: word.text := fun hbegins =>
    word_blank_not_mem word (hbegins.subset (by decide))
  have hundivided : Undivided word.text :=
    { outer := by simp [isOuterGroup, hhead, hopen]
      no_word := fun hnegated => hno_word hnegated.1
      no_bang := fun hnegated => hno_bang hnegated.1 }
  have hcount : word.text.count ' ' ≤ 1 := by
    rw [List.count_eq_zero_of_not_mem (word_blank_not_mem word)]
    exact Nat.zero_le 1
  rw [evalCondition_of_count python scope (tame_word word) hundivided hcount, if_neg hno_bang,
    if_neg hno_word]

theorem evalCondition_not_word (form : NotForm) (word : Word) :
    evalCondition python scope (form.text ++ word.text) =
      !evalCondition python scope word.text := by
  have htame := tame_word word
  obtain ⟨c, hhead, hspace, hopen, -⟩ := exists_head_word word
  have hundivided : Undivided (form.text ++ word.text) := by
    apply undivided_negated
    rw [head?_strip hhead hspace]
    exact fun heq => hopen (Option.some.inj heq)
  have hcount : (form.text ++ word.text).count ' ' ≤ 1 := by
    rw [List.count_append, List.count_eq_zero_of_not_mem (word_blank_not_mem word)]
    cases form <;> decide
  rw [evalCondition_of_count python scope (tame_neg form htame) hundivided hcount,
    evalCondition_word]
  cases form with
  | word =>
    have hdrop : ("not ".toList ++ word.text).drop 4 = word.text := rfl
    have hbegins : "not ".toList <+: "not ".toList ++ word.text := List.prefix_append _ _
    rw [NotForm.text, if_neg (by simp), if_pos hbegins, hdrop, htame.strip_eq]
  | bang =>
    have hdrop : (['!'] ++ word.text).drop 1 = word.text := rfl
    have hhead : (['!'] ++ word.text).head? = some '!' := rfl
    rw [NotForm.text, if_pos hhead, hdrop, htame.strip_eq]

theorem evalCondition_not_group (form : NotForm) (htame : Tame text) :
    evalCondition python scope (form.text ++ group text) =
      !evalCondition python scope (group text) := by
  have hgroup := tame_group htame
  have houter : isOuterGroup (form.text ++ group text) = false := by cases form <;> rfl
  rw [evalCondition_eq, evalBody, (tame_neg form hgroup).strip_eq, stripGroups_of_not_outer houter]
  cases form with
  | word =>
    have hrest : strip (("not ".toList ++ group text).drop 4) = group text := hgroup.strip_eq
    have hbegins : "not ".toList <+: "not ".toList ++ group text := List.prefix_append _ _
    refine (if_pos ⟨hbegins, congrArg List.head? hrest⟩).trans ?_
    exact congrArg (fun rest => !evalCondition python scope rest) hrest
  | bang =>
    have hrest : strip ((['!'] ++ group text).drop 1) = group text := hgroup.strip_eq
    have hno_word : ¬ "not ".toList <+: ['!'] ++ group text := fun hbegins =>
      absurd (List.cons_prefix_cons.mp hbegins).1 (by decide)
    refine (if_neg fun hword => hno_word hword.1).trans ?_
    refine (if_pos ⟨rfl, congrArg List.head? hrest⟩).trans ?_
    exact congrArg (fun rest => !evalCondition python scope rest) hrest

/-! ### All expressions -/

section

variable {α : Type*} {items : List α} {value other : α → Bool}
  (hsame : ∀ item ∈ items, value item = other item)

include hsame

theorem any_of_same : items.any value = items.any other := by
  rw [Bool.eq_iff_iff, List.any_eq_true, List.any_eq_true]
  exact exists_congr fun item => and_congr_right fun hitem => by rw [hsame item hitem]

theorem all_of_same : items.all value = items.all other := by
  rw [Bool.eq_iff_iff, List.all_eq_true, List.all_eq_true]
  exact forall₂_congr fun item hitem => by rw [hsame item hitem]

end

/-- The texts of the expression and of its operands have the values of these. -/
structure Evaluated (expr : BoolExpr) : Prop where
  whole : Readable .whole expr →
    evalCondition python scope expr.text = expr.holds (evalCondition python scope)
  orParts : ∀ first, Readable (.orPart first) expr →
    ∀ operand ∈ expr.disjuncts.1 ++ [expr.disjuncts.2],
      evalCondition python scope operand.text = operand.holds (evalCondition python scope)
  andParts : ∀ first, Readable (.andPart first) expr →
    ∀ operand ∈ expr.conjuncts.1 ++ [expr.conjuncts.2],
      evalCondition python scope operand.partText = operand.holds (evalCondition python scope)

theorem evaluated_of_single {expr : BoolExpr} (hsingle : expr.isChain = false)
    (hvalue : ∀ place, Readable place expr →
      evalCondition python scope expr.text = expr.holds (evalCondition python scope)) :
    Evaluated python scope expr := by
  have hdisjuncts : expr.disjuncts = ([], expr) := by
    cases expr <;> first | rfl | cases hsingle
  have hconjuncts : expr.conjuncts = ([], expr) := by
    cases expr <;> first | rfl | cases hsingle
  have hpart : expr.partText = expr.text := by
    cases expr <;> first | rfl | cases hsingle
  refine ⟨hvalue .whole, fun first hreadable operand hoperand => ?_,
    fun first hreadable operand hoperand => ?_⟩
  · rw [hdisjuncts] at hoperand
    obtain rfl := List.mem_singleton.mp hoperand
    exact hvalue _ hreadable
  · rw [hconjuncts] at hoperand
    obtain rfl := List.mem_singleton.mp hoperand
    rw [hpart]
    exact hvalue _ hreadable

theorem evaluated_neg (form : NotForm) {inner : BoolExpr} (ih : Evaluated python scope inner) :
    Evaluated python scope (.neg form inner) := by
  refine evaluated_of_single python scope rfl fun place hreadable => ?_
  rw [BoolExpr.holds]
  obtain htest | ⟨hchain, -, hbalanced, hinner⟩ := hreadable
  · cases inner with
    | test word => exact evalCondition_not_word python scope form word
    | _ => cases htest
  · have htame := inner.tame_text
    have hgroup := evalCondition_group python scope htame (undivided_chain hchain hinner) hbalanced
    rw [BoolExpr.text, if_pos hchain, evalCondition_not_group python scope form htame, hgroup,
      ih.whole hinner]

section

variable {left right : BoolExpr} (hleft : Evaluated python scope left)
  (hright : Evaluated python scope right)

include hleft hright

theorem evaluated_conj : Evaluated python scope (.conj left right) := by
  have hparts : ∀ {first : Bool}, Readable (.andPart first) left → Readable (.andPart false) right →
      ∀ operand ∈ (BoolExpr.conj left right).conjuncts.1 ++
          [(BoolExpr.conj left right).conjuncts.2],
        evalCondition python scope operand.partText =
          operand.holds (evalCondition python scope) := by
    intro first hfirst hrest operand hoperand
    rw [BoolExpr.conjuncts_conj] at hoperand
    obtain hoperand | hoperand := List.mem_append.mp hoperand
    · exact hleft.andParts _ hfirst operand hoperand
    · exact hright.andParts _ hrest operand hoperand
  have hwhole : Readable .whole (.conj left right) →
      evalCondition python scope (BoolExpr.conj left right).text =
        (BoolExpr.conj left right).holds (evalCondition python scope) := by
    intro hreadable
    rw [evalCondition_of_undivided python scope (BoolExpr.tame_text _)
      (undivided_chain rfl hreadable), evalOperands_conj, BoolExpr.holds_conjuncts]
    exact all_of_same (hparts hreadable.1 hreadable.2)
  refine ⟨hwhole, fun first hreadable operand hoperand => ?_,
    fun first hreadable => hparts hreadable.1 hreadable.2⟩
  obtain rfl := List.mem_singleton.mp hoperand
  exact hwhole hreadable

theorem evaluated_disj : Evaluated python scope (.disj left right) := by
  have hparts : ∀ {first : Bool}, Readable (.orPart first) left → Readable (.orPart false) right →
      ∀ operand ∈ (BoolExpr.disj left right).disjuncts.1 ++
          [(BoolExpr.disj left right).disjuncts.2],
        evalCondition python scope operand.text = operand.holds (evalCondition python scope) := by
    intro first hfirst hrest operand hoperand
    rw [BoolExpr.disjuncts_disj] at hoperand
    obtain hoperand | hoperand := List.mem_append.mp hoperand
    · exact hleft.orParts _ hfirst operand hoperand
    · exact hright.orParts _ hrest operand hoperand
  have hwhole : Readable .whole (.disj left right) →
      evalCondition python scope (BoolExpr.disj left right).text =
        (BoolExpr.disj left right).holds (evalCondition python scope) := by
    intro hreadable
    rw [evalCondition_of_undivided python scope (BoolExpr.tame_text _)
      (undivided_chain rfl hreadable), evalOperands_disj, BoolExpr.holds_disjuncts]
    exact any_of_same (hparts hreadable.1 hreadable.2)
  refine ⟨hwhole, fun first hreadable => hparts hreadable.1 hreadable.2,
    fun first hreadable operand hoperand => ?_⟩
  obtain rfl := List.mem_singleton.mp hoperand
  have hinner : Readable .whole (.disj left right) := hreadable.2
  have hgroup := evalCondition_group python scope (BoolExpr.tame_text _)
    (undivided_chain rfl hinner) hreadable.1
  exact hgroup.trans (hwhole hinner)

end

theorem evaluated (expr : BoolExpr) : Evaluated python scope expr := by
  induction expr with
  | test word => exact evaluated_of_single python scope rfl fun _ _ => rfl
  | compare left op right => exact evaluated_of_single python scope rfl fun _ _ => rfl
  | neg form inner ih => exact evaluated_neg python scope form ih
  | conj left right hleft hright => exact evaluated_conj python scope hleft hright
  | disj left right hleft hright => exact evaluated_disj python scope hleft hright

end Values

inductive Flag where
  | a | b | c

def Flag.path : Flag → String
  | .a => "vars.a"
  | .b => "vars.b"
  | .c => "vars.c"

def Flag.test (flag : Flag) : BoolExpr := .test
  { text := flag.path.toList
    nonempty := by cases flag <;> decide
    unspaced := by cases flag <;> exact none_of_all (by decide)
    plain := by cases flag <;> exact List.all_eq_true.mp (by decide)
    no_bang := by cases flag <;> decide
    no_and := by cases flag <;> decide
    no_or := by cases flag <;> decide
    no_not := by cases flag <;> decide }

end SignPulse.Conditions
