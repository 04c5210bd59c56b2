import Mathlib.Data.List.Infix
import SignPulse.Flow.ScopePaths
import SignPulse.Foundation.BoundedRecursion

/-!
# Conditions

`ScopedFlowContext.eval_condition`: the text of a condition is cut at its connectives and its
operators, which are looked for one after another.
-/

namespace SignPulse.Conditions

open Foundation
open FlowContext

/-! ## Cutting a text -/

def apostrophe : Char := Char.ofNat 39

def isQuote (c : Char) : Bool := c = apostrophe || c = '"'

/-- A character in front of the first part. -/
def consHead (c : Char) : List (List Char) → List (List Char)
  | [] => [[c]]
  | part :: parts => (c :: part) :: parts

/-- The loop of `_split_top_level`, in a literal or not, at a depth of parentheses, with so many
cuts left if they are limited, after so many characters that belong to a separator. -/
def splitFrom (sep : List Char) : Option Char → ℕ → Option ℕ → ℕ → List Char → List (List Char)
  | _, _, _, _, [] => [[]]
  | quote, depth, left, skip + 1, _ :: rest => splitFrom sep quote depth left skip rest
  | some quote, depth, left, 0, c :: rest =>
    consHead c (splitFrom sep (if c = quote then none else some quote) depth left 0 rest)
  | none, depth, left, 0, c :: rest =>
    if isQuote c then consHead c (splitFrom sep (some c) depth left 0 rest)
    else if c = '(' then consHead c (splitFrom sep none (depth + 1) left 0 rest)
    else if c = ')' then consHead c (splitFrom sep none (depth - 1) left 0 rest)
    else if depth = 0 ∧ left ≠ some 0 ∧ sep <+: c :: rest then
      [] :: splitFrom sep none 0 (left.map (· - 1)) (sep.length - 1) rest
    else consHead c (splitFrom sep none depth left 0 rest)

/-- `_split_top_level`. -/
def splitTopLevel (text sep : List Char) (maxsplit : Option ℕ) : List (List Char) :=
  splitFrom sep none 0 maxsplit 0 text

/-! ## Operands -/

/-- `text.strip()`. -/
def strip (text : List Char) : List Char := trimChars isPySpace text

inductive FloatValue where
  | finite (value : ℚ)
  | infinite (negative : Bool)
  | nan
  deriving DecidableEq

namespace FloatValue

def le : FloatValue → FloatValue → Bool
  | .nan, _ => false
  | _, .nan => false
  | .finite left, .finite right => left ≤ right
  | .infinite true, _ => true
  | _, .infinite false => true
  | _, _ => false

def lt : FloatValue → FloatValue → Bool
  | .nan, _ => false
  | _, .nan => false
  | left, right => !right.le left

def eq : FloatValue → FloatValue → Bool
  | .nan, _ => false
  | left, right => left = right

end FloatValue

/-- A value of the scopes, or one of the floats that these do not have. -/
inductive Operand where
  | data (value : PyValue)
  | float (value : FloatValue)

/-- What the conversions and patterns of the language give. -/
structure Interpreter where
  /-- `int(text)` where `text.isdigit()`. -/
  digits : String → Option ℕ
  /-- `float(text)`. -/
  floatOf : String → Option FloatValue
  /-- `str(value)`. -/
  strOf : Operand → String
  strOf_str : ∀ text, strOf (.data (.str text)) = text
  /-- `re.search(pattern, text)`, which finds nothing where the pattern is not valid. -/
  searches : String → String → Bool

/-- `bool(value)`. -/
def truthy : PyValue → Bool
  | .none => false
  | .bool value => value
  | .int value => value ≠ 0
  | .float value => value ≠ 0
  | .str value => value ≠ ""
  | .list items => !items.isEmpty
  | .dict entries => !entries.isEmpty

namespace Operand

def truthy : Operand → Bool
  | .data value => Conditions.truthy value
  | .float value => value ≠ .finite 0

/-- `isinstance(value, (int, float))`, with its value. -/
def number? : Operand → Option FloatValue
  | .data value => value.number?.map .finite
  | .float value => some value

def isBool : Operand → Bool
  | .data (.bool _) => true
  | _ => false

end Operand

section Evaluation

variable (python : Interpreter) (scope : Dict String PyValue)

def quotedBy (quote : Char) (text : List Char) : Bool :=
  text.head? = some quote && text.getLast? = some quote

/-- `int(text)`, of a text that is digits after a sign or without one. -/
def intOf (text : List Char) : Option ℤ :=
  match python.digits (String.ofList text) with
  | some value => some value
  | none =>
    if text.head? = some '-' then
      (python.digits (String.ofList (text.drop 1))).map fun value => -value
    else none

/-- `_resolve_path` in the scopes. -/
def resolve (text : List Char) : PyValue :=
  resolvePath python.digits (.dict scope) (String.ofList text)

/-- `_eval_operand`. -/
def evalOperand (rawPart : List Char) : Operand :=
  let text := strip rawPart
  let low := pyLower (String.ofList text)
  if text = [] then .data (.str "")
  else if quotedBy apostrophe text || quotedBy '"' text then
    .data (.str (String.ofList (text.drop 1).dropLast))
  else if low = "true" then .data (.bool true)
  else if low = "false" then .data (.bool false)
  else if low = "none" ∨ low = "null" then .data .none
  else
    match intOf python text with
    | some value => .data (.int value)
    | none =>
      match python.floatOf (String.ofList text) with
      | some value => .float value
      | none =>
        match resolve python scope text with
        | .none => .data (.str (String.ofList text))
        | found => .data found

/-! ## Comparisons -/

inductive CompareOp where
  | isIn | notIn | contains | notContains | matchesPattern | ge | le | gt | lt | eq | ne
  deriving DecidableEq

namespace CompareOp

def word : CompareOp → String
  | .isIn => "in"
  | .notIn => "not in"
  | .contains => "contains"
  | .notContains => "not contains"
  | .matchesPattern => "matches"
  | .ge => ">="
  | .le => "<="
  | .gt => ">"
  | .lt => "<"
  | .eq => "=="
  | .ne => "!="

/-- The operator as it is looked for. -/
def spelling (op : CompareOp) : List Char := ' ' :: (op.word.toList ++ [' '])

end CompareOp

/-- `float(value)`. -/
def toFloat : Operand → Option FloatValue
  | .data (.str text) => python.floatOf text
  | operand => operand.number?

/-- `target in src` of a list, or of the texts. -/
def isContained (target src : Operand) : Bool :=
  match src with
  | .data (.list items) =>
    match target with
    | .data value => items.any fun item => value == item
    | .float value => items.any fun item => (item.number?.map FloatValue.finite).any value.eq
  | _ => pyContains (python.strOf src) (python.strOf target)

/-- `str(value or "")`. -/
def textOf (operand : Operand) : String :=
  if operand.truthy then python.strOf operand else ""

def compareFloats (holds : FloatValue → FloatValue → Bool) (left right : Operand) : Bool :=
  match toFloat python left, toFloat python right with
  | some left, some right => holds left right
  | _, _ => false

def isEqual (left right : Operand) : Bool :=
  match left.number?, right.number? with
  | some left, some right => left.eq right
  | _, _ =>
    if left.isBool || right.isBool then left.truthy = right.truthy
    else python.strOf left = python.strOf right

/-- What an operator says of its operands. -/
def rule : CompareOp → Operand → Operand → Bool
  | .isIn, left, right => isContained python left right
  | .notIn, left, right => !isContained python left right
  | .contains, left, right => isContained python right left
  | .notContains, left, right => !isContained python right left
  | .matchesPattern, left, right => python.searches (textOf python right) (textOf python left)
  | .ge, left, right => compareFloats python (fun left right => right.le left) left right
  | .le, left, right => compareFloats python FloatValue.le left right
  | .gt, left, right => compareFloats python (fun left right => right.lt left) left right
  | .lt, left, right => compareFloats python FloatValue.lt left right
  | .eq, left, right => isEqual python left right
  | .ne, left, right => !isEqual python left right

/-- The operator between two parts, if it cuts the text. -/
def tryOperator (op : CompareOp) (expr : List Char) : Option Bool :=
  match splitTopLevel expr op.spelling (some 1) with
  | [left, right] => some (rule python op (evalOperand python scope left)
      (evalOperand python scope right))
  | _ => none

/-- An `if … elif …` over operators: only the first one that occurs is tried. -/
def firstOperator (expr : List Char) : List CompareOp → Option Bool
  | [] => none
  | op :: rest =>
    if op.spelling <:+: expr then tryOperator python scope op expr
    else firstOperator expr rest

/-- The operators, in the order in which they are looked for. -/
def operatorChains : List (List CompareOp) :=
  [[.notIn, .isIn], [.notContains, .contains], [.matchesPattern], [.ge, .le, .gt, .lt], [.eq], [.ne]]

def evalComparison (expr : List Char) : Option Bool :=
  operatorChains.findSome? fun chain => firstOperator python scope expr chain

/-! ## The evaluator -/

/-- `bool(self._resolve_path(scope, path))`. -/
def pathTruth (path : List Char) : Bool := truthy (resolve python scope path)

/-- The steps that look for no connective. -/
def evalTest (expr : List Char) : Bool :=
  match evalComparison python scope expr with
  | some value => value
  | none =>
    if expr.head? = some '!' then !pathTruth python scope (strip (expr.drop 1))
    else if "not ".toList <+: expr then !pathTruth python scope (strip (expr.drop 4))
    else if expr = [] then true
    else pathTruth python scope expr

end Evaluation

/-- The scan of `eval_condition` up to the last character: the depth at the end, or nothing if the
depth is zero before. -/
def outerDepth : ℤ → List Char → Option ℤ
  | depth, [] => some depth
  | depth, c :: rest =>
    if c = '(' then outerDepth (depth + 1) rest
    else if c = ')' then if depth - 1 = 0 then none else outerDepth (depth - 1) rest
    else outerDepth depth rest

def isOuterGroup (expr : List Char) : Bool :=
  expr.head? = some '(' && expr.getLast? = some ')' && outerDepth 0 expr.dropLast = some 1

/-- The loop that takes outer parentheses off, at most so many times. -/
def stripGroups : ℕ → List Char → List Char
  | 0, expr => expr
  | times + 1, expr =>
    if isOuterGroup expr then stripGroups times (strip (expr.drop 1).dropLast) else expr

section Evaluator

variable (python : Interpreter) (scope : Dict String PyValue)

/-- The parts between a connective, if there is more than one. -/
def partsBetween (sep expr : List Char) : Option (List (List Char)) :=
  if sep <:+: expr then
    let parts := splitTopLevel expr sep none
    if 1 < parts.length then some parts else none
  else none

/-- The body of `eval_condition`, with itself for the parts of the text. -/
def evalBody (again : List Char → Bool) (text : List Char) : Bool :=
  let expr := stripGroups text.length (strip text)
  if "not ".toList <+: expr ∧ (strip (expr.drop 4)).head? = some '(' then
    !again (strip (expr.drop 4))
  else if expr.head? = some '!' ∧ (strip (expr.drop 1)).head? = some '(' then
    !again (strip (expr.drop 1))
  else
    match partsBetween " or ".toList expr with
    | some parts => parts.any fun part => again (strip part)
    | none =>
      match partsBetween " and ".toList expr with
      | some parts => parts.all fun part => again (strip part)
      | none => evalTest python scope expr

/-- `eval_condition`, for texts of less than so many characters. -/
def evalUpTo : ℕ → List Char → Bool
  | 0, _ => true
  | bound + 1, text => evalBody python scope (evalUpTo bound) text

/-- `eval_condition`. -/
def evalCondition (text : List Char) : Bool := evalUpTo python scope (text.length + 1) text

/-! ## Enough characters -/

theorem strip_length_le (text : List Char) : (strip text).length ≤ text.length := by
  rw [strip, trimChars, List.length_reverse]
  have houter := (List.dropWhile_suffix isPySpace
    (l := (text.dropWhile isPySpace).reverse)).length_le
  have hinner := (List.dropWhile_suffix isPySpace (l := text)).length_le
  rw [List.length_reverse] at houter
  exact houter.trans hinner

theorem stripGroups_length_le (times : ℕ) (expr : List Char) :
    (stripGroups times expr).length ≤ expr.length := by
  induction times generalizing expr with
  | zero => exact le_rfl
  | succ times ih =>
    unfold stripGroups
    split
    · refine (ih _).trans ((strip_length_le _).trans ?_)
      rw [List.length_dropLast, List.length_drop]
      omega
    · exact le_rfl

theorem length_consHead {c : Char} {parts : List (List Char)} (hparts : parts ≠ []) :
    (consHead c parts).length = parts.length := by
  cases parts with
  | nil => exact absurd rfl hparts
  | cons part parts => rfl

theorem length_of_mem_splitFrom (sep : List Char) (quote : Option Char) (depth : ℕ)
    (left : Option ℕ) (skip : ℕ) (text : List Char) :
    splitFrom sep quote depth left skip text ≠ [] ∧
      ∀ part ∈ splitFrom sep quote depth left skip text,
        part.length + (splitFrom sep quote depth left skip text).length ≤ text.length + 1 := by
  have hcons : ∀ (c : Char) (rest : List Char) (parts : List (List Char)),
      (parts ≠ [] ∧ ∀ part ∈ parts, part.length + parts.length ≤ rest.length + 1) →
        consHead c parts ≠ [] ∧ ∀ part ∈ consHead c parts,
          part.length + (consHead c parts).length ≤ (c :: rest).length + 1 := by
    rintro c rest parts ⟨hne, hparts⟩
    rw [length_consHead hne]
    cases parts with
    | nil => exact absurd rfl hne
    | cons first parts =>
      refine ⟨List.cons_ne_nil _ _, fun part hpart => ?_⟩
      obtain rfl | hpart := List.mem_cons.mp hpart
      · have hfirst := hparts first List.mem_cons_self
        simp only [List.length_cons] at hfirst ⊢
        omega
      · have hother := hparts part (List.mem_cons_of_mem _ hpart)
        simp only [List.length_cons] at hother ⊢
        omega
  induction text generalizing quote depth left skip with
  | nil =>
    have hnil : splitFrom sep quote depth left skip [] = [[]] := by
      unfold splitFrom
      rfl
    rw [hnil]
    refine ⟨List.cons_ne_nil _ _, fun part hpart => ?_⟩
    rw [List.mem_singleton.mp hpart]
    exact le_rfl
  | cons c rest ih =>
    cases skip with
    | succ skip =>
      obtain ⟨hne, hparts⟩ := ih quote depth left skip
      refine ⟨by rwa [splitFrom], fun part hpart => ?_⟩
      rw [splitFrom] at hpart ⊢
      have hpart := hparts part hpart
      rw [List.length_cons]
      omega
    | zero =>
      cases quote with
      | some quote =>
        rw [splitFrom]
        exact hcons c rest _ (ih _ _ _ _)
      | none =>
        rw [splitFrom]
        split
        · exact hcons c rest _ (ih _ _ _ _)
        · split
          · exact hcons c rest _ (ih _ _ _ _)
          · split
            · exact hcons c rest _ (ih _ _ _ _)
            · split
              · obtain ⟨hne, hparts⟩ := ih none 0 (left.map (· - 1)) (sep.length - 1)
                refine ⟨List.cons_ne_nil _ _, fun part hpart => ?_⟩
                obtain ⟨first, hfirst⟩ := List.exists_mem_of_ne_nil _ hne
                have hshort := hparts first hfirst
                obtain rfl | hpart := List.mem_cons.mp hpart
                · simp only [List.length_cons, List.length_nil]
                  omega
                · have hother := hparts part hpart
                  simp only [List.length_cons]
                  omega
              · exact hcons c rest _ (ih _ _ _ _)

theorem length_lt_of_partsBetween {sep expr part : List Char} {parts : List (List Char)}
    (hparts : partsBetween sep expr = some parts) (hpart : part ∈ parts) :
    part.length < expr.length := by
  simp only [partsBetween] at hparts
  split at hparts
  · split at hparts
    · next hmany =>
      cases hparts
      have hlength := (length_of_mem_splitFrom sep none 0 none 0 expr).2 part hpart
      unfold splitTopLevel at hmany
      omega
    · cases hparts
  · cases hparts

theorem evalBody_local (left right : List Char → Bool) (text : List Char)
    (hsame : ∀ part : List Char, part.length < text.length → left part = right part) :
    evalBody python scope left text = evalBody python scope right text := by
  simp only [evalBody]
  have hexpr : (stripGroups text.length (strip text)).length ≤ text.length :=
    (stripGroups_length_le _ _).trans (strip_length_le text)
  have hrest : ∀ count, stripGroups text.length (strip text) ≠ [] → 0 < count →
      left (strip ((stripGroups text.length (strip text)).drop count)) =
        right (strip ((stripGroups text.length (strip text)).drop count)) := by
    intro count hne hcount
    refine hsame _ ((strip_length_le _).trans_lt ?_)
    have hlength := List.length_pos_of_ne_nil hne
    rw [List.length_drop]
    omega
  have hparts : ∀ {sep : List Char} {parts : List (List Char)},
      partsBetween sep (stripGroups text.length (strip text)) = some parts →
        ∀ part ∈ parts, left (strip part) = right (strip part) := by
    intro sep parts hparts part hpart
    have hshort := length_lt_of_partsBetween hparts hpart
    exact hsame _ ((strip_length_le part).trans_lt (hshort.trans_le hexpr))
  split
  · next hnot =>
    rw [hrest 4 (fun hnil => by simp [hnil] at hnot) (by decide)]
  · split
    · next hbang =>
      rw [hrest 1 (fun hnil => by simp [hnil] at hbang) (by decide)]
    · split
      · next parts hor =>
        rw [Bool.eq_iff_iff, List.any_eq_true, List.any_eq_true]
        constructor
        · rintro ⟨part, hpart, hholds⟩
          exact ⟨part, hpart, (hparts hor part hpart) ▸ hholds⟩
        · rintro ⟨part, hpart, hholds⟩
          exact ⟨part, hpart, (hparts hor part hpart).symm ▸ hholds⟩
      · split
        · next parts hand =>
          rw [Bool.eq_iff_iff, List.all_eq_true, List.all_eq_true]
          exact forall₂_congr fun part hpart => by rw [hparts hand part hpart]
        · rfl

theorem evalCondition_eq (text : List Char) :
    evalCondition python scope text = evalBody python scope (evalCondition python scope) text :=
  bounded_eq (fun bound argument => rfl) (evalBody_local python scope) text

end Evaluator

/-- `eval_condition` of a context. -/
def evalConditionIn (python : Interpreter) (ctx : ScopedFlowContext)
    (system : Dict String PyValue) (expr : String) (defaultOutput : String) : Bool :=
  evalCondition python (ctx.buildScopeDict system defaultOutput) expr.toList

end SignPulse.Conditions
