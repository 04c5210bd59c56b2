import Mathlib.Data.Rat.Defs
import SignPulse.Foundation.Dict

/-!
# Python values

The plain data a Python variable can hold, with `==`.  Floats are exact
rationals, so the values without an equality of their own (NaN) are absent.
-/

namespace SignPulse.Foundation

inductive PyValue where
  | none
  | bool (value : Bool)
  | int (value : ℤ)
  | float (value : ℚ)
  | str (value : String)
  | list (items : List PyValue)
  | dict (entries : List (String × PyValue))
  deriving Inhabited

namespace PyValue

/-- Booleans, integers and floats compare as numbers. -/
def number? : PyValue → Option ℚ
  | .bool value => some (if value then 1 else 0)
  | .int value => some value
  | .float value => some value
  | _ => Option.none

mutual

/-- `left == right`. -/
def eq : PyValue → PyValue → Bool
  | .none, right =>
    match right with
    | .none => true
    | _ => false
  | .str left, right =>
    match right with
    | .str text => left == text
    | _ => false
  | .list left, right =>
    match right with
    | .list items => listEq left items
    | _ => false
  | .dict left, right =>
    match right with
    | .dict entries => left.length == entries.length && entriesEq left entries
    | _ => false
  | .bool left, right => right.number? == some (if left then 1 else 0)
  | .int left, right => right.number? == some (left : ℚ)
  | .float left, right => right.number? == some left

def listEq : List PyValue → List PyValue → Bool
  | [], right => right.isEmpty
  | left :: rest, right =>
    match right with
    | [] => false
    | item :: items => eq left item && listEq rest items

def entriesEq : List (String × PyValue) → List (String × PyValue) → Bool
  | [], _ => true
  | (key, left) :: rest, right =>
    (match Dict.getItem right key with
      | some value => eq left value
      | Option.none => false) && entriesEq rest right

end

instance : BEq PyValue := ⟨eq⟩

/-! ## Nesting -/

mutual

/-- The number of levels of lists and dictionaries. -/
def depth : PyValue → ℕ
  | .list items => listDepth items + 1
  | .dict entries => entriesDepth entries + 1
  | _ => 0

def listDepth : List PyValue → ℕ
  | [] => 0
  | item :: rest => max item.depth (listDepth rest)

def entriesDepth : List (String × PyValue) → ℕ
  | [] => 0
  | (_, value) :: rest => max value.depth (entriesDepth rest)

end

theorem depth_le_listDepth {item : PyValue} {items : List PyValue} (hmem : item ∈ items) :
    item.depth ≤ listDepth items := by
  induction items with
  | nil => exact absurd hmem List.not_mem_nil
  | cons head rest ih =>
    rw [listDepth]
    obtain rfl | hrest := List.mem_cons.mp hmem
    · exact le_max_left _ _
    · exact (ih hrest).trans (le_max_right _ _)

theorem depth_le_entriesDepth {key : String} {value : PyValue}
    {entries : List (String × PyValue)} (hmem : (key, value) ∈ entries) :
    value.depth ≤ entriesDepth entries := by
  induction entries with
  | nil => exact absurd hmem List.not_mem_nil
  | cons head rest ih =>
    rw [entriesDepth]
    obtain rfl | hrest := List.mem_cons.mp hmem
    · exact le_max_left _ _
    · exact (ih hrest).trans (le_max_right _ _)

theorem depth_lt_of_mem_list {item : PyValue} {items : List PyValue} (hmem : item ∈ items) :
    item.depth < (PyValue.list items).depth :=
  Nat.lt_succ_of_le (depth_le_listDepth hmem)

theorem depth_lt_of_mem_dict {key : String} {value : PyValue} {entries : Dict String PyValue}
    (hmem : (key, value) ∈ entries) : value.depth < (PyValue.dict entries).depth :=
  Nat.lt_succ_of_le (depth_le_entriesDepth hmem)

/-- A function on dictionaries that asks itself only about less deep ones does not depend on the
number of levels it is computed for, once there are enough. -/
theorem levels_stable {α : Type*} {run : ℕ → Dict String PyValue → α}
    {body : (Dict String PyValue → α) → Dict String PyValue → α}
    (hsucc : ∀ levels data, run (levels + 1) data = body (run levels) data)
    (hlocal : ∀ left right data,
      (∀ sub, (PyValue.dict sub).depth < (PyValue.dict data).depth → left sub = right sub) →
        body left data = body right data) :
    ∀ levels others data, (PyValue.dict data).depth ≤ levels →
      (PyValue.dict data).depth ≤ others → run levels data = run others data := by
  intro levels
  induction levels with
  | zero => exact fun _ _ hnone => absurd hnone (Nat.not_succ_le_zero _)
  | succ levels ih =>
    intro others data hlevels hothers
    cases others with
    | zero => exact absurd hothers (Nat.not_succ_le_zero _)
    | succ others =>
      rw [hsucc, hsucc]
      apply hlocal
      intro sub hsub
      exact ih others sub (by omega) (by omega)

theorem run_depth_eq {α : Type*} {run : ℕ → Dict String PyValue → α}
    {body : (Dict String PyValue → α) → Dict String PyValue → α}
    (hsucc : ∀ levels data, run (levels + 1) data = body (run levels) data)
    (hlocal : ∀ left right data,
      (∀ sub, (PyValue.dict sub).depth < (PyValue.dict data).depth → left sub = right sub) →
        body left data = body right data)
    (data : Dict String PyValue) :
    run (PyValue.dict data).depth data =
      body (fun sub => run (PyValue.dict sub).depth sub) data := by
  have hdepth : (PyValue.dict data).depth = entriesDepth data + 1 := rfl
  rw [hdepth, hsucc]
  apply hlocal
  intro sub hsub
  exact levels_stable hsucc hlocal _ _ sub (by omega) le_rfl

end PyValue

end SignPulse.Foundation
