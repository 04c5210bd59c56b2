import Mathlib.Data.List.Infix
import SignPulse.Foundation.PyText

/-!
# Substitution in one pass

`pattern.sub(replace, text)`: the leftmost matches that do not overlap are replaced, and what is
inserted is not looked at again.  The replacements are made one after another on a state.
-/

namespace SignPulse.Foundation

/-- A pattern: what it matches at the beginning of a text, and how many characters of it. -/
structure Pattern (μ : Type) where
  find : List Char → Option μ
  size : μ → ℕ
  size_le : ∀ {text found}, find text = some found → size found ≤ text.length

/-- A text in which some parts were inserted. -/
inductive Piece where
  | own (c : Char)
  | inserted (text : List Char)
  deriving DecidableEq

namespace Piece

def text : Piece → List Char
  | .own c => [c]
  | .inserted text => text

end Piece

def joinPieces (pieces : List Piece) : List Char :=
  pieces.flatMap Piece.text

@[simp]
theorem joinPieces_own (c : Char) (pieces : List Piece) :
    joinPieces (.own c :: pieces) = c :: joinPieces pieces := rfl

@[simp]
theorem joinPieces_inserted (text : List Char) (pieces : List Piece) :
    joinPieces (.inserted text :: pieces) = text ++ joinPieces pieces := rfl

theorem joinPieces_append (pieces others : List Piece) :
    joinPieces (pieces ++ others) = joinPieces pieces ++ joinPieces others :=
  List.flatMap_append

@[simp]
theorem joinPieces_map_own (text : List Char) : joinPieces (text.map .own) = text := by
  induction text with
  | nil => rfl
  | cons c text ih => rw [List.map_cons, joinPieces_own, ih]

/-- A match without a replacement keeps its own text. -/
def replacing (replacement : Option (List Char)) (text : List Char) : List Piece :=
  match replacement with
  | some inserted => [.inserted inserted]
  | none => text.map .own

section Passes

variable {μ σ : Type} (pattern : Pattern μ)

/-- `pattern.sub`, after so many characters that belong to the last match. -/
def subPieces (replace : μ → σ → Option (List Char) × σ) : ℕ → List Char → σ → List Piece × σ
  | _, [], state => ([], state)
  | skip + 1, _ :: rest, state => subPieces replace skip rest state
  | 0, c :: rest, state =>
    match pattern.find (c :: rest) with
    | none =>
      let after := subPieces replace 0 rest state
      (.own c :: after.1, after.2)
    | some found =>
      let replaced := replace found state
      let after := subPieces replace (pattern.size found - 1) rest replaced.2
      (replacing replaced.1 ((c :: rest).take (pattern.size found)) ++ after.1, after.2)

/-! ## The cut of a text -/

/-- A text between its matches. -/
inductive Part (μ : Type) where
  | plain (c : Char)
  | found (value : μ) (text : List Char)

/-- The parts of a text, after so many characters that belong to the last match. -/
def cutFrom : ℕ → List Char → List (Part μ)
  | _, [] => []
  | skip + 1, _ :: rest => cutFrom skip rest
  | 0, c :: rest =>
    match pattern.find (c :: rest) with
    | none => .plain c :: cutFrom 0 rest
    | some found =>
      .found found ((c :: rest).take (pattern.size found)) :: cutFrom (pattern.size found - 1) rest

def cut (text : List Char) : List (Part μ) := cutFrom pattern 0 text

/-- The matches, from left to right. -/
def matchesOf (parts : List (Part μ)) : List μ :=
  parts.filterMap fun part =>
    match part with
    | .plain _ => none
    | .found value _ => some value

/-- One replacement for each match. -/
def replaceAll (replace : μ → σ → Option (List Char) × σ) :
    List μ → σ → List (Option (List Char)) × σ
  | [], state => ([], state)
  | value :: rest, state =>
    let replaced := replace value state
    let after := replaceAll replace rest replaced.2
    (replaced.1 :: after.1, after.2)

def fill : List (Part μ) → List (Option (List Char)) → List Piece
  | [], _ => []
  | .plain c :: rest, replacements => .own c :: fill rest replacements
  | .found _ text :: rest, replacement :: replacements =>
    replacing replacement text ++ fill rest replacements
  | .found _ text :: rest, [] => text.map .own ++ fill rest []

theorem subPieces_eq_fill (replace : μ → σ → Option (List Char) × σ) (skip : ℕ)
    (text : List Char) (state : σ) :
    subPieces pattern replace skip text state =
      (fill (cutFrom pattern skip text)
          (replaceAll replace (matchesOf (cutFrom pattern skip text)) state).1,
        (replaceAll replace (matchesOf (cutFrom pattern skip text)) state).2) := by
  induction text generalizing skip state with
  | nil =>
    cases skip <;> rfl
  | cons c rest ih =>
    cases skip with
    | succ skip => exact ih skip state
    | zero =>
      unfold subPieces cutFrom
      cases hfind : pattern.find (c :: rest) with
      | none =>
        dsimp only
        rw [ih 0 state]
        rfl
      | some found =>
        dsimp only
        rw [ih (pattern.size found - 1) (replace found state).2]
        have hmatches : ∀ parts : List (Part μ), matchesOf
            (.found found ((c :: rest).take (pattern.size found)) :: parts) =
              found :: matchesOf parts := fun parts => rfl
        rw [hmatches]
        rfl

/-! ## Pieces that were inserted before -/

/-- The characters before the first part that was inserted. -/
def ownStart : List Piece → List Char
  | .own c :: rest => c :: ownStart rest
  | _ => []

/-- The substitution in what is not inserted, run by run. -/
def subOwn (replace : μ → σ → Option (List Char) × σ) : ℕ → List Piece → σ → List Piece × σ
  | _, [], state => ([], state)
  | _, .inserted text :: rest, state =>
    let after := subOwn replace 0 rest state
    (.inserted text :: after.1, after.2)
  | skip + 1, .own _ :: rest, state => subOwn replace skip rest state
  | 0, .own c :: rest, state =>
    match pattern.find (c :: ownStart rest) with
    | none =>
      let after := subOwn replace 0 rest state
      (.own c :: after.1, after.2)
    | some found =>
      let replaced := replace found state
      let after := subOwn replace (pattern.size found - 1) rest replaced.2
      (replacing replaced.1 ((c :: ownStart rest).take (pattern.size found)) ++ after.1, after.2)

/-- No match takes in a part that was inserted, or goes across one. -/
def Untouched : List Piece → Prop
  | [] => True
  | .own c :: rest =>
    pattern.find (c :: joinPieces rest) = pattern.find (c :: ownStart rest) ∧ Untouched rest
  | .inserted text :: rest =>
    (∀ tail ∈ text.tails, tail ≠ [] → pattern.find (tail ++ joinPieces rest) = none) ∧
      Untouched rest

instance decidableUntouched [DecidableEq μ] :
    (pieces : List Piece) → Decidable (Untouched pattern pieces)
  | [] => inferInstanceAs (Decidable True)
  | .own c :: rest =>
    have := decidableUntouched rest
    inferInstanceAs (Decidable
      (pattern.find (c :: joinPieces rest) = pattern.find (c :: ownStart rest) ∧
        Untouched pattern rest))
  | .inserted text :: rest =>
    have := decidableUntouched rest
    inferInstanceAs (Decidable
      ((∀ tail ∈ text.tails, tail ≠ [] → pattern.find (tail ++ joinPieces rest) = none) ∧
        Untouched pattern rest))

variable {pattern}

theorem ownStart_isPrefix (pieces : List Piece) : ownStart pieces <+: joinPieces pieces := by
  induction pieces with
  | nil => exact List.nil_prefix
  | cons piece pieces ih =>
    cases piece with
    | own c => exact List.cons_prefix_cons.mpr ⟨rfl, ih⟩
    | inserted text => exact List.nil_prefix

theorem subPieces_append {replace : μ → σ → Option (List Char) × σ} {text rest : List Char}
    (hnone : ∀ tail ∈ text.tails, tail ≠ [] → pattern.find (tail ++ rest) = none) (state : σ) :
    subPieces pattern replace 0 (text ++ rest) state =
      (text.map .own ++ (subPieces pattern replace 0 rest state).1,
        (subPieces pattern replace 0 rest state).2) := by
  induction text with
  | nil => rfl
  | cons c text ih =>
    have hfind : pattern.find (c :: (text ++ rest)) = none :=
      hnone (c :: text) ((List.mem_tails _ _).mpr List.suffix_rfl) (List.cons_ne_nil c text)
    have htail := ih fun tail hmem => hnone tail
      ((List.mem_tails _ _).mpr (((List.mem_tails _ _).mp hmem).trans (List.suffix_cons c text)))
    rw [List.cons_append, subPieces, hfind]
    rw [htail]
    rfl

/-- Where no match touches what was inserted, a pass over the whole text is one over its own
parts. -/
theorem joinPieces_subPieces {replace : μ → σ → Option (List Char) × σ} {pieces : List Piece}
    (huntouched : Untouched pattern pieces) {skip : ℕ} (hskip : skip ≤ (ownStart pieces).length)
    (state : σ) :
    joinPieces (subPieces pattern replace skip (joinPieces pieces) state).1 =
        joinPieces (subOwn pattern replace skip pieces state).1 ∧
      (subPieces pattern replace skip (joinPieces pieces) state).2 =
        (subOwn pattern replace skip pieces state).2 := by
  induction pieces generalizing skip state with
  | nil => cases skip <;> exact ⟨rfl, rfl⟩
  | cons piece pieces ih =>
    cases piece with
    | inserted text =>
      obtain ⟨hnone, hrest⟩ := huntouched
      obtain rfl : skip = 0 := Nat.le_zero.mp hskip
      obtain ⟨htext, hstate⟩ := ih hrest (Nat.zero_le _) state
      rw [joinPieces_inserted, subPieces_append hnone, subOwn]
      refine ⟨?_, hstate⟩
      rw [joinPieces_append, joinPieces_map_own, joinPieces_inserted, htext]
    | own c =>
      obtain ⟨hfind, hrest⟩ := huntouched
      cases skip with
      | succ skip => exact ih hrest (Nat.le_of_succ_le_succ hskip) state
      | zero =>
        rw [joinPieces_own, subPieces, subOwn, hfind]
        cases hfound : pattern.find (c :: ownStart pieces) with
        | none =>
          obtain ⟨htext, hstate⟩ := ih hrest (Nat.zero_le _) state
          exact ⟨congrArg (c :: ·) htext, hstate⟩
        | some found =>
          have hsize := pattern.size_le hfound
          rw [List.length_cons] at hsize
          obtain ⟨htext, hstate⟩ := ih hrest
            (by omega : pattern.size found - 1 ≤ (ownStart pieces).length)
            (replace found state).2
          obtain ⟨more, hmore⟩ := ownStart_isPrefix pieces
          have htake : (c :: joinPieces pieces).take (pattern.size found) =
              (c :: ownStart pieces).take (pattern.size found) := by
            rw [← hmore, ← List.cons_append, List.take_append_of_le_length hsize]
          rw [joinPieces_append, joinPieces_append, htext, htake]
          exact ⟨rfl, hstate⟩

end Passes

end SignPulse.Foundation
