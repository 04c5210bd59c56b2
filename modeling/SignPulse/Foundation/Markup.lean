import Mathlib.Data.List.Infix

/-!
# Markup

Texts with tags and entities, read one character after another.  A text is well formed if each
element that it opens is closed, in the right order, and no tag and no entity is cut.
-/

namespace SignPulse.Foundation.Markup

/-- In the text, after `<` or after `&`. -/
inductive Reading where
  | text
  | tag (inner : List Char)
  | entity (name : List Char)
  deriving DecidableEq

/-- The open elements, the innermost first, and what is being read. -/
structure Place where
  stack : List (List Char)
  reading : Reading
  deriving DecidableEq

/-- The name in a tag, which a blank parts from its attributes. -/
def nameOf (inner : List Char) : List Char := inner.takeWhile (· ≠ ' ')

def isName (name : List Char) : Bool :=
  !name.isEmpty && name.all fun c => c.isAlphanum || c = '-'

def isClosing (stack : List (List Char)) (inner : List Char) : Bool :=
  isName (nameOf inner) && (inner.dropWhile (· ≠ ' ')).all (· = ' ') &&
    stack.head? = some (nameOf inner)

/-- The open elements after a tag, if the tag may stand there. -/
def finishTag (stack : List (List Char)) (inner : List Char) : Option (List (List Char)) :=
  if inner.head? = some '/' then if isClosing stack inner.tail then some stack.tail else none
  else if inner.getLast? = some '/' then
    if isName (nameOf inner.dropLast) then some stack else none
  else if isName (nameOf inner) then some (nameOf inner :: stack) else none

def step (place : Place) (c : Char) : Option Place :=
  match place.reading with
  | .text =>
    if c = '<' then some { place with reading := .tag [] }
    else if c = '&' then some { place with reading := .entity [] }
    else if c = '>' then none
    else some place
  | .tag inner =>
    if c = '<' then none
    else if c = '>' then (finishTag place.stack inner).map fun stack => ⟨stack, .text⟩
    else some { place with reading := .tag (inner ++ [c]) }
  | .entity name =>
    if c = ';' ∧ name ≠ [] then some { place with reading := .text }
    else if c.isAlphanum ∨ c = '#' then some { place with reading := .entity (name ++ [c]) }
    else none

def read (place : Place) (text : List Char) : Option Place := text.foldlM step place

/-- Outside of every element, tag and entity. -/
def outside : Place := ⟨[], .text⟩

def WellFormed (text : List Char) : Prop := read outside text = some outside

instance (text : List Char) : Decidable (WellFormed text) :=
  inferInstanceAs (Decidable (_ = _))

section Readings

variable {place next : Place} {text rest : List Char} {c : Char} {stack : List (List Char)}

theorem read_append (place : Place) (text rest : List Char) :
    read place (text ++ rest) = (read place text).bind fun middle => read middle rest :=
  List.foldlM_append ..

theorem read_concat (place : Place) (text : List Char) (c : Char) :
    read place (text ++ [c]) = (read place text).bind fun middle => step middle c := by
  simp [read]

theorem exists_read_of_append (hread : read place (text ++ rest) = some next) :
    ∃ middle, read place text = some middle ∧ read middle rest = some next := by
  rw [read_append] at hread
  exact Option.bind_eq_some_iff.1 hread

theorem WellFormed.append (htext : WellFormed text) (hrest : WellFormed rest) :
    WellFormed (text ++ rest) := by
  rw [WellFormed, read_append, htext]
  exact hrest

/-- A `>` ends a tag. -/
theorem tag_of_step_gt (hstep : step place '>' = some next) :
    ∃ inner, place.reading = .tag inner ∧ finishTag place.stack inner = some next.stack ∧
      next.reading = .text := by
  unfold step at hstep
  split at hstep
  · simp at hstep
  · next inner hreading =>
    obtain ⟨stack, hfinish, rfl⟩ := Option.map_eq_some_iff.1 (by simpa using hstep)
    exact ⟨inner, hreading, hfinish, rfl⟩
  · simp at hstep

theorem stack_of_step (hstep : step place c = some next) (hc : c ≠ '>') :
    next.stack = place.stack := by
  unfold step at hstep
  grind

theorem tag_iff_of_step (hstep : step place c = some next) (hc : c ≠ '>') (inner : List Char) :
    next.reading = .tag inner ↔
      (c = '<' ∧ inner = []) ∨ ∃ found, place.reading = .tag found ∧ inner = found ++ [c] := by
  by_cases hopen : c = '<'
  · subst hopen
    unfold step at hstep
    split at hstep
    · next htext =>
      obtain rfl := Option.some.inj ((if_pos rfl).symm.trans hstep)
      simp [htext, eq_comm]
    · simp at hstep
    · have hplain : '<'.isAlphanum = false := rfl
      simp [hplain] at hstep
  · unfold step at hstep
    grind

/-- A tag is read from its `<` on. -/
theorem exists_tag (hread : read outside text = some place) {inner : List Char}
    (htag : place.reading = .tag inner) :
    ∃ before, text = before ++ '<' :: inner ∧ '>' ∉ inner ∧
      read outside before = some { place with reading := .text } := by
  induction text using List.reverseRecOn generalizing place inner with
  | nil =>
    cases hread
    contradiction
  | append_singleton text c ih =>
    rw [read_concat] at hread
    obtain ⟨middle, hmiddle, hstep⟩ := Option.bind_eq_some_iff.1 hread
    by_cases hclose : c = '>'
    · subst hclose
      obtain ⟨_, _, _, htext⟩ := tag_of_step_gt hstep
      rw [htext] at htag
      contradiction
    unfold step at hstep
    split at hstep
    · next htext =>
      have hopen : c = '<' ∧ place = { middle with reading := .tag [] } := by grind
      obtain ⟨rfl, rfl⟩ := hopen
      obtain rfl := Reading.tag.inj htag
      refine ⟨text, rfl, by simp, ?_⟩
      rw [hmiddle, ← htext]
    · next found hfound =>
      obtain rfl : place = { middle with reading := .tag (found ++ [c]) } := by grind
      obtain rfl := Reading.tag.inj htag
      obtain ⟨before, rfl, hnone, hbefore⟩ := ih hmiddle hfound
      exact ⟨before, by simp, by simpa using ⟨hnone, Ne.symm hclose⟩, hbefore⟩
    · grind

end Readings

/-- What an escaped text leaves of a place. -/
theorem read_plain {text : List Char} (hplain : ∀ c ∈ text, c ≠ '<' ∧ c ≠ '>' ∧ c ≠ '&')
    (stack : List (List Char)) : read ⟨stack, .text⟩ text = some ⟨stack, .text⟩ := by
  induction text with
  | nil => rfl
  | cons c text ih =>
    obtain ⟨hc, hrest⟩ := List.forall_mem_cons.1 hplain
    have hstep : step ⟨stack, .text⟩ c = some ⟨stack, .text⟩ := by simp [step, hc]
    rw [read, List.foldlM_cons, hstep]
    exact ih hrest

end SignPulse.Foundation.Markup
