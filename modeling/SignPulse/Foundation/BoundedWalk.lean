import Mathlib.Algebra.Order.BigOperators.Group.List
import Mathlib.Algebra.Order.Group.Nat
import Mathlib.Algebra.GroupWithZero.Nat
import SignPulse.Foundation.WhileLoop

/-!
# Walks with visit limits

A walk goes from node to node of a graph.  Each node it enters answers yes or
no, and the answer chooses the edge that the walk leaves by.  A node lets the
walk in a limited number of times only, and therefore every walk over finitely
many nodes ends.
-/

namespace SignPulse.Foundation

/-- Where an edge leads: to a node, or to one of the two ends. -/
inductive Place (ι : Type) where
  | node (id : ι)
  | complete
  | fail
  deriving DecidableEq

structure Walk (ι W : Type) where
  nodes : List ι
  onSuccess : ι → Place ι
  onFailure : ι → Place ι
  /-- How often the node lets the walk in. -/
  limit : ι → ℤ
  answer : ι → W → Bool × W

namespace Walk

structure State (ι W : Type) where
  place : Place ι
  world : W
  path : List ι := []
  lastFailed : Option ι := none

/-- A walk ends at one of the two ends, or before a node that does not let it in
once more. -/
inductive Ending where
  | completed | failed | refused
  deriving DecidableEq

structure Finish (ι W : Type) where
  ending : Ending
  last : State ι W

variable {ι W : Type} [DecidableEq ι]

/-- Enter a node and leave it along the edge that its answer chooses. -/
def step (walk : Walk ι W) (id : ι) (state : State ι W) : State ι W :=
  let reply := walk.answer id state.world
  { place := if reply.1 then walk.onSuccess id else walk.onFailure id
    world := reply.2
    path := state.path ++ [id]
    lastFailed := if reply.1 then state.lastFailed else some id }

/-- The node lets the walk in after the visits on `path`. -/
def Admits (walk : Walk ι W) (path : List ι) (id : ι) : Prop :=
  id ∈ walk.nodes ∧ (path.count id : ℤ) + 1 ≤ walk.limit id

instance (walk : Walk ι W) (path : List ι) (id : ι) : Decidable (walk.Admits path id) :=
  inferInstanceAs (Decidable (_ ∧ _))

def turn (walk : Walk ι W) (state : State ι W) : Turn (State ι W) (Finish ι W) :=
  match state.place with
  | .complete => .leave { ending := .completed, last := state }
  | .fail => .leave { ending := .failed, last := state }
  | .node id =>
    if walk.Admits state.path id then .again (walk.step id state)
    else .leave { ending := .refused, last := state }

variable {walk : Walk ι W} {state : State ι W}

theorem turn_again {next : State ι W} (hagain : walk.turn state = .again next) :
    ∃ id, state.place = .node id ∧ walk.Admits state.path id ∧ next = walk.step id state := by
  unfold turn at hagain
  split at hagain
  · cases hagain
  · cases hagain
  · next id hplace =>
    split at hagain
    · next hadmits => exact ⟨id, hplace, hadmits, (Turn.again.inj hagain).symm⟩
    · cases hagain

/-- What a turn leaves with. -/
inductive LeavesWith (walk : Walk ι W) (state : State ι W) : Finish ι W → Prop where
  | completed (hplace : state.place = .complete) :
      LeavesWith walk state { ending := .completed, last := state }
  | failed (hplace : state.place = .fail) :
      LeavesWith walk state { ending := .failed, last := state }
  | refused {id : ι} (hplace : state.place = .node id)
      (hrefused : ¬ walk.Admits state.path id) :
      LeavesWith walk state { ending := .refused, last := state }

theorem turn_leave {finish : Finish ι W} (hleave : walk.turn state = .leave finish) :
    LeavesWith walk state finish := by
  unfold turn at hleave
  split at hleave
  · next hplace =>
    cases hleave
    exact .completed hplace
  · next hplace =>
    cases hleave
    exact .failed hplace
  · next id hplace =>
    split at hleave
    · cases hleave
    · next hrefused =>
      cases hleave
      exact .refused hplace hrefused

/-! ## Every walk ends -/

/-- The visits that the nodes still allow. -/
def room (walk : Walk ι W) (state : State ι W) : ℕ :=
  (walk.nodes.map fun id => (walk.limit id).toNat - state.path.count id).sum

theorem room_step {id : ι} (hadmits : walk.Admits state.path id) :
    walk.room (walk.step id state) < walk.room state := by
  obtain ⟨hmem, hlimit⟩ := hadmits
  have hcount : ∀ other, state.path.count other ≤ (state.path ++ [id]).count other := by
    intro other
    rw [List.count_append]
    exact Nat.le_add_right _ _
  apply List.sum_lt_sum
  · intro other _
    exact Nat.sub_le_sub_left (hcount other) _
  · refine ⟨id, hmem, ?_⟩
    have hentered : (state.path ++ [id]).count id = state.path.count id + 1 := by
      simp [List.count_append]
    simp only [step, hentered]
    omega

def finish (walk : Walk ι W) (start : State ι W) : Finish ι W :=
  whileLoop walk.turn (fun state => { ending := .refused, last := state }) (walk.room start) start

theorem finish_leaves (walk : Walk ι W) (start : State ι W) :
    Leaves walk.turn start (walk.finish start) := by
  refine whileLoop_leaves _ walk.room ?_ _ _ le_rfl
  intro state next hagain
  obtain ⟨id, -, hadmits, rfl⟩ := turn_again hagain
  exact room_step hadmits

theorem path_le_finish {result : Finish ι W} (hleaves : Leaves walk.turn state result) :
    state.path.length ≤ result.last.path.length := by
  induction hleaves with
  | now hleave =>
    cases turn_leave hleave <;> exact le_rfl
  | later hagain _ ih =>
    obtain ⟨id, -, -, rfl⟩ := turn_again hagain
    simp only [step, List.length_append] at ih
    exact (Nat.le_add_right _ _).trans ih

end Walk

end SignPulse.Foundation
