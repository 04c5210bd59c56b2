import Mathlib.Data.List.Basic

/-!
# Bounded channels

A first-in-first-out channel with a capacity.  What is offered to a full channel
is dropped and counted.  Nothing is lost without being counted, and what comes
out has the order in which it was offered.
-/

namespace SignPulse.Foundation

structure Channel (α : Type*) where
  items : List α := []
  dropped : ℕ := 0

inductive ChannelAction (α : Type*) where
  | offer (item : α)
  | take

namespace Channel

variable {α : Type*}

def act (capacity : ℕ) (channel : Channel α) : ChannelAction α → Channel α
  | .offer item =>
    if channel.items.length < capacity then
      { channel with items := channel.items ++ [item] }
    else { channel with dropped := channel.dropped + 1 }
  | .take => { channel with items := channel.items.tail }

def actAll (capacity : ℕ) (channel : Channel α) (actions : List (ChannelAction α)) : Channel α :=
  actions.foldl (act capacity) channel

/-- What comes out of the channel, in the order in which it does. -/
def taken (capacity : ℕ) : Channel α → List (ChannelAction α) → List α
  | _, [] => []
  | channel, .offer item :: rest => taken capacity (channel.act capacity (.offer item)) rest
  | channel, .take :: rest =>
    channel.items.head?.toList ++ taken capacity (channel.act capacity .take) rest

section

variable (capacity : ℕ)

theorem actAll_cons (channel : Channel α) (action : ChannelAction α)
    (rest : List (ChannelAction α)) :
    channel.actAll capacity (action :: rest) =
      (channel.act capacity action).actAll capacity rest := rfl

/-- What is offered while nothing is taken: the channel takes as much as it has room
for, and drops the rest. -/
theorem actAll_offers : ∀ (items : List α) (channel : Channel α),
      channel.actAll capacity (items.map .offer) =
        { items := channel.items ++ items.take (capacity - channel.items.length)
          dropped := channel.dropped + (items.length - (capacity - channel.items.length)) } := by
  intro items
  induction items with
  | nil =>
    intro channel
    simp [actAll]
  | cons item rest ih =>
    intro channel
    rw [List.map_cons, actAll_cons, ih]
    simp only [act]
    split
    · next hroom =>
      obtain ⟨room, hcapacity⟩ : ∃ room, capacity - channel.items.length = room + 1 :=
        ⟨capacity - channel.items.length - 1, by omega⟩
      have hless : capacity - (channel.items ++ [item]).length = room := by
        rw [List.length_append, List.length_singleton]
        omega
      rw [hless, hcapacity, List.take_succ_cons, List.append_assoc, List.length_cons]
      simp
    · next hfull =>
      have hnone : capacity - channel.items.length = 0 := by omega
      simp only [hnone, List.take_zero, List.length_cons]
      congr 1
      omega

end

end Channel

end SignPulse.Foundation
