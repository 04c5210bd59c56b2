import Mathlib.Data.Int.Order.Basic
import SignPulse.Backend.LogBroadcaster

/-!
# The numbers of a stream

The numbers that the events of one key are given, as long as its stream is not cleared.
-/

namespace SignPulse.LogBroadcaster

open Foundation

def numbersOf (published : List (StreamKey × ℤ)) (key : StreamKey) : List ℤ :=
  (published.filter fun event => event.1 = key).map (·.2)

theorem numbersOf_append (published later : List (StreamKey × ℤ)) (key : StreamKey) :
    numbersOf (published ++ later) key = numbersOf published key ++ numbersOf later key := by
  rw [numbersOf, List.filter_append, List.map_append]
  rfl

theorem numbersOf_singleton (key other : StreamKey) (number : ℤ) :
    numbersOf [(other, number)] key = if other = key then [number] else [] := by
  by_cases heq : other = key <;> simp [numbersOf, heq]

namespace TaskLogBroadcaster

section Broadcasters

variable {broadcaster : TaskLogBroadcaster} {key other : StreamKey} {event : LogEvent}

theorem counterOf_assignNumber (broadcaster : TaskLogBroadcaster) (key other : StreamKey) :
    (broadcaster.assignNumber other none).counterOf key =
      if other = key then broadcaster.counterOf key + 1 else broadcaster.counterOf key := by
  by_cases heq : other = key
  · rw [if_pos heq, ← heq, counterOf, assignNumber, Dict.getItem_setItem_self, Option.getD_some]
  · rw [if_neg heq, counterOf, assignNumber, Dict.getItem_setItem_of_ne _ _ (Ne.symm heq), counterOf]

theorem counterOf_clearStreamLocked (hne : other ≠ key) :
    (broadcaster.clearStreamLocked other).counterOf key = broadcaster.counterOf key := by
  unfold counterOf clearStreamLocked
  rw [Dict.getItem_popItem_of_ne _ (Ne.symm hne)]

theorem seqCounters_store : (broadcaster.store key event).seqCounters = broadcaster.seqCounters := by
  unfold store
  split <;> rfl

theorem counterOf_makeStreamRoom (hspares : broadcaster.evictedFor other ≠ some key) :
    (broadcaster.makeStreamRoom other).counterOf key = broadcaster.counterOf key := by
  unfold makeStreamRoom
  split
  · next old hevicted => exact counterOf_clearStreamLocked fun heq => hspares (heq ▸ hevicted)
  · rfl

theorem counterOf_publish (hspares : broadcaster.evictedFor other ≠ some key) :
    (broadcaster.publish other event none).counterOf key =
      if other = key then broadcaster.counterOf key + 1 else broadcaster.counterOf key := by
  have hsame : (broadcaster.assignNumber other none).evictedFor other ≠ some key := hspares
  rw [publish, counterOf, seqCounters_store, ← counterOf, counterOf_makeStreamRoom hsame,
    counterOf_assignNumber]

end Broadcasters

end TaskLogBroadcaster

namespace System

/-- Events get their numbers from the broadcaster. -/
def Unnumbered : Action → Prop
  | .publish _ _ _ seq _ => seq = none
  | _ => True

def Spares (key : StreamKey) (system : System) : Action → Prop
  | .publish _ other _ _ _ => system.broadcaster.evictedFor other ≠ some key
  | .clearStream other => other ≠ key
  | _ => True

section Steps

variable {system next last : System} {action : Action} {actions : List Action} {key : StreamKey}

theorem broadcaster_updateRecord (system : System) (queue : ℕ) (change : Record → Record) :
    (system.updateRecord queue change).broadcaster = system.broadcaster := by
  unfold updateRecord
  split <;> rfl

theorem published_updateRecord (system : System) (queue : ℕ) (change : Record → Record) :
    (system.updateRecord queue change).published = system.published := by
  unfold updateRecord
  split <;> rfl

/-- What one step adds to the events of a stream that it spares. -/
structure Counts (key : StreamKey) (system next : System) (later : List (StreamKey × ℤ)) : Prop where
  published : next.published = system.published ++ later
  increasing : (numbersOf later key).Pairwise (· < ·)
  larger : ∀ number ∈ numbersOf later key, system.broadcaster.counterOf key < number
  counted : ∀ number ∈ numbersOf later key, number ≤ next.broadcaster.counterOf key
  grows : system.broadcaster.counterOf key ≤ next.broadcaster.counterOf key

theorem Counts.nothing (hpublished : next.published = system.published)
    (hcounter : next.broadcaster.counterOf key = system.broadcaster.counterOf key) :
    Counts key system next [] where
  published := by rw [hpublished, List.append_nil]
  increasing := List.Pairwise.nil
  larger := nofun
  counted := nofun
  grows := hcounter.ge

theorem Counts.trans {middle : System} {first second : List (StreamKey × ℤ)}
    (hfirst : Counts key system middle first) (hsecond : Counts key middle next second) :
    Counts key system next (first ++ second) where
  published := by rw [hsecond.published, hfirst.published, List.append_assoc]
  increasing := by
    rw [numbersOf_append, List.pairwise_append]
    refine ⟨hfirst.increasing, hsecond.increasing, fun earlier hearlier later hlater => ?_⟩
    exact lt_of_le_of_lt (hfirst.counted earlier hearlier) (hsecond.larger later hlater)
  larger := by
    intro number hnumber
    rw [numbersOf_append, List.mem_append] at hnumber
    rcases hnumber with hearly | hlate
    · exact hfirst.larger number hearly
    · exact lt_of_le_of_lt hfirst.grows (hsecond.larger number hlate)
  counted := by
    intro number hnumber
    rw [numbersOf_append, List.mem_append] at hnumber
    rcases hnumber with hearly | hlate
    · exact (hfirst.counted number hearly).trans hsecond.grows
    · exact hsecond.counted number hlate
  grows := hfirst.grows.trans hsecond.grows

end Steps

def runKey : StreamKey where
  accountName := some "account"
  taskName := "task"
  runId := some "run"

def line (key : StreamKey) : Action :=
  .publish none key [] none []

end System

end SignPulse.LogBroadcaster
