import Mathlib.Algebra.Order.Ring.Unbundled.Rat
import SignPulse.Foundation.Dict
import SignPulse.Foundation.PyText

/-!
# Clusters of durations

`adaptive_schedule.py` reads a cooldown from a text.  The durations that it finds there are put
together to composite ones, such as hours that are followed by minutes.
-/

namespace SignPulse.AdaptiveSchedule

open Foundation

inductive TimeUnit where
  | days | hours | minutes | seconds
  deriving DecidableEq

/-- `_UNIT_WEIGHT`. -/
def TimeUnit.weight : TimeUnit → ℕ
  | .days => 4
  | .hours => 3
  | .minutes => 2
  | .seconds => 1

structure TimeToken where
  unit : TimeUnit
  val : ℚ
  start : ℕ
  stop : ℕ

abbrev Cluster := Dict TimeUnit ℚ

/-- A character of `_CONNECTOR_PATTERN`. -/
def isConnector (c : Char) : Bool :=
  isPySpace c || c ∈ ",，及和又零andAND".toList

def between (text : List Char) (last tok : TimeToken) : List Char :=
  (text.drop last.stop).take (tok.start - last.stop)

def canMerge (text : List Char) (current : Cluster) (last tok : TimeToken) : Bool :=
  tok.unit.weight < last.unit.weight && !current.hasKey tok.unit &&
    (between text last tok).all isConnector

/-- The loop of `_cluster_tokens` after its first turn. -/
def clusterFrom (text : List Char) (current : Cluster) (last : TimeToken) :
    List TimeToken → List Cluster
  | [] => if current = [] then [] else [current]
  | tok :: rest =>
    if canMerge text current last tok then
      clusterFrom text (current.setItem tok.unit tok.val) tok rest
    else current :: clusterFrom text [(tok.unit, tok.val)] tok rest

/-- `_cluster_tokens`. -/
def clusterTokens (tokens : List TimeToken) (text : List Char) : List Cluster :=
  match tokens with
  | [] => []
  | tok :: rest => clusterFrom text [(tok.unit, tok.val)] tok rest

/-- The weights of the units go down. -/
def Decreasing (cluster : Cluster) : Prop :=
  (cluster.map fun entry => entry.1.weight).Pairwise (· > ·)

/-- What a cluster keeps while it grows: its last unit is the smallest one. -/
structure Growing (current : Cluster) (last : TimeToken) : Prop where
  decreasing : Decreasing current
  last_le : ∀ entry ∈ current, last.unit.weight ≤ entry.1.weight
  nonempty : current ≠ []

section Clusters

variable {text : List Char} {current : Cluster} {last tok : TimeToken}

theorem growing_single (tok : TimeToken) : Growing [(tok.unit, tok.val)] tok where
  decreasing := List.pairwise_singleton _ _
  last_le := by simp
  nonempty := List.cons_ne_nil _ _

theorem setItem_of_canMerge (hmerge : canMerge text current last tok = true) :
    current.setItem tok.unit tok.val = current ++ [(tok.unit, tok.val)] := by
  simp only [canMerge, Bool.and_eq_true, Bool.not_eq_true'] at hmerge
  refine Dict.setItem_of_not_mem _ fun hmem => ?_
  rw [← Dict.hasKey_iff_mem_keyList, hmerge.1.2] at hmem
  contradiction

theorem Growing.merge (hgrowing : Growing current last)
    (hmerge : canMerge text current last tok = true) :
    Growing (current ++ [(tok.unit, tok.val)]) tok := by
  simp only [canMerge, Bool.and_eq_true, decide_eq_true_eq] at hmerge
  have hless : tok.unit.weight < last.unit.weight := hmerge.1.1
  have hsmaller : ∀ entry ∈ current, tok.unit.weight < entry.1.weight := fun entry hentry =>
    hless.trans_le (hgrowing.last_le entry hentry)
  refine ⟨?_, fun entry hentry => ?_, by simp⟩
  · rw [Decreasing, List.map_append, List.pairwise_append]
    refine ⟨hgrowing.decreasing, List.pairwise_singleton _ _, fun weight hweight other hother => ?_⟩
    obtain ⟨entry, hentry, rfl⟩ := List.mem_map.1 hweight
    rw [List.mem_singleton.1 hother]
    exact hsmaller entry hentry
  · rcases List.mem_append.1 hentry with hold | hnew
    · exact (hsmaller entry hold).le
    · rw [List.mem_singleton.1 hnew]

theorem flatten_clusterFrom (hgrowing : Growing current last) (tokens : List TimeToken) :
    (clusterFrom text current last tokens).flatten =
      current ++ tokens.map fun tok => (tok.unit, tok.val) := by
  induction tokens generalizing current last with
  | nil => simp [clusterFrom, hgrowing.nonempty]
  | cons tok rest ih =>
    rw [clusterFrom]
    split
    · next hmerge =>
      rw [setItem_of_canMerge hmerge, ih (hgrowing.merge hmerge)]
      simp
    · rw [List.flatten_cons, ih (growing_single tok)]
      rfl

theorem decreasing_clusterFrom (hgrowing : Growing current last) (tokens : List TimeToken) :
    ∀ cluster ∈ clusterFrom text current last tokens, Decreasing cluster := by
  induction tokens generalizing current last with
  | nil => simpa [clusterFrom, hgrowing.nonempty] using hgrowing.decreasing
  | cons tok rest ih =>
    rw [clusterFrom]
    split
    · next hmerge =>
      rw [setItem_of_canMerge hmerge]
      exact ih (hgrowing.merge hmerge)
    · intro cluster hcluster
      rcases List.mem_cons.1 hcluster with rfl | hrest
      · exact hgrowing.decreasing
      · exact ih (growing_single tok) cluster hrest

end Clusters

/-- No token is lost or repeated, and in every cluster the units go down. -/
theorem clusterTokens_partition (tokens : List TimeToken) (text : List Char) :
    (clusterTokens tokens text).flatten = (tokens.map fun tok => (tok.unit, tok.val)) ∧
      ∀ cluster ∈ clusterTokens tokens text, Decreasing cluster := by
  cases tokens with
  | nil => simp [clusterTokens]
  | cons tok rest =>
    exact ⟨flatten_clusterFrom (growing_single tok) rest,
      decreasing_clusterFrom (growing_single tok) rest⟩

end SignPulse.AdaptiveSchedule
