import Mathlib.Data.Rat.Floor
import SignPulse.Foundation.Dict
import SignPulse.Foundation.StepRun

/-!
# The rate limiter

`InMemoryRateLimiter` of `rate_limit.py`: the attempts of every bucket, the blocks, and the order
in which the buckets were last seen.  Every operation reads the clock under the lock.
-/

namespace SignPulse.RateLimiter

open Foundation

abbrev BucketKey := String × String

structure InMemoryRateLimiter where
  maxBuckets : ℕ
  attempts : Dict BucketKey (List ℚ) := []
  blockedUntil : Dict BucketKey ℚ := []
  /-- The bucket that was seen last is the last one. -/
  lastSeen : Dict BucketKey ℚ := []
  hitsSinceSweep : ℕ := 0

/-- What a caller of `hit` passes. -/
structure Limits where
  maxAttempts : ℤ
  windowSeconds : ℤ
  blockSeconds : ℤ
  detail : String := ""

inductive Verdict where
  | accepted
  /-- Too many requests, with the seconds to wait. -/
  | rejected (detail : String) (retryAfter : ℤ)
  deriving DecidableEq

/-- `_STALE_BUCKET_AGE`. -/
def staleBucketAge : ℚ := 3600

/-- `_SWEEP_INTERVAL`. -/
def sweepInterval : ℕ := 256

namespace InMemoryRateLimiter

def forget (limiter : InMemoryRateLimiter) (bucket : BucketKey) : InMemoryRateLimiter :=
  { limiter with
    attempts := limiter.attempts.popItem bucket
    blockedUntil := limiter.blockedUntil.popItem bucket
    lastSeen := limiter.lastSeen.popItem bucket }

/-- `reset`. -/
def reset (limiter : InMemoryRateLimiter) (bucket : BucketKey) : InMemoryRateLimiter :=
  limiter.forget bucket

/-- `discard_latest_attempt`. -/
def discardLatestAttempt (limiter : InMemoryRateLimiter) (bucket : BucketKey) :
    InMemoryRateLimiter :=
  match limiter.attempts.getItem bucket with
  | none | some [] => limiter
  | some (first :: rest) =>
    let left := (first :: rest).dropLast
    { limiter with
      attempts := if left = [] then limiter.attempts.popItem bucket
        else limiter.attempts.setItem bucket left }

/-- `reset_all`. -/
def resetAll (limiter : InMemoryRateLimiter) : InMemoryRateLimiter :=
  { maxBuckets := limiter.maxBuckets }

/-- `_sweep_expired`. -/
def sweepExpired (limiter : InMemoryRateLimiter) (now : ℚ) : InMemoryRateLimiter :=
  let attempts := limiter.attempts.filter fun item =>
    item.2.getLast?.any fun last => now - staleBucketAge < last
  let blockedUntil := limiter.blockedUntil.filter fun item => now < item.2
  { limiter with
    attempts
    blockedUntil
    lastSeen := limiter.lastSeen.filter fun item =>
      Dict.hasKey attempts item.1 || Dict.hasKey blockedUntil item.1 }

/-- `self._max_buckets * 0.9`, without what comes after the point. -/
def targetSize (limiter : InMemoryRateLimiter) : ℕ :=
  limiter.maxBuckets * 9 / 10

/-- One phase: buckets are forgotten, those that were seen first at first, until there are few
enough. -/
def evict (target : ℕ) (spared : InMemoryRateLimiter → BucketKey → Bool) :
    List BucketKey → InMemoryRateLimiter → InMemoryRateLimiter
  | [], limiter => limiter
  | bucket :: rest, limiter =>
    if limiter.lastSeen.length ≤ target then limiter
    else if spared limiter bucket then evict target spared rest limiter
    else evict target spared rest (limiter.forget bucket)

def isBlocked (limiter : InMemoryRateLimiter) (now : ℚ) (bucket : BucketKey) : Bool :=
  now < (limiter.blockedUntil.getItem bucket).getD 0

/-- The two phases of `_prune_capacity`: blocked buckets are forgotten at last. -/
def evictOver (limiter : InMemoryRateLimiter) (now : ℚ) (keep : Option BucketKey) :
    InMemoryRateLimiter :=
  if limiter.lastSeen.length < limiter.maxBuckets then limiter
  else
    let first := evict limiter.targetSize
      (fun current bucket => some bucket = keep || current.isBlocked now bucket)
      limiter.lastSeen.keyList limiter
    if first.maxBuckets ≤ first.lastSeen.length then
      evict limiter.targetSize (fun _ bucket => some bucket = keep) first.lastSeen.keyList first
    else first

/-- `_prune_capacity`. -/
def pruneCapacity (limiter : InMemoryRateLimiter) (now : ℚ) (keep : Option BucketKey) :
    InMemoryRateLimiter :=
  (limiter.sweepExpired now).evictOver now keep

/-- What a hit does before it looks at its bucket: every so often the limiter is swept, and it is
pruned where it is full. -/
def makeRoom (limiter : InMemoryRateLimiter) (now : ℚ) (bucket : BucketKey) : InMemoryRateLimiter :=
  let counted := { limiter with hitsSinceSweep := limiter.hitsSinceSweep + 1 }
  let swept := if sweepInterval ≤ counted.hitsSinceSweep then
      { counted with hitsSinceSweep := 0 }.sweepExpired now
    else counted
  if swept.maxBuckets ≤ swept.lastSeen.length then swept.pruneCapacity now (some bucket)
  else swept

def touch (limiter : InMemoryRateLimiter) (now : ℚ) (bucket : BucketKey) : InMemoryRateLimiter :=
  { limiter with lastSeen := limiter.lastSeen.popItem bucket ++ [(bucket, now)] }

/-- The attempts of the bucket with the new one, without those that are too old. -/
def recentAttempts (limiter : InMemoryRateLimiter) (now : ℚ) (bucket : BucketKey)
    (limits : Limits) : List ℚ :=
  let cutoff := now - (max limits.windowSeconds 1 : ℤ)
  let kept := ((limiter.attempts.getItem bucket).getD []).dropWhile fun time => time ≤ cutoff
  let added := kept ++ [now]
  if max limits.maxAttempts 1 + 2 < added.length then added.tail else added

def decideHit (limiter : InMemoryRateLimiter) (now : ℚ) (bucket : BucketKey) (limits : Limits) :
    InMemoryRateLimiter × Verdict :=
  if limiter.isBlocked now bucket then
    (limiter, .rejected limits.detail (max ⌈(limiter.blockedUntil.getItem bucket).getD 0 - now⌉ 1))
  else
    let attempts := limiter.recentAttempts now bucket limits
    if attempts.length ≤ max limits.maxAttempts 1 then
      ({ limiter with attempts := limiter.attempts.setItem bucket attempts }, .accepted)
    else
      let retryAfter := max limits.blockSeconds 1
      ({ limiter with
          attempts := limiter.attempts.setItem bucket []
          blockedUntil := limiter.blockedUntil.setItem bucket (now + retryAfter) },
        .rejected limits.detail retryAfter)

/-- `hit`. -/
def hit (limiter : InMemoryRateLimiter) (now : ℚ) (bucket : BucketKey) (limits : Limits) :
    InMemoryRateLimiter × Verdict :=
  ((limiter.makeRoom now bucket).touch now bucket).decideHit now bucket limits

end InMemoryRateLimiter

/-! ## Operations -/

inductive Operation where
  | hit (bucket : BucketKey) (limits : Limits)
  | reset (bucket : BucketKey)
  | discardLatestAttempt (bucket : BucketKey)
  | resetAll
  | sweepExpired
  | pruneCapacity (keep : Option BucketKey)

/-- An operation, and what the clock shows. -/
structure Timed where
  now : ℚ
  operation : Operation

namespace InMemoryRateLimiter

def apply (limiter : InMemoryRateLimiter) (timed : Timed) : InMemoryRateLimiter :=
  match timed.operation with
  | .hit bucket limits => (limiter.hit timed.now bucket limits).1
  | .reset bucket => limiter.reset bucket
  | .discardLatestAttempt bucket => limiter.discardLatestAttempt bucket
  | .resetAll => limiter.resetAll
  | .sweepExpired => limiter.sweepExpired timed.now
  | .pruneCapacity keep => limiter.pruneCapacity timed.now keep

def step (limiter : InMemoryRateLimiter) (timed : Timed) : Option InMemoryRateLimiter :=
  some (limiter.apply timed)

end InMemoryRateLimiter

section Tracking

variable {limiter swept : InMemoryRateLimiter} {now : ℚ} {bucket other : BucketKey}
variable {keep : Option BucketKey} {limits : Limits} {target : ℕ}

namespace InMemoryRateLimiter

/-- Every bucket with attempts or a block is tracked. -/
def Tracked (limiter : InMemoryRateLimiter) : Prop :=
  ∀ bucket, bucket ∈ limiter.attempts.keyList ∨ bucket ∈ limiter.blockedUntil.keyList →
    bucket ∈ limiter.lastSeen.keyList

/-- The three maps have the same entry for the bucket. -/
structure SameBucket (left right : InMemoryRateLimiter) (bucket : BucketKey) : Prop where
  attempts : left.attempts.getItem bucket = right.attempts.getItem bucket
  blockedUntil : left.blockedUntil.getItem bucket = right.blockedUntil.getItem bucket
  lastSeen : left.lastSeen.getItem bucket = right.lastSeen.getItem bucket

theorem SameBucket.refl : SameBucket limiter limiter bucket :=
  ⟨rfl, rfl, rfl⟩

theorem SameBucket.trans {third : InMemoryRateLimiter} (hleft : SameBucket limiter swept bucket)
    (hright : SameBucket swept third bucket) : SameBucket limiter third bucket :=
  ⟨hleft.attempts.trans hright.attempts, hleft.blockedUntil.trans hright.blockedUntil,
    hleft.lastSeen.trans hright.lastSeen⟩

/-! ## Forgetting -/

theorem tracked_forget (htracked : limiter.Tracked) : (limiter.forget bucket).Tracked := by
  intro other hother
  unfold forget at hother ⊢
  simp only [Dict.mem_keyList_popItem] at hother ⊢
  rcases hother with ⟨hattempts, hne⟩ | ⟨hblocked, hne⟩
  · exact ⟨htracked other (.inl hattempts), hne⟩
  · exact ⟨htracked other (.inr hblocked), hne⟩

theorem sameBucket_forget (hne : bucket ≠ other) :
    SameBucket (limiter.forget other) limiter bucket :=
  ⟨Dict.getItem_popItem_of_ne _ hne, Dict.getItem_popItem_of_ne _ hne,
    Dict.getItem_popItem_of_ne _ hne⟩

/-! ## Evictions -/

theorem evict_induction {spared : InMemoryRateLimiter → BucketKey → Bool}
    (Inv : InMemoryRateLimiter → Prop)
    (hforget : ∀ current bucket, Inv current → spared current bucket = false →
      Inv (current.forget bucket)) (buckets : List BucketKey) (hinv : Inv limiter) :
    Inv (evict target spared buckets limiter) := by
  induction buckets generalizing limiter with
  | nil => exact hinv
  | cons bucket rest ih =>
    unfold evict
    split
    · exact hinv
    · split
      · exact ih hinv
      · next hspared =>
        exact ih (hforget limiter bucket hinv (Bool.eq_false_iff.mpr hspared))

theorem evictOver_induction (Inv : InMemoryRateLimiter → Prop)
    (hforget : ∀ current bucket, Inv current → some bucket ≠ keep → Inv (current.forget bucket))
    (hinv : Inv limiter) : Inv (limiter.evictOver now keep) := by
  have hfirst : Inv (evict limiter.targetSize
      (fun current bucket => some bucket = keep || current.isBlocked now bucket)
      limiter.lastSeen.keyList limiter) := by
    refine evict_induction Inv (fun current bucket hcurrent hspared => ?_) _ hinv
    apply hforget current bucket hcurrent
    exact of_decide_eq_false (Bool.or_eq_false_iff.mp hspared).1
  unfold evictOver
  split
  · exact hinv
  · dsimp only
    split
    · refine evict_induction Inv (fun current bucket hcurrent hspared => ?_) _ hfirst
      exact hforget current bucket hcurrent (of_decide_eq_false hspared)
    · exact hfirst

theorem maxBuckets_evict {spared : InMemoryRateLimiter → BucketKey → Bool}
    {buckets : List BucketKey} :
    (evict target spared buckets limiter).maxBuckets = limiter.maxBuckets :=
  evict_induction (fun current => current.maxBuckets = limiter.maxBuckets)
    (fun _ _ hcurrent _ => hcurrent) buckets rfl

theorem maxBuckets_evictOver : (limiter.evictOver now keep).maxBuckets = limiter.maxBuckets :=
  evictOver_induction (fun current => current.maxBuckets = limiter.maxBuckets)
    (fun _ _ hcurrent _ => hcurrent) rfl

theorem sameBucket_evictOver : SameBucket (limiter.evictOver now (some bucket)) limiter bucket := by
  refine evictOver_induction (fun current => SameBucket current limiter bucket)
    (fun current other hcurrent hne => ?_) .refl
  have hother : bucket ≠ other := fun heq => hne (congrArg some heq.symm)
  exact (sameBucket_forget hother).trans hcurrent

theorem length_forget_le : (limiter.forget bucket).lastSeen.length ≤ limiter.lastSeen.length :=
  Dict.length_popItem_le _ _

/-- The last phase goes on until there are few enough buckets, or only the one to be kept. -/
theorem evict_left {buckets : List BucketKey}
    (hall : ∀ seen ∈ limiter.lastSeen.keyList, seen ∈ buckets ∨ some seen = keep) :
    (evict target (fun _ bucket => some bucket = keep) buckets limiter).lastSeen.length ≤ target ∨
      ∀ seen ∈ (evict target (fun _ bucket => some bucket = keep) buckets
        limiter).lastSeen.keyList, some seen = keep := by
  induction buckets generalizing limiter with
  | nil => exact .inr fun seen hseen => (hall seen hseen).resolve_left List.not_mem_nil
  | cons bucket rest ih =>
    unfold evict
    split
    · next hfew => exact .inl hfew
    · split
      · next hspared =>
        refine ih fun seen hseen => ?_
        rcases hall seen hseen with hmem | hkeep
        · rcases List.mem_cons.mp hmem with rfl | hrest
          · exact .inr (of_decide_eq_true hspared)
          · exact .inl hrest
        · exact .inr hkeep
      · refine ih fun seen hseen => ?_
        obtain ⟨hold, hne⟩ := Dict.mem_keyList_popItem.mp hseen
        rcases hall seen hold with hmem | hkeep
        · exact .inl ((List.mem_cons.mp hmem).resolve_left hne)
        · exact .inr hkeep

theorem targetSize_lt (hmax : 0 < limiter.maxBuckets) : limiter.targetSize < limiter.maxBuckets := by
  unfold targetSize
  omega

theorem length_evictOver (hmax : 0 < limiter.maxBuckets)
    (habsent : bucket ∉ (limiter.evictOver now (some bucket)).lastSeen.keyList) :
    (limiter.evictOver now (some bucket)).lastSeen.length < limiter.maxBuckets := by
  unfold evictOver at habsent ⊢
  split
  · next hroom => exact hroom
  · next hfull =>
    rw [if_neg hfull] at habsent
    dsimp only at habsent ⊢
    split
    · next hstill =>
      rw [if_pos hstill] at habsent
      refine (evict_left fun seen hseen => .inl hseen).elim
        (fun hfew => hfew.trans_lt (targetSize_lt hmax)) fun honly => ?_
      -- nothing but the bucket would be left, and that is not there
      rw [List.length_eq_zero_iff.mpr (List.eq_nil_iff_forall_not_mem.mpr fun item hitem => ?_)]
      · exact hmax
      · have hseen := List.mem_map_of_mem (f := Prod.fst) hitem
        rw [Option.some.inj (honly _ hseen)] at hseen
        exact habsent hseen
    · next hroom =>
      rw [maxBuckets_evict] at hroom
      exact not_le.mp hroom

/-! ## Sweeps -/

theorem tracked_sweepExpired (htracked : limiter.Tracked) : (limiter.sweepExpired now).Tracked := by
  intro other hother
  -- what is left was there before, and what is left is what keeps it tracked
  have hbefore : other ∈ limiter.lastSeen.keyList := by
    apply htracked
    rcases hother with hattempts | hblocked
    · exact .inl (List.map_subset _ (List.filter_subset_self _) hattempts)
    · exact .inr (List.map_subset _ (List.filter_subset_self _) hblocked)
  obtain ⟨item, hitem, rfl⟩ := List.mem_map.mp hbefore
  refine List.mem_map_of_mem (List.mem_filter.mpr ⟨hitem, ?_⟩)
  rw [← Dict.hasKey_iff_mem_keyList, ← Dict.hasKey_iff_mem_keyList] at hother
  exact Bool.or_eq_true_iff.mpr hother

theorem length_sweepExpired_le :
    (limiter.sweepExpired now).lastSeen.length ≤ limiter.lastSeen.length :=
  List.length_filter_le _ _

theorem sweepExpired_sweepExpired :
    (limiter.sweepExpired now).sweepExpired now = limiter.sweepExpired now := by
  simp only [sweepExpired]
  simp only [List.filter_filter, Bool.and_self]

/-! ## Hits -/

/-- The invariant: there are no more buckets than allowed, and all are tracked. -/
structure Bounded (limiter : InMemoryRateLimiter) : Prop where
  length : limiter.lastSeen.length ≤ limiter.maxBuckets
  tracked : limiter.Tracked

section

variable (hbounded : limiter.Bounded)

include hbounded

theorem Bounded.sweepExpired : (limiter.sweepExpired now).Bounded where
  length := length_sweepExpired_le.trans hbounded.length
  tracked := tracked_sweepExpired hbounded.tracked

theorem Bounded.forget : (limiter.forget bucket).Bounded where
  length := length_forget_le.trans hbounded.length
  tracked := tracked_forget hbounded.tracked

theorem Bounded.pruneCapacity : (limiter.pruneCapacity now keep).Bounded :=
  evictOver_induction Bounded (fun _ _ hcurrent _ => hcurrent.forget) hbounded.sweepExpired

theorem Bounded.makeRoom : (limiter.makeRoom now bucket).Bounded := by
  have hcounted : ∀ count, { limiter with hitsSinceSweep := count }.Bounded := fun _ =>
    ⟨hbounded.length, hbounded.tracked⟩
  simp only [InMemoryRateLimiter.makeRoom]
  split
  · split
    · exact (hcounted 0).sweepExpired.pruneCapacity
    · exact (hcounted 0).sweepExpired
  · split
    · exact (hcounted _).pruneCapacity
    · exact hcounted _

end

theorem maxBuckets_pruneCapacity :
    (limiter.pruneCapacity now keep).maxBuckets = limiter.maxBuckets :=
  maxBuckets_evictOver

theorem maxBuckets_makeRoom : (limiter.makeRoom now bucket).maxBuckets = limiter.maxBuckets := by
  simp only [makeRoom]
  split
  · split
    · exact maxBuckets_pruneCapacity
    · rfl
  · split
    · exact maxBuckets_pruneCapacity
    · rfl

theorem length_makeRoom (hmax : 0 < limiter.maxBuckets)
    (habsent : bucket ∉ (limiter.makeRoom now bucket).lastSeen.keyList) :
    (limiter.makeRoom now bucket).lastSeen.length < limiter.maxBuckets := by
  simp only [makeRoom] at habsent ⊢
  split
  · next hdue =>
    rw [if_pos hdue] at habsent
    split
    · next hfull =>
      rw [if_pos hfull] at habsent
      exact length_evictOver hmax habsent
    · next hroom => exact not_le.mp hroom
  · next hdue =>
    rw [if_neg hdue] at habsent
    split
    · next hfull =>
      rw [if_pos hfull] at habsent
      exact length_evictOver hmax habsent
    · next hroom => exact not_le.mp hroom

theorem mem_lastSeen_touch {seen : BucketKey} : seen ∈ (limiter.touch now bucket).lastSeen.keyList ↔
      seen = bucket ∨ seen ∈ limiter.lastSeen.keyList := by
  rw [touch, Dict.keyList, List.map_append, List.mem_append, List.map_singleton, List.mem_singleton]
  have hpopped := @Dict.mem_keyList_popItem _ _ _ limiter.lastSeen bucket seen
  unfold Dict.keyList at hpopped
  rw [hpopped]
  tauto

theorem length_touch (hroom : bucket ∉ limiter.lastSeen.keyList →
      limiter.lastSeen.length < limiter.maxBuckets)
    (hbounded : limiter.lastSeen.length ≤ limiter.maxBuckets) :
    (limiter.touch now bucket).lastSeen.length ≤ limiter.maxBuckets := by
  simp only [touch]
  rw [List.length_append, List.length_singleton]
  by_cases hseen : bucket ∈ limiter.lastSeen.keyList
  · have hless := Dict.length_popItem_lt hseen
    omega
  · have hpopped := Dict.length_popItem_le limiter.lastSeen bucket
    have hless := hroom hseen
    omega

theorem Bounded.touch (hbounded : limiter.Bounded)
    (hroom : bucket ∉ limiter.lastSeen.keyList →
      limiter.lastSeen.length < limiter.maxBuckets) : (limiter.touch now bucket).Bounded where
  length := length_touch hroom hbounded.length
  tracked := fun seen hseen => mem_lastSeen_touch.mpr (.inr (hbounded.tracked seen hseen))

theorem Bounded.decideHit (hbounded : limiter.Bounded) (hseen : bucket ∈ limiter.lastSeen.keyList) :
    (limiter.decideHit now bucket limits).1.Bounded := by
  unfold InMemoryRateLimiter.decideHit
  split
  · exact hbounded
  · dsimp only
    split
    · refine ⟨hbounded.length, fun other hother => ?_⟩
      rw [Dict.mem_keyList_setItem] at hother
      rcases hother with (rfl | hattempts) | hblocked
      · exact hseen
      · exact hbounded.tracked other (.inl hattempts)
      · exact hbounded.tracked other (.inr hblocked)
    · refine ⟨hbounded.length, fun other hother => ?_⟩
      rw [Dict.mem_keyList_setItem, Dict.mem_keyList_setItem] at hother
      rcases hother with (rfl | hattempts) | (rfl | hblocked)
      · exact hseen
      · exact hbounded.tracked other (.inl hattempts)
      · exact hseen
      · exact hbounded.tracked other (.inr hblocked)

theorem lastSeen_decideHit :
    (limiter.decideHit now bucket limits).1.lastSeen = limiter.lastSeen := by
  unfold decideHit
  split
  · rfl
  · dsimp only
    split
    · rfl
    · rfl

theorem Bounded.hit (hbounded : limiter.Bounded) (hmax : 0 < limiter.maxBuckets) :
    (limiter.hit now bucket limits).1.Bounded := by
  refine Bounded.decideHit (hbounded.makeRoom.touch fun habsent => ?_)
    (mem_lastSeen_touch.mpr (.inl rfl))
  rw [maxBuckets_makeRoom]
  exact length_makeRoom hmax habsent

theorem mem_lastSeen_hit : bucket ∈ (limiter.hit now bucket limits).1.lastSeen.keyList := by
  rw [hit, lastSeen_decideHit]
  exact mem_lastSeen_touch.mpr (.inl rfl)

/-! ## Operations -/

theorem Bounded.discardLatestAttempt (hbounded : limiter.Bounded) :
    (limiter.discardLatestAttempt bucket).Bounded := by
  unfold InMemoryRateLimiter.discardLatestAttempt
  split
  · exact hbounded
  · exact hbounded
  · next first rest hattempts =>
    refine ⟨hbounded.length, fun other hother => ?_⟩
    dsimp only at hother ⊢
    apply hbounded.tracked other
    refine hother.imp_left fun hmem => ?_
    split at hmem
    · exact (Dict.mem_keyList_popItem.mp hmem).1
    · rcases Dict.mem_keyList_setItem.mp hmem with rfl | hold
      · exact Dict.mem_keyList_of_getItem hattempts
      · exact hold

theorem maxBuckets_apply {timed : Timed} :
    (limiter.apply timed).maxBuckets = limiter.maxBuckets := by
  unfold apply
  split
  · unfold hit decideHit
    split
    · exact maxBuckets_makeRoom
    · dsimp only
      split
      · exact maxBuckets_makeRoom
      · exact maxBuckets_makeRoom
  · rfl
  · unfold discardLatestAttempt
    split
    · rfl
    · rfl
    · rfl
  · rfl
  · rfl
  · exact maxBuckets_pruneCapacity

theorem Bounded.apply {timed : Timed} (hbounded : limiter.Bounded)
    (hmax : 0 < limiter.maxBuckets) : (limiter.apply timed).Bounded := by
  unfold InMemoryRateLimiter.apply
  split
  · exact hbounded.hit hmax
  · exact hbounded.forget
  · exact hbounded.discardLatestAttempt
  · exact ⟨Nat.zero_le _, fun _ hother => hother.elim id id⟩
  · exact hbounded.sweepExpired
  · exact hbounded.pruneCapacity

theorem sameBucket_makeRoom : SameBucket (limiter.makeRoom now bucket) limiter bucket ∨
      SameBucket (limiter.makeRoom now bucket) (limiter.sweepExpired now) bucket := by
  simp only [makeRoom]
  split
  · right
    split
    · rw [pruneCapacity, sweepExpired_sweepExpired]
      exact sameBucket_evictOver.trans ⟨rfl, rfl, rfl⟩
    · exact ⟨rfl, rfl, rfl⟩
  · split
    · exact .inr (sameBucket_evictOver.trans ⟨rfl, rfl, rfl⟩)
    · exact .inl ⟨rfl, rfl, rfl⟩

/-- There are never too many buckets, every bucket with attempts or a block is tracked, and no
request prunes the bucket that it is counted for. -/
theorem buckets_bounded {maxBuckets : ℕ} {calls : List Timed} (hmax : 0 < maxBuckets)
    (hrun : StepRun step (fun _ _ => True) { maxBuckets } calls limiter) :
    limiter.lastSeen.length ≤ maxBuckets ∧ limiter.Tracked ∧ ∀ now bucket limits,
        (SameBucket (limiter.makeRoom now bucket) limiter bucket ∨
          SameBucket (limiter.makeRoom now bucket) (limiter.sweepExpired now) bucket) ∧
        SameBucket (limiter.pruneCapacity now (some bucket)) (limiter.sweepExpired now) bucket ∧
        bucket ∈ (limiter.hit now bucket limits).1.lastSeen.keyList := by
  have hinvariant := hrun.invariant
    (fun current => current.maxBuckets = maxBuckets ∧ current.Bounded) ?_ ?_
  · obtain ⟨hsame, hbounded⟩ := hinvariant
    refine ⟨hsame ▸ hbounded.length, hbounded.tracked, fun now bucket limits => ?_⟩
    exact ⟨sameBucket_makeRoom, sameBucket_evictOver, mem_lastSeen_hit⟩
  · rintro current timed next ⟨hsame, hbounded⟩ - hstep
    cases hstep
    exact ⟨maxBuckets_apply.trans hsame, hbounded.apply (hsame.symm ▸ hmax)⟩
  · exact ⟨rfl, Nat.zero_le _, fun _ hother => hother.elim id id⟩

/-- Two keys, where there is room for one bucket. -/
theorem buckets_bounded_one : ∃ calls limiter,
      StepRun step (fun _ _ => True) { maxBuckets := 1 } calls limiter ∧ calls.length = 2 ∧
      limiter.lastSeen.length ≤ 1 ∧ limiter.Tracked := by
  let first : Timed := ⟨1, .hit ("login", "a") ⟨5, 60, 60, ""⟩⟩
  let second : Timed := ⟨2, .hit ("login", "b") ⟨5, 60, 60, ""⟩⟩
  let start : InMemoryRateLimiter := { maxBuckets := 1 }
  have hrun : StepRun step (fun _ _ => True) start [first, second]
      ((start.apply first).apply second) :=
    .act trivial rfl (.act trivial rfl (.done _))
  obtain ⟨hlength, htracked, -⟩ := buckets_bounded (by decide) hrun
  exact ⟨_, _, hrun, rfl, hlength, htracked⟩

end InMemoryRateLimiter

end Tracking

end SignPulse.RateLimiter
