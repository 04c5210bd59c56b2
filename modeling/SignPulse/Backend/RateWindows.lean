import SignPulse.Backend.RateLimiter

/-!
# Hits in a window

How many hits of a bucket are accepted in a window of time, and what a block rejects, as long as
the bucket is not reset, discarded or evicted.
-/

namespace SignPulse.RateLimiter

open Foundation

/-- The window, as the code takes it. -/
def Limits.window (limits : Limits) : ℚ :=
  (max limits.windowSeconds 1 : ℤ)

def Limits.block (limits : Limits) : ℚ :=
  (max limits.blockSeconds 1 : ℤ)

theorem Limits.window_le_block {limits : Limits}
    (hblock : limits.windowSeconds ≤ limits.blockSeconds) : limits.window ≤ limits.block := by
  unfold Limits.window Limits.block
  exact_mod_cast max_le_max_right 1 hblock

namespace InMemoryRateLimiter

/-- The operation does not reset, discard or evict the bucket, and a hit of it has these
limits. -/
def Spares (limits : Limits) (bucket : BucketKey) (limiter : InMemoryRateLimiter)
    (timed : Timed) : Prop :=
  match timed.operation with
  | .hit other own =>
    (other = bucket → own = limits) ∧
      (SameBucket (limiter.makeRoom timed.now other) limiter bucket ∨
        SameBucket (limiter.makeRoom timed.now other) (limiter.sweepExpired timed.now) bucket)
  | .reset other => other ≠ bucket
  | .discardLatestAttempt other => other ≠ bucket
  | .resetAll => False
  | .sweepExpired => True
  | .pruneCapacity keep =>
    SameBucket (limiter.pruneCapacity timed.now keep) (limiter.sweepExpired timed.now) bucket

def Undisturbed (limits : Limits) (bucket : BucketKey) (first last : ℚ) :
    InMemoryRateLimiter → List Timed → Prop
  | _, [] => True
  | limiter, timed :: rest =>
    (first ≤ timed.now → timed.now < last → Spares limits bucket limiter timed) ∧
      Undisturbed limits bucket first last (limiter.apply timed) rest

def accepts (limiter : InMemoryRateLimiter) (timed : Timed) (bucket : BucketKey) : Bool :=
  match timed.operation with
  | .hit other limits => other = bucket && (limiter.hit timed.now other limits).2 = .accepted
  | _ => false

def acceptedTimes (bucket : BucketKey) : InMemoryRateLimiter → List Timed → List ℚ
  | _, [] => []
  | limiter, timed :: rest =>
    if limiter.accepts timed bucket then
      timed.now :: acceptedTimes bucket (limiter.apply timed) rest
    else acceptedTimes bucket (limiter.apply timed) rest

/-- The clock does not go back. -/
def Monotone (calls : List Timed) : Prop :=
  calls.Pairwise fun earlier later => earlier.now ≤ later.now

/-- The hit is rejected, and not because of an earlier block. -/
def StartsBlock (limiter : InMemoryRateLimiter) (now : ℚ) (bucket : BucketKey)
    (limits : Limits) : Prop :=
  ((limiter.makeRoom now bucket).touch now bucket).isBlocked now bucket = false ∧
    (limiter.hit now bucket limits).2 ≠ .accepted

section Windows

variable {limiter current : InMemoryRateLimiter} {now first last ends time : ℚ}
variable {bucket other : BucketKey} {limits : Limits} {calls : List Timed} {timed : Timed}
variable {accepted : List ℚ}

/-! ## One bucket -/

/-- The accepted hits of the window are the last attempts, or the bucket is blocked until the
window ends. -/
structure Counted (limits : Limits) (bucket : BucketKey) (first : ℚ)
    (limiter : InMemoryRateLimiter) (accepted : List ℚ) : Prop where
  few : (accepted.length : ℤ) ≤ max limits.maxAttempts 1
  inside : ∀ time ∈ accepted, first ≤ time
  kept : (∃ old, (limiter.attempts.getItem bucket).getD [] = old ++ accepted) ∨
    ∃ ends, limiter.blockedUntil.getItem bucket = some ends ∧ first + limits.window ≤ ends

theorem Counted.congr (hcounted : Counted limits bucket first limiter accepted)
    (hsame : SameBucket current limiter bucket) :
    Counted limits bucket first current accepted where
  few := hcounted.few
  inside := hcounted.inside
  kept := by
    rw [hsame.attempts, hsame.blockedUntil]
    exact hcounted.kept

theorem blockedUntil_sweepExpired (hends : limiter.blockedUntil.getItem bucket = some ends)
    (hlater : now < ends) : (limiter.sweepExpired now).blockedUntil.getItem bucket = some ends :=
  Dict.getItem_filter_of_kept hends (decide_eq_true hlater)

theorem Counted.sweepExpired (hcounted : Counted limits bucket first limiter accepted)
    (hstale : limits.window ≤ staleBucketAge) (hnow : now < first + limits.window) :
    Counted limits bucket first (limiter.sweepExpired now) accepted := by
  refine ⟨hcounted.few, hcounted.inside, ?_⟩
  rcases hcounted.kept with ⟨old, hattempts⟩ | ⟨ends, hends, hlast⟩
  · left
    rcases List.eq_nil_or_concat' accepted with rfl | ⟨earlier, latest, rfl⟩
    · exact ⟨_, (List.append_nil _).symm⟩
    · refine ⟨old, ?_⟩
      cases hget : limiter.attempts.getItem bucket with
      | none =>
        rw [hget] at hattempts
        exact absurd hattempts.symm (by simp)
      | some attempts =>
        rw [hget, Option.getD_some] at hattempts
        have hlatest := hcounted.inside latest (by simp)
        have hkept : (limiter.sweepExpired now).attempts.getItem bucket = some attempts := by
          refine Dict.getItem_filter_of_kept hget ?_
          rw [hattempts, ← List.append_assoc, List.getLast?_concat]
          apply decide_eq_true
          linarith
        rw [hkept]
        exact hattempts
  · exact .inr ⟨ends, blockedUntil_sweepExpired hends (hnow.trans_le hlast), hlast⟩

theorem sameBucket_decideHit (hne : bucket ≠ other) {own : Limits} :
    SameBucket (limiter.decideHit now other own).1 limiter bucket := by
  unfold decideHit
  split
  · exact .refl
  · dsimp only
    split
    · exact ⟨Dict.getItem_setItem_of_ne _ _ hne, rfl, rfl⟩
    · exact ⟨Dict.getItem_setItem_of_ne _ _ hne, Dict.getItem_setItem_of_ne _ _ hne, rfl⟩

theorem accepts_hit {own : Limits} : limiter.accepts ⟨now, .hit other own⟩ bucket = true ↔
      other = bucket ∧ (limiter.hit now other own).2 = .accepted := by
  simp only [accepts]
  rw [Bool.and_eq_true, decide_eq_true_eq, decide_eq_true_eq]

theorem sameBucket_discardLatestAttempt (hne : bucket ≠ other) :
    SameBucket (limiter.discardLatestAttempt other) limiter bucket := by
  unfold discardLatestAttempt
  split
  · exact .refl
  · exact .refl
  · dsimp only
    split
    · exact ⟨Dict.getItem_popItem_of_ne _ hne, rfl, rfl⟩
    · exact ⟨Dict.getItem_setItem_of_ne _ _ hne, rfl, rfl⟩

/-- Being seen changes neither the attempts nor the blocks. -/
theorem Counted.touch (hcounted : Counted limits bucket first limiter accepted) :
    Counted limits bucket first (limiter.touch now other) accepted :=
  ⟨hcounted.few, hcounted.inside, hcounted.kept⟩

theorem recentAttempts_eq {old : List ℚ}
    (hattempts : (limiter.attempts.getItem bucket).getD [] = old ++ accepted)
    (hinside : ∀ time ∈ accepted, first ≤ time) (hnow : now < first + limits.window)
    (hfew : (accepted.length : ℤ) ≤ max limits.maxAttempts 1) :
    ∃ older, limiter.recentAttempts now bucket limits = older ++ (accepted ++ [now]) := by
  have hdropped : ∃ older, (old ++ accepted).dropWhile
      (fun time => decide (time ≤ now - (max limits.windowSeconds 1 : ℤ))) = older ++ accepted := by
    rw [List.dropWhile_append]
    split
    · refine ⟨[], ?_⟩
      cases accepted with
      | nil => rfl
      | cons earliest rest =>
        have hearliest := hinside earliest List.mem_cons_self
        unfold Limits.window at hnow
        rw [List.nil_append, List.dropWhile_cons_of_neg]
        rw [decide_eq_true_eq]
        intro hold
        linarith
    · exact ⟨_, rfl⟩
  obtain ⟨older, holder⟩ := hdropped
  simp only [recentAttempts]
  rw [hattempts, holder]
  split
  · next hlong =>
    cases older with
    | nil =>
      rw [List.nil_append, List.length_append, List.length_singleton] at hlong
      push_cast at hlong
      omega
    | cons oldest rest => exact ⟨rest, by rw [List.append_assoc]; rfl⟩
  · exact ⟨older, List.append_assoc _ _ _⟩

theorem Counted.decideHit (hcounted : Counted limits bucket first limiter accepted)
    (hfirst : first ≤ now) (hnow : now < first + limits.window)
    (hblock : limits.window ≤ limits.block) :
    Counted limits bucket first (limiter.decideHit now bucket limits).1
      (if (limiter.decideHit now bucket limits).2 = .accepted then accepted ++ [now]
        else accepted) := by
  unfold InMemoryRateLimiter.decideHit
  split
  · exact hcounted
  · next hfree =>
    obtain ⟨old, hattempts⟩ := hcounted.kept.resolve_right fun hblocked => by
      obtain ⟨ends, hends, hlast⟩ := hblocked
      apply hfree
      rw [isBlocked, hends, Option.getD_some]
      exact decide_eq_true (hnow.trans_le hlast)
    obtain ⟨older, hrecent⟩ := recentAttempts_eq hattempts hcounted.inside hnow hcounted.few
    dsimp only
    split
    · next hroom =>
      rw [if_pos rfl]
      refine ⟨?_, ?_, .inl ⟨older, ?_⟩⟩
      · rw [hrecent, List.length_append] at hroom
        push_cast at hroom
        omega
      · intro time htime
        rcases List.mem_append.mp htime with hold | hnew
        · exact hcounted.inside time hold
        · rw [List.mem_singleton.mp hnew]
          exact hfirst
      · rw [Dict.getItem_setItem_self, Option.getD_some, hrecent]
    · rw [if_neg (by intro hsame; cases hsame)]
      refine ⟨hcounted.few, hcounted.inside, .inr ⟨_, Dict.getItem_setItem_self _ _ _, ?_⟩⟩
      change first + limits.window ≤ now + limits.block
      linarith

theorem Counted.apply (hcounted : Counted limits bucket first limiter accepted)
    (hspares : Spares limits bucket limiter timed) (hfirst : first ≤ timed.now)
    (hlast : timed.now < first + limits.window) (hblock : limits.window ≤ limits.block)
    (hstale : limits.window ≤ staleBucketAge) :
    Counted limits bucket first (limiter.apply timed)
      (if limiter.accepts timed bucket then accepted ++ [timed.now] else accepted) := by
  have hswept := hcounted.sweepExpired hstale hlast
  obtain ⟨now, operation⟩ := timed
  cases operation with
  | hit other own =>
    obtain ⟨hown, hsame⟩ := hspares
    have hroom : Counted limits bucket first (limiter.makeRoom now other) accepted :=
      hsame.elim hcounted.congr hswept.congr
    by_cases hother : other = bucket
    · obtain rfl := hown hother
      subst hother
      have htouched : Counted own other first ((limiter.makeRoom now other).touch now other)
          accepted := hroom.touch
      have hdecided := htouched.decideHit hfirst hlast hblock
      simp only [accepts_hit, true_and]
      exact hdecided
    · rw [if_neg (fun haccepts => hother (accepts_hit.mp haccepts).1)]
      exact hroom.touch.congr (sameBucket_decideHit (Ne.symm hother))
  | reset other => exact hcounted.congr (sameBucket_forget (Ne.symm hspares))
  | discardLatestAttempt other =>
    exact hcounted.congr (sameBucket_discardLatestAttempt (Ne.symm hspares))
  | resetAll => exact hspares.elim
  | sweepExpired => exact hswept
  | pruneCapacity keep => exact hswept.congr hspares

/-! ## Runs -/

theorem mem_acceptedTimes (htime : time ∈ acceptedTimes bucket limiter calls) :
    ∃ timed ∈ calls, timed.now = time := by
  induction calls generalizing limiter with
  | nil => cases htime
  | cons timed rest ih =>
    unfold acceptedTimes at htime
    split at htime
    · rcases List.mem_cons.mp htime with rfl | hrest
      · exact ⟨timed, List.mem_cons_self, rfl⟩
      · obtain ⟨other, hother, hnow⟩ := ih hrest
        exact ⟨other, List.mem_cons_of_mem _ hother, hnow⟩
    · obtain ⟨other, hother, hnow⟩ := ih htime
      exact ⟨other, List.mem_cons_of_mem _ hother, hnow⟩

theorem acceptedTimes_cons : acceptedTimes bucket limiter (timed :: calls) =
      (if limiter.accepts timed bucket then [timed.now] else []) ++
        acceptedTimes bucket (limiter.apply timed) calls := by
  rw [acceptedTimes]
  split
  · rfl
  · rfl

theorem countP_eq_zero_of_late (hclock : ∀ timed ∈ calls, first + limits.window ≤ timed.now) :
    (acceptedTimes bucket limiter calls).countP
      (fun time => first ≤ time ∧ time < first + limits.window) = 0 := by
  rw [List.countP_eq_zero]
  intro time htime hinside
  obtain ⟨timed, htimed, rfl⟩ := mem_acceptedTimes htime
  exact absurd (of_decide_eq_true hinside).2 (not_lt.mpr (hclock timed htimed))

theorem Counted.countP_acceptedTimes (hblock : limits.window ≤ limits.block)
    (hstale : limits.window ≤ staleBucketAge) (hclock : Monotone calls)
    (hlater : ∀ time ∈ accepted, ∀ timed ∈ calls, time ≤ timed.now)
    (hspared : Undisturbed limits bucket first (first + limits.window) limiter calls)
    (hcounted : Counted limits bucket first limiter accepted) :
    (accepted.length + (acceptedTimes bucket limiter calls).countP
      (fun time => first ≤ time ∧ time < first + limits.window) : ℤ) ≤
        max limits.maxAttempts 1 := by
  induction calls generalizing limiter accepted with
  | nil =>
    have hfew := hcounted.few
    simpa only [acceptedTimes, List.countP_nil, Nat.cast_zero, add_zero] using hfew
  | cons timed rest ih =>
    obtain ⟨hclockFirst, hclockRest⟩ := List.pairwise_cons.mp hclock
    obtain ⟨hspare, hsparedRest⟩ := hspared
    by_cases hlate : first + limits.window ≤ timed.now
    · -- the window is over
      have hzero : (acceptedTimes bucket limiter (timed :: rest)).countP
          (fun time => first ≤ time ∧ time < first + limits.window) = 0 := by
        apply countP_eq_zero_of_late
        intro other hother
        rcases List.mem_cons.mp hother with rfl | hrest
        · exact hlate
        · exact hlate.trans (hclockFirst other hrest)
      rw [hzero]
      have hfew := hcounted.few
      simpa only [Nat.cast_zero, add_zero] using hfew
    rw [not_le] at hlate
    rw [acceptedTimes_cons, List.countP_append]
    by_cases hearly : timed.now < first
    · -- the window has not begun, and nothing has been accepted in it
      obtain rfl : accepted = [] := by
        refine List.eq_nil_iff_forall_not_mem.mpr fun time htime => ?_
        have hinside := hcounted.inside time htime
        have hbefore := hlater time htime timed List.mem_cons_self
        exact absurd (hinside.trans hbefore) (not_le.mpr hearly)
      have hempty : Counted limits bucket first (limiter.apply timed) [] :=
        ⟨hcounted.few, nofun, .inl ⟨_, (List.append_nil _).symm⟩⟩
      have hrest := ih hclockRest (fun _ htime => absurd htime List.not_mem_nil) hsparedRest hempty
      have hzero : (if limiter.accepts timed bucket then [timed.now] else []).countP
          (fun time => first ≤ time ∧ time < first + limits.window) = 0 := by
        rw [List.countP_eq_zero]
        intro time htime hinside
        split at htime
        · rw [List.mem_singleton.mp htime] at hinside
          exact absurd (of_decide_eq_true hinside).1 (not_le.mpr hearly)
        · cases htime
      rw [hzero, Nat.zero_add]
      exact hrest
    · have hfirst := not_lt.mp hearly
      have hnext := hcounted.apply (hspare hfirst hlate) hfirst hlate hblock hstale
      have hrest := ih hclockRest ?_ hsparedRest hnext
      · split at hrest
        · next haccepts =>
          rw [if_pos haccepts, List.countP_singleton, if_pos (decide_eq_true ⟨hfirst, hlate⟩)]
          rw [List.length_append, List.length_singleton] at hrest
          push_cast at hrest ⊢
          linarith
        · next haccepts =>
          rw [if_neg haccepts, List.countP_nil, Nat.zero_add]
          exact hrest
      · intro time htime other hother
        have hold : time ∈ accepted ∨ time = timed.now := by
          split at htime
          · exact (List.mem_append.mp htime).imp_right List.mem_singleton.mp
          · exact .inl htime
        rcases hold with hmem | rfl
        · exact hlater time hmem other (List.mem_cons_of_mem _ hother)
        · exact hclockFirst other hother

/-! ## Blocks -/

theorem blocked_apply (hends : limiter.blockedUntil.getItem bucket = some ends)
    (hspares : Spares limits bucket limiter timed) (hnow : timed.now < ends) :
    (limiter.apply timed).blockedUntil.getItem bucket = some ends ∧
      limiter.accepts timed bucket = false := by
  have hswept := blockedUntil_sweepExpired hends hnow
  obtain ⟨now, operation⟩ := timed
  cases operation with
  | hit other own =>
    obtain ⟨-, hsame⟩ := hspares
    have hroom : (limiter.makeRoom now other).blockedUntil.getItem bucket = some ends :=
      hsame.elim (fun hkept => hkept.blockedUntil.trans hends)
        fun hkept => hkept.blockedUntil.trans hswept
    have htouched : ((limiter.makeRoom now other).touch now other).blockedUntil.getItem bucket =
        some ends := hroom
    by_cases hother : other = bucket
    · subst hother
      have hblocked : ((limiter.makeRoom now other).touch now other).isBlocked now other =
          true := by
        rw [isBlocked, htouched, Option.getD_some]
        exact decide_eq_true hnow
      have hhit : limiter.hit now other own = _ := if_pos hblocked
      refine ⟨?_, Bool.eq_false_iff.mpr fun haccepts => ?_⟩
      · change (limiter.hit now other own).1.blockedUntil.getItem other = some ends
        rw [hhit]
        exact htouched
      · have hverdict := (accepts_hit.mp haccepts).2
        rw [hhit] at hverdict
        cases hverdict
    · refine ⟨?_, Bool.eq_false_iff.mpr fun haccepts => hother (accepts_hit.mp haccepts).1⟩
      exact (sameBucket_decideHit (Ne.symm hother)).blockedUntil.trans htouched
  | reset other => exact ⟨(sameBucket_forget (Ne.symm hspares)).blockedUntil.trans hends, rfl⟩
  | discardLatestAttempt other =>
    exact ⟨(sameBucket_discardLatestAttempt (Ne.symm hspares)).blockedUntil.trans hends, rfl⟩
  | resetAll => exact hspares.elim
  | sweepExpired => exact ⟨hswept, rfl⟩
  | pruneCapacity keep => exact ⟨hspares.blockedUntil.trans hswept, rfl⟩

theorem ends_le_of_accepted (hends : limiter.blockedUntil.getItem bucket = some ends)
    (hclock : Monotone calls) (hfirst : ∀ timed ∈ calls, first ≤ timed.now)
    (hspared : Undisturbed limits bucket first ends limiter calls)
    (htime : time ∈ acceptedTimes bucket limiter calls) : ends ≤ time := by
  induction calls generalizing limiter with
  | nil => cases htime
  | cons timed rest ih =>
    obtain ⟨hclockFirst, hclockRest⟩ := List.pairwise_cons.mp hclock
    obtain ⟨hspare, hsparedRest⟩ := hspared
    by_cases hlate : ends ≤ timed.now
    · obtain ⟨other, hother, rfl⟩ := mem_acceptedTimes htime
      rcases List.mem_cons.mp hother with rfl | hrest
      · exact hlate
      · exact hlate.trans (hclockFirst other hrest)
    · obtain ⟨hkept, hrejects⟩ := blocked_apply hends
        (hspare (hfirst timed List.mem_cons_self) (not_le.mp hlate)) (not_le.mp hlate)
      rw [acceptedTimes_cons, hrejects, if_neg Bool.false_ne_true, List.nil_append] at htime
      exact ih hkept hclockRest (fun other hother => hfirst other (List.mem_cons_of_mem _ hother))
        hsparedRest htime

theorem blockedUntil_of_startsBlock (hstarts : StartsBlock limiter now bucket limits) :
    (limiter.hit now bucket limits).1.blockedUntil.getItem bucket = some (now + limits.block) := by
  obtain ⟨hfree, hrejected⟩ := hstarts
  rw [hit, decideHit, if_neg (Bool.eq_false_iff.mp hfree)] at hrejected ⊢
  dsimp only at hrejected ⊢
  split at hrejected
  · exact absurd rfl hrejected
  · next hmany =>
    rw [if_neg hmany]
    exact Dict.getItem_setItem_self _ _ _

/-! ## The law -/

/-- In a window in which the bucket is left alone, few hits of it are accepted, and none from the
rejection that starts a block until the block ends. -/
theorem window_respected {before after : List Timed} (hclock : Monotone calls)
    (hblock : limits.windowSeconds ≤ limits.blockSeconds) (hstale : limits.windowSeconds ≤ 3600) :
    (Undisturbed limits bucket first (first + limits.window) limiter calls →
      ((acceptedTimes bucket limiter calls).countP
        (fun time => first ≤ time ∧ time < first + limits.window) : ℤ) ≤ max limits.maxAttempts 1) ∧
    (calls = before ++ ⟨now, .hit bucket limits⟩ :: after →
      StartsBlock (before.foldl apply limiter) now bucket limits →
      Undisturbed limits bucket now (now + limits.block)
        ((before.foldl apply limiter).hit now bucket limits).1 after →
      ∀ time ∈ acceptedTimes bucket ((before.foldl apply limiter).hit now bucket limits).1 after,
        now + limits.block ≤ time) := by
  refine ⟨fun hspared => ?_, fun hcalls hstarts hspared time htime => ?_⟩
  · have hold : limits.window ≤ staleBucketAge := by
      unfold Limits.window staleBucketAge
      exact_mod_cast max_le hstale (by decide)
    have hempty : Counted limits bucket first limiter [] :=
      ⟨(le_max_right _ 1).trans' (by decide), nofun, .inl ⟨_, (List.append_nil _).symm⟩⟩
    have hcount := hempty.countP_acceptedTimes (Limits.window_le_block hblock) hold hclock
      (fun _ htime => absurd htime List.not_mem_nil) hspared
    simpa only [List.length_nil, Nat.cast_zero, zero_add] using hcount
  · rw [hcalls] at hclock
    obtain ⟨hafterFirst, hafter⟩ := List.pairwise_cons.mp (List.pairwise_append.mp hclock).2.1
    exact ends_le_of_accepted (blockedUntil_of_startsBlock hstarts) hafter hafterFirst hspared htime

end Windows

/-! ## Examples -/

def loginLimits : Limits where
  maxAttempts := 1
  windowSeconds := 60
  blockSeconds := 60

def loginHit (now : ℚ) (limits : Limits) : Timed where
  now
  operation := .hit ("login", "a") limits

def roomyLimiter : InMemoryRateLimiter where
  maxBuckets := 10

/-- A second hit is rejected, and a third one as well. -/
theorem window_respected_login :
    ((acceptedTimes ("login", "a") roomyLimiter
        [loginHit 1 loginLimits, loginHit 2 loginLimits, loginHit 30 loginLimits]).countP
      (fun time => 1 ≤ time ∧ time < 1 + loginLimits.window) : ℤ) ≤ 1 ∧
    ∀ time ∈ acceptedTimes ("login", "a")
        ((roomyLimiter.apply (loginHit 1 loginLimits)).hit 2 ("login", "a") loginLimits).1
        [loginHit 30 loginLimits],
      2 + loginLimits.block ≤ time := by
  have hclock : Monotone
      [loginHit 1 loginLimits, loginHit 2 loginLimits, loginHit 30 loginLimits] := by
    unfold Monotone
    decide
  obtain ⟨hcount, hrejected⟩ := @window_respected roomyLimiter 2 1 ("login", "a")
    loginLimits _ [loginHit 1 loginLimits] [loginHit 30 loginLimits] hclock (by decide) (by decide)
  refine ⟨hcount ⟨fun _ _ => ?_, fun _ _ => ?_, fun _ _ => ?_, trivial⟩,
    hrejected rfl ⟨by decide +kernel, by decide +kernel⟩ ⟨fun _ _ => ?_, trivial⟩⟩
  all_goals exact ⟨fun _ => rfl, .inl ⟨by decide +kernel, by decide +kernel, by decide +kernel⟩⟩

/-- A limit of no hits lets one through; a window of two hours forgets a hit after one, when
another key makes the full limiter sweep. -/
theorem window_exceeded : acceptedTimes ("login", "a") { maxBuckets := 10 }
        [loginHit 1 { maxAttempts := 0, windowSeconds := 60, blockSeconds := 60 }] = [1] ∧
    acceptedTimes ("login", "a") { maxBuckets := 1 }
        [loginHit 0 { maxAttempts := 1, windowSeconds := 7200, blockSeconds := 7200 },
          ⟨3600, .hit ("login", "b")
            { maxAttempts := 1, windowSeconds := 7200, blockSeconds := 7200 }⟩,
          loginHit 3601 { maxAttempts := 1, windowSeconds := 7200, blockSeconds := 7200 }] =
      [0, 3601] := by
  constructor
  · decide +kernel
  · decide +kernel

end InMemoryRateLimiter

end SignPulse.RateLimiter
