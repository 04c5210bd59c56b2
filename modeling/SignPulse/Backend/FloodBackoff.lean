import Mathlib.Data.List.Induction
import Mathlib.Data.Rat.Floor
import SignPulse.Foundation.KeyedTable

/-!
# Cooling down after a flood wait

`FloodBackoffManager` of `flood_backoff.py`: the deadlines that accounts wait for.  Each
operation reads the clock, and then does its work under the lock of the manager; the
operations stand in the order of the lock, so that their times may be in any order.
-/

namespace SignPulse.FloodBackoff

open Foundation

structure FloodCooldownInfo where
  accountName : String
  cooldownUntil : ℚ
  duration : ℤ
  reason : String
  createdAt : ℚ
  deriving DecidableEq, Repr

structure FloodBackoffManager where
  cooldowns : KeyedTable String FloodCooldownInfo := .empty

/-- `int(value)`. -/
def truncate (value : ℚ) : ℤ :=
  value.num.tdiv value.den

theorem truncate_pos {value : ℚ} : 0 < truncate value ↔ 1 ≤ value := by
  have hden : (0 : ℤ) < value.den := by exact_mod_cast value.den_pos
  have hone : 1 ≤ value ↔ (value.den : ℤ) ≤ value.num := by
    rw [Rat.le_iff]
    simp
  rw [hone, truncate, ← Int.add_one_le_iff, zero_add]
  rcases le_total 0 value.num with hnonneg | hnonpos
  · rw [Int.tdiv_eq_ediv_of_nonneg hnonneg, Int.le_ediv_iff_mul_le hden, one_mul]
  · have hopposite : 0 ≤ (-value.num).tdiv value.den := Int.tdiv_nonneg (by omega) hden.le
    rw [Int.neg_tdiv] at hopposite
    constructor
    · intro hpos
      omega
    · intro hle
      omega

namespace FloodBackoffManager

/-- `record_flood_wait`, with the time that it reads. -/
def recordFloodWait (manager : FloodBackoffManager) (accountName : String)
    (waitSeconds : ℤ) (reason : String) (now : ℚ) : FloodCooldownInfo × FloodBackoffManager :=
  let duration := max 5 (min waitSeconds 86400)
  let info : FloodCooldownInfo :=
    { accountName
      cooldownUntil := now + duration
      duration
      reason
      createdAt := now }
  (info, { cooldowns := manager.cooldowns.insert accountName info })

/-- `clear_cooldown`. -/
def clearCooldown (manager : FloodBackoffManager) (accountName : String) : FloodBackoffManager :=
  { cooldowns := manager.cooldowns.restrict (· ≠ accountName) }

/-- `clear`. -/
def clear (_ : FloodBackoffManager) : FloodBackoffManager :=
  { cooldowns := .empty }

/-- The whole seconds that are left. -/
def remaining (now : ℚ) (info : FloodCooldownInfo) : ℤ :=
  truncate (info.cooldownUntil - now)

/-- `is_cooling_down`, also behind `is_account_in_flood` and `get_remaining_wait`. -/
def isCoolingDown (manager : FloodBackoffManager) (accountName : String) (now : ℚ) :
    (Bool × ℤ) × FloodBackoffManager :=
  match manager.cooldowns.select accountName with
  | none => ((false, 0), manager)
  | some info =>
    if 0 < remaining now info then ((true, remaining now info), manager)
    else ((false, 0), manager.clearCooldown accountName)

/-- `get_all_cooling_accounts`. -/
def getAllCoolingAccounts (manager : FloodBackoffManager) (now : ℚ) :
    List (FloodCooldownInfo × ℤ) × FloodBackoffManager :=
  let active := manager.cooldowns.retain fun info => decide (0 < remaining now info)
  (active.rows.map fun item => (item.2, remaining now item.2), { cooldowns := active })

end FloodBackoffManager

/-! ## Sequences of operations -/

inductive Operation where
  | recordFloodWait (accountName : String) (waitSeconds : ℤ) (reason : String) (now : ℚ)
  | isCoolingDown (accountName : String) (now : ℚ)
  | getAllCoolingAccounts (now : ℚ)
  | clearCooldown (accountName : String)
  | clear

def FloodBackoffManager.perform (manager : FloodBackoffManager) : Operation → FloodBackoffManager
  | .recordFloodWait accountName waitSeconds reason now =>
    (manager.recordFloodWait accountName waitSeconds reason now).2
  | .isCoolingDown accountName now => (manager.isCoolingDown accountName now).2
  | .getAllCoolingAccounts now => (manager.getAllCoolingAccounts now).2
  | .clearCooldown accountName => manager.clearCooldown accountName
  | .clear => manager.clear

def FloodBackoffManager.run (operations : List Operation) : FloodBackoffManager :=
  operations.foldl perform {}

namespace Operation

def report (account : String) : Operation → Option FloodCooldownInfo
  | .recordFloodWait accountName waitSeconds reason now =>
    if accountName = account then
      some ((FloodBackoffManager.recordFloodWait {} accountName waitSeconds reason now).1)
    else none
  | _ => none

def look (account : String) : Operation → Option ℚ
  | .isCoolingDown accountName now => if accountName = account then some now else none
  | .getAllCoolingAccounts now => some now
  | _ => none

def clears (account : String) : Operation → Bool
  | .clearCooldown accountName => accountName == account
  | .clear => true
  | _ => false

end Operation

section Deadlines

variable {manager : FloodBackoffManager} {account : String} {operations : List Operation}

theorem remaining_pos {info : FloodCooldownInfo} {now : ℚ} :
    0 < FloodBackoffManager.remaining now info ↔ now + 1 ≤ info.cooldownUntil := by
  rw [FloodBackoffManager.remaining, truncate_pos]
  constructor
  · intro hle
    linarith
  · intro hle
    linarith

theorem select_clearCooldown (other : String) :
    (manager.clearCooldown other).cooldowns.select account =
      if account = other then none else manager.cooldowns.select account := by
  change (manager.cooldowns.restrict _).select account = _
  rw [KeyedTable.select_restrict]
  by_cases hsame : account = other
  · simp [hsame]
  · simp [hsame]

theorem select_isCoolingDown (now : ℚ) :
    (manager.isCoolingDown account now).2.cooldowns.select account =
      (manager.cooldowns.select account).filter fun info =>
        decide (now + 1 ≤ info.cooldownUntil) := by
  unfold FloodBackoffManager.isCoolingDown
  cases hinfo : manager.cooldowns.select account with
  | none => exact hinfo
  | some info =>
    dsimp only
    by_cases hleft : 0 < FloodBackoffManager.remaining now info
    · rw [if_pos hleft, Option.filter_some, if_pos (by simpa using remaining_pos.mp hleft)]
      exact hinfo
    · rw [if_neg hleft, Option.filter_some,
        if_neg (by simpa using fun hle => hleft (remaining_pos.mpr hle))]
      dsimp only
      rw [select_clearCooldown, if_pos rfl]

theorem select_isCoolingDown_of_ne {other : String} (hother : account ≠ other) (now : ℚ) :
    (manager.isCoolingDown other now).2.cooldowns.select account =
      manager.cooldowns.select account := by
  unfold FloodBackoffManager.isCoolingDown
  split
  · rfl
  · split
    · rfl
    · dsimp only
      rw [select_clearCooldown, if_neg hother]

theorem filter_true (found : Option FloodCooldownInfo) : found.filter (fun _ => true) = found := by
  cases found with
  | none => rfl
  | some info => rfl

theorem select_perform {operation : Operation} (hkeep : operation.clears account = false) :
    (manager.perform operation).cooldowns.select account =
      (operation.report account).or ((manager.cooldowns.select account).filter fun info =>
        (operation.look account).all fun now => decide (now + 1 ≤ info.cooldownUntil)) := by
  cases operation with
  | recordFloodWait accountName waitSeconds reason now =>
    change (manager.cooldowns.insert accountName _).select account = _
    rw [KeyedTable.select_insert]
    by_cases hsame : account = accountName
    · simp [Operation.report, hsame, FloodBackoffManager.recordFloodWait]
    · simp [Operation.report, Operation.look, hsame, Ne.symm hsame, filter_true]
  | isCoolingDown accountName now =>
    change (manager.isCoolingDown accountName now).2.cooldowns.select account = _
    by_cases hsame : account = accountName
    · rw [← hsame, select_isCoolingDown]
      simp [Operation.report, Operation.look]
    · rw [select_isCoolingDown_of_ne hsame]
      simp [Operation.report, Operation.look, Ne.symm hsame, filter_true]
  | getAllCoolingAccounts now =>
    change (manager.cooldowns.retain _).select account = _
    rw [KeyedTable.select_retain]
    simp [Operation.report, Operation.look, remaining_pos]
  | clearCooldown accountName =>
    change (manager.clearCooldown accountName).cooldowns.select account = _
    have hother : account ≠ accountName := by
      rintro rfl
      exact absurd hkeep (by simp [Operation.clears])
    rw [select_clearCooldown, if_neg hother]
    simp [Operation.report, Operation.look, filter_true]
  | clear => cases hkeep

/-- The last report of an account, and that no look at it since came in its last second. -/
def Standing (account : String) (operations : List Operation) (info : FloodCooldownInfo) : Prop :=
  ∃ before operation after, operations = before ++ operation :: after ∧
    operation.report account = some info ∧
    ∀ later ∈ after, later.report account = none ∧
      ∀ now ∈ later.look account, now + 1 ≤ info.cooldownUntil

theorem standing_concat {operation : Operation} {info : FloodCooldownInfo} :
    Standing account (operations ++ [operation]) info ↔ operation.report account = some info ∨
        operation.report account = none ∧ Standing account operations info ∧
          ∀ now ∈ operation.look account, now + 1 ≤ info.cooldownUntil := by
  constructor
  · rintro ⟨before, reporting, after, hsplit, hreport, hafter⟩
    rcases List.eq_nil_or_concat after with rfl | ⟨rest, last, rfl⟩
    · obtain ⟨-, hsame⟩ := List.append_inj' hsplit rfl
      obtain rfl := (List.cons.inj hsame).1
      exact .inl hreport
    · have hshift : operations ++ [operation] = (before ++ reporting :: rest) ++ [last] := by
        simpa using hsplit
      obtain ⟨rfl, hsame⟩ := List.append_inj' hshift rfl
      obtain rfl := (List.cons.inj hsame).1
      obtain ⟨hnone, hlook⟩ := hafter operation (by simp)
      refine .inr ⟨hnone, ⟨before, reporting, rest, rfl, hreport, ?_⟩, hlook⟩
      exact fun later hlater => hafter later (by simp [hlater])
  · rintro (hreport | ⟨hnone, ⟨before, reporting, after, rfl, hreport, hafter⟩, hlook⟩)
    · exact ⟨operations, operation, [], rfl, hreport, by simp⟩
    · refine ⟨before, reporting, after ++ [operation], by simp, hreport, ?_⟩
      intro later hlater
      rcases List.mem_append.mp hlater with hold | hnew
      · exact hafter later hold
      · obtain rfl := List.mem_singleton.mp hnew
        exact ⟨hnone, hlook⟩

theorem select_run {info : FloodCooldownInfo}
    (hkeep : ∀ operation ∈ operations, operation.clears account = false) :
    (FloodBackoffManager.run operations).cooldowns.select account = some info ↔
      Standing account operations info := by
  induction operations using List.reverseRecOn with
  | nil =>
    constructor
    · intro hnone
      cases hnone
    · rintro ⟨before, operation, after, hsplit, -⟩
      simp at hsplit
  | append_singleton operations operation ih =>
    have hold := ih fun other hother => hkeep other (List.mem_append_left _ hother)
    have hrun : FloodBackoffManager.run (operations ++ [operation]) =
        (FloodBackoffManager.run operations).perform operation := by
      rw [FloodBackoffManager.run, List.foldl_append]
      rfl
    rw [hrun, select_perform (hkeep operation (by simp)), standing_concat, ← hold]
    cases operation.report account with
    | some reported => simp
    | none =>
      rw [Option.none_or, Option.filter_eq_some_iff]
      cases operation.look account with
      | none => simp
      | some now => simp

/-- `is_cooling_down` answers true for a cooldown with a second left. -/
theorem isCoolingDown_iff {now : ℚ} : (manager.isCoolingDown account now).1.1 = true ↔
      ∃ info, manager.cooldowns.select account = some info ∧ now + 1 ≤ info.cooldownUntil := by
  unfold FloodBackoffManager.isCoolingDown
  cases manager.cooldowns.select account with
  | none => simp
  | some info =>
    dsimp only
    by_cases hleft : 0 < FloodBackoffManager.remaining now info
    · rw [if_pos hleft]
      exact iff_of_true rfl ⟨info, rfl, remaining_pos.mp hleft⟩
    · rw [if_neg hleft]
      constructor
      · intro hfalse
        cases hfalse
      · rintro ⟨other, hother, hle⟩
        cases hother
        exact absurd (remaining_pos.mpr hle) hleft

/-- An account is cooling down before all its deadlines exactly if they are over, or the last
of them is the one that counts: it has a second left, and had at each look since. -/
theorem cooling_before_deadline_iff {now : ℚ}
    (hkeep : ∀ operation ∈ operations, operation.clears account = false) :
    ((∃ info ∈ operations.filterMap (Operation.report account), now < info.cooldownUntil) →
        ((FloodBackoffManager.run operations).isCoolingDown account now).1.1 = true) ↔
      (∀ info ∈ operations.filterMap (Operation.report account), info.cooldownUntil ≤ now) ∨
        ∃ info, Standing account operations info ∧ now + 1 ≤ info.cooldownUntil := by
  have hcooling : ((FloodBackoffManager.run operations).isCoolingDown account now).1.1 = true ↔
      ∃ info, Standing account operations info ∧ now + 1 ≤ info.cooldownUntil := by
    rw [isCoolingDown_iff]
    exact exists_congr fun info => and_congr_left fun _ => select_run hkeep
  rw [hcooling]
  constructor
  · intro himplies
    by_cases hahead : ∃ info ∈ operations.filterMap (Operation.report account),
        now < info.cooldownUntil
    · exact .inr (himplies hahead)
    · refine .inl fun info hinfo => ?_
      exact not_lt.mp fun hlt => hahead ⟨info, hinfo, hlt⟩
  · rintro (hover | hstanding) ⟨info, hinfo, hlt⟩
    · exact absurd (hover info hinfo) (not_le.mpr hlt)
    · exact hstanding

/-- A longer wait follows a shorter one, and keeps the account cooling down. -/
theorem cooling_after_longer_wait :
    (∃ info ∈ [Operation.recordFloodWait "a" 10 "" 0, .recordFloodWait "a" 100 "" 1].filterMap
        (Operation.report "a"), 50 < info.cooldownUntil) ∧
      ((FloodBackoffManager.run
        [.recordFloodWait "a" 10 "" 0, .recordFloodWait "a" 100 "" 1]).isCoolingDown
          "a" 50).1.1 = true := by
  have hkeep : ∀ operation ∈ [Operation.recordFloodWait "a" 10 "" 0,
      .recordFloodWait "a" 100 "" 1], operation.clears "a" = false := by
    simp [Operation.clears]
  have hreported : ∃ info ∈ [Operation.recordFloodWait "a" 10 "" 0,
      .recordFloodWait "a" 100 "" 1].filterMap (Operation.report "a"), 50 < info.cooldownUntil :=
    ⟨(FloodBackoffManager.recordFloodWait {} "a" 100 "" 1).1, by decide +kernel, by decide +kernel⟩
  refine ⟨hreported, (cooling_before_deadline_iff hkeep).mpr ?_ hreported⟩
  refine .inr ⟨(FloodBackoffManager.recordFloodWait {} "a" 100 "" 1).1, ?_, by decide +kernel⟩
  exact ⟨[.recordFloodWait "a" 10 "" 0], .recordFloodWait "a" 100 "" 1, [], rfl, rfl, by simp⟩

/-- A later shorter wait ends an earlier one, and so does the last second of a wait. -/
theorem cooldown_ends_early :
    ((∃ info ∈ [Operation.recordFloodWait "a" 100 "" 0, .recordFloodWait "a" 5 "" 1].filterMap
        (Operation.report "a"), 50 < info.cooldownUntil) ∧
      ((FloodBackoffManager.run
        [.recordFloodWait "a" 100 "" 0, .recordFloodWait "a" 5 "" 1]).isCoolingDown
          "a" 50).1.1 = false) ∧
    (∃ info ∈ [Operation.recordFloodWait "a" 10 "" 0].filterMap (Operation.report "a"),
      19 / 2 < info.cooldownUntil) ∧
    ((FloodBackoffManager.run [.recordFloodWait "a" 10 "" 0]).isCoolingDown
      "a" (19 / 2)).1.1 = false := by
  decide +kernel

end Deadlines

end SignPulse.FloodBackoff
