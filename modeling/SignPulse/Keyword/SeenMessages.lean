import SignPulse.Foundation.PyValue
import SignPulse.Foundation.StableSort
import SignPulse.Foundation.StepRun
import SignPulse.Keyword.HitRecords

/-!
# Messages that were seen

For each account and chat the monitor keeps the greatest number that it has seen, the greatest one
of the runs before, and a window of the numbers of this run.  The first is in a file, which is
written now and then and when the monitor stops.
-/

namespace SignPulse.SeenMessages

open Foundation
open KeywordHits (ChatId)

structure Monitor where
  seen : Dict String ℤ
  baseline : Dict String ℤ
  window : Dict String (List ℤ)
  dirty : Bool
  lastPersist : ℚ
  /-- What the file is decoded to, if it can be read. -/
  file : Option PyValue
  /-- The handlers are registered. -/
  listening : Bool

def chatText : ChatId → String
  | .number value => toString value
  | .name value => value

/-- `_seen_key`. -/
def seenKey (accountName : String) (chatId : ChatId) : String :=
  accountName ++ ":" ++ chatText chatId

/-- The numbers that `_load_seen_state` takes from the file. -/
def loadedFrom : Option PyValue → Dict String ℤ
  | some (.dict entries) => entries.filterMap fun item =>
    match item.2 with
    | .int value => if 0 < value then some (item.1, value) else none
    | _ => none
  | _ => []

def savedAs (seen : Dict String ℤ) : PyValue :=
  .dict (seen.map fun item => (item.1, .int item.2))

/-- `_persist_seen_state`. -/
def persist (monitor : Monitor) (now : ℚ) : Monitor :=
  { monitor with file := some (savedAs monitor.seen), lastPersist := now, dirty := false }

/-- `_maybe_persist_seen_state`. -/
def maybePersist (monitor : Monitor) (force : Bool) (now : ℚ) : Monitor :=
  if monitor.dirty = false then monitor
  else if force = false ∧ now - monitor.lastPersist < 30 then monitor
  else persist monitor now

/-- `sorted(seen_set, reverse=True)[:200]`. -/
def keepOf (seenSet : List ℤ) : List ℤ :=
  (seenSet.insertionSort (· ≥ ·)).take 200

/-- The window with another number, cut if there are more than 300. -/
def added (seenSet : List ℤ) (messageId : ℤ) : List ℤ :=
  if 300 < (seenSet ++ [messageId]).length then keepOf (seenSet ++ [messageId])
  else seenSet ++ [messageId]

def windowAt (monitor : Monitor) (key : String) : List ℤ :=
  (monitor.window.getItem key).getD []

/-- The end of `_is_seen_message`, for a number that is new. -/
def mark (monitor : Monitor) (key : String) (messageId : ℤ) (now : ℚ) : Monitor :=
  let window := monitor.window.setItem key (added (windowAt monitor key) messageId)
  if (monitor.seen.getItem key).getD 0 < messageId then
    maybePersist { monitor with
      window
      seen := monitor.seen.setItem key messageId
      dirty := true } false now
  else { monitor with window }

/-- `_is_seen_message`. -/
def isSeenMessage (monitor : Monitor) (accountName : String) (chatId : ChatId)
    (messageId : Option ℤ) (now : ℚ) : Monitor × Bool :=
  match messageId with
  | none => (monitor, false)
  | some messageId =>
    let key := seenKey accountName chatId
    if messageId ≤ (monitor.baseline.getItem key).getD 0 then (monitor, true)
    else if messageId ∈ windowAt monitor key then (monitor, true)
    else (mark monitor key messageId now, false)

def accountOf (key : String) : String :=
  String.ofList (key.toList.takeWhile (· ≠ ':'))

def stale (monitor : Monitor) (accounts : List String) (key : String) : Bool :=
  monitor.seen.hasKey key && !(accounts.map pyStrip).contains (accountOf key)

/-- `_prune_inactive_rule_state`, for the rules of these accounts. -/
def prune (monitor : Monitor) (accounts : List String) : Monitor :=
  { monitor with
    seen := monitor.seen.filter fun item => !stale monitor accounts item.1
    baseline := monitor.baseline.filter fun item => !stale monitor accounts item.1
    window := monitor.window.filter fun item => !stale monitor accounts item.1
    dirty := monitor.dirty || monitor.seen.any fun item => stale monitor accounts item.1 }

/-- A new reading of the rules begins with `prune`; where they have changed, the monitor stops and
starts again.  A process ends after its monitor has stopped. -/
inductive Event where
  | deliver (accountName : String) (chatId : ChatId) (messageId : Option ℤ) (now : ℚ)
  | prune (accounts : List String)
  | stop (now : ℚ)
  | start (now : ℚ)
  | exit

def step (monitor : Monitor) : Event → Option Monitor
  | .deliver accountName chatId messageId now =>
    if monitor.listening then some (isSeenMessage monitor accountName chatId messageId now).1
    else none
  | .prune accounts => some (prune monitor accounts)
  | .stop now => some { maybePersist monitor true now with listening := false }
  | .start now =>
    if monitor.listening then none
    else
      let loaded := loadedFrom monitor.file
      some { monitor with
        seen := loaded
        baseline := loaded
        window := loaded.map fun item => (item.1, [])
        dirty := false
        lastPersist := now
        listening := true }
  | .exit =>
    if monitor.listening then none
    else some { monitor with seen := [], baseline := [], window := [], dirty := false, lastPersist := 0 }

def started (file : Option PyValue) : Monitor := ⟨[], [], [], false, 0, file, false⟩

/-- A window is cut, and there are two hundred greater numbers in it. -/
def crowded (seenSet : List ℤ) (messageId other : ℤ) : Bool :=
  decide (300 < (seenSet ++ [other]).length) &&
    decide (200 ≤ ((seenSet ++ [other]).filter fun number => messageId < number).length)

/-- The account is found without rules, or the number drops out of the window of its chat. -/
def forgets (accountName : String) (chatId : ChatId) (messageId : ℤ) (monitor : Monitor) :
    Event → Bool
  | .deliver account chat (some other) now =>
    let key := seenKey account chat
    decide (key = seenKey accountName chatId) &&
      !(isSeenMessage monitor account chat (some other) now).2 &&
      crowded (windowAt monitor key) messageId other
  | .prune accounts => !(accounts.map pyStrip).contains accountName
  | _ => false

/-! ## What every run keeps -/

/-- The numbers are positive and the windows without repetition, and what is in the file is what
was seen, unless it is to be written. -/
structure Sound (monitor : Monitor) : Prop where
  seen : ∀ key number, (key, number) ∈ monitor.seen → 0 < number
  baseline : ∀ key number, (key, number) ∈ monitor.baseline → 0 < number
  window : ∀ key, (windowAt monitor key).Nodup
  saved : monitor.listening = true → monitor.dirty = false → loadedFrom monitor.file = monitor.seen

def AtLeast (numbers : Dict String ℤ) (key : String) (messageId : ℤ) : Prop :=
  ∃ number, numbers.getItem key = some number ∧ messageId ≤ number

/-- The number is known while the monitor runs, and is not lost when it stops. -/
structure Remembers (key : String) (messageId : ℤ) (monitor : Monitor) : Prop where
  positive : 0 < messageId
  known : monitor.listening = true → AtLeast monitor.baseline key messageId ∨
    messageId ∈ windowAt monitor key
  highest : monitor.listening = true ∨ monitor.dirty = true ∨ monitor.seen ≠ [] →
    AtLeast monitor.seen key messageId
  saved : monitor.dirty = false ∨ monitor.listening = false →
    AtLeast (loadedFrom monitor.file) key messageId

theorem loadedFrom_positive (file : Option PyValue) (key : String) (number : ℤ)
    (hmem : (key, number) ∈ loadedFrom file) : 0 < number := by
  unfold loadedFrom at hmem
  split at hmem
  · obtain ⟨entry, -, hentry⟩ := List.mem_filterMap.mp hmem
    split at hentry
    · obtain ⟨hpositive, hitem⟩ := Option.ite_none_right_eq_some.mp hentry
      obtain ⟨-, rfl⟩ := Prod.mk.inj (Option.some.inj hitem)
      exact hpositive
    · cases hentry
  · exact absurd hmem List.not_mem_nil

theorem loadedFrom_savedAs {seen : Dict String ℤ}
    (hseen : ∀ key number, (key, number) ∈ seen → 0 < number) :
    loadedFrom (some (savedAs seen)) = seen := by
  simp only [loadedFrom, savedAs]
  rw [List.filterMap_map]
  refine (List.filterMap_congr fun item hmem => ?_).trans (List.filterMap_some)
  exact if_pos (hseen item.1 item.2 hmem)

theorem nodup_added {seenSet : List ℤ} {messageId : ℤ} (hnodup : seenSet.Nodup)
    (hnew : messageId ∉ seenSet) : (added seenSet messageId).Nodup := by
  have happended : (seenSet ++ [messageId]).Nodup :=
    List.nodup_append_comm.mp (List.nodup_cons.mpr ⟨hnew, hnodup⟩)
  unfold added
  split
  · exact ((List.perm_insertionSort _ _).nodup_iff.mpr happended).sublist (List.take_sublist _ _)
  · exact happended

/-- A number is among the first if few numbers are greater. -/
theorem mem_keepOf_iff {ids : List ℤ} {messageId : ℤ} (hnodup : ids.Nodup)
    (hmem : messageId ∈ ids) :
    messageId ∈ keepOf ids ↔ (ids.filter fun number => messageId < number).length < 200 := by
  obtain ⟨before, after, rfl⟩ := List.append_of_mem hmem
  have hbefore : ∀ number ∈ before, messageId ≠ number := by
    rintro number hnumber rfl
    exact (List.nodup_middle.mp hnodup).notMem (List.mem_append_left _ hnumber)
  have hleft : before.countP (fun number => number ≥ messageId) =
      before.countP (fun number => messageId < number) := by
    refine List.countP_congr fun number hnumber => ?_
    rw [decide_eq_true_eq, decide_eq_true_eq]
    exact (hbefore number hnumber).le_iff_lt
  have hright : after.countP (fun number => ¬ messageId ≥ number) =
      after.countP (fun number => messageId < number) := by
    refine List.countP_congr fun number _ => ?_
    rw [decide_eq_true_eq, decide_eq_true_eq]
    exact not_le
  have hitself : (if decide (messageId < messageId) = true then 1 else 0) = 0 :=
    if_neg (by simp)
  rw [keepOf, mem_take_insertionSort_iff hnodup, ← List.countP_eq_length_filter,
    List.countP_append, List.countP_cons, hitself, Nat.add_zero, sortedRank, hleft, hright]

/-- A number stays in the window, unless it is crowded out. -/
theorem mem_added_iff {seenSet : List ℤ} {messageId other : ℤ} (hnodup : seenSet.Nodup)
    (hnew : other ∉ seenSet) :
    messageId ∈ added seenSet other ↔
      messageId ∈ seenSet ++ [other] ∧ crowded seenSet messageId other = false := by
  have happended : (seenSet ++ [other]).Nodup :=
    List.nodup_append_comm.mp (List.nodup_cons.mpr ⟨hnew, hnodup⟩)
  unfold added crowded
  split
  · next hlong =>
    rw [decide_eq_true hlong, Bool.true_and, decide_eq_false_iff_not, Nat.not_le]
    constructor
    · intro hkept
      have hmem := (List.perm_insertionSort _ _).subset (List.mem_of_mem_take hkept)
      exact ⟨hmem, (mem_keepOf_iff happended hmem).mp hkept⟩
    · rintro ⟨hmem, hfew⟩
      exact (mem_keepOf_iff happended hmem).mpr hfew
  · next hshort =>
    rw [decide_eq_false hshort, Bool.false_and]
    exact ⟨fun hmem => ⟨hmem, rfl⟩, fun hboth => hboth.1⟩

variable {monitor next : Monitor} {key : String} {messageId : ℤ}

theorem started_sound (file : Option PyValue) : Sound (started file) where
  seen _ _ hmem := absurd hmem List.not_mem_nil
  baseline _ _ hmem := absurd hmem List.not_mem_nil
  window _ := List.nodup_nil
  saved := nofun

theorem Sound.persist (hsound : Sound monitor) (now : ℚ) : Sound (persist monitor now) where
  seen := hsound.seen
  baseline := hsound.baseline
  window := hsound.window
  saved _ _ := loadedFrom_savedAs hsound.seen

theorem Sound.maybePersist (hsound : Sound monitor) (force : Bool) (now : ℚ) :
    Sound (maybePersist monitor force now) := by
  unfold SeenMessages.maybePersist
  split
  · exact hsound
  · split
    · exact hsound
    · exact hsound.persist now

theorem windowAt_setItem (ids : List ℤ) (other : String) :
    ((monitor.window.setItem key ids).getItem other).getD [] =
      if other = key then ids else windowAt monitor other := by
  split
  · next heq => rw [heq, Dict.getItem_setItem_self, Option.getD_some]
  · next hne => rw [Dict.getItem_setItem_of_ne _ _ hne]; rfl

theorem nonneg_getD (numbers : Dict String ℤ)
    (hpositive : ∀ key number, (key, number) ∈ numbers → 0 < number) :
    0 ≤ (numbers.getItem key).getD 0 := by
  cases hfound : numbers.getItem key with
  | none => exact le_rfl
  | some number => exact (hpositive key number (Dict.mem_of_getItem hfound)).le

theorem Sound.setWindow (hsound : Sound monitor) (hnew : messageId ∉ windowAt monitor key) :
    Sound { monitor with
      window := monitor.window.setItem key (added (windowAt monitor key) messageId) } where
  seen := hsound.seen
  baseline := hsound.baseline
  window other := by
    rw [windowAt, windowAt_setItem]
    split
    · exact nodup_added (hsound.window key) hnew
    · exact hsound.window other
  saved := hsound.saved

theorem Sound.raise (hsound : Sound monitor)
    (hgreater : (monitor.seen.getItem key).getD 0 < messageId) :
    Sound { monitor with seen := monitor.seen.setItem key messageId, dirty := true } where
  seen other number hmem := by
    rcases Dict.mem_of_mem_setItem hmem with ⟨-, rfl⟩ | hold
    · exact (nonneg_getD monitor.seen hsound.seen).trans_lt hgreater
    · exact hsound.seen other number hold
  baseline := hsound.baseline
  window := hsound.window
  saved := nofun

theorem Sound.mark (hsound : Sound monitor) (hnew : messageId ∉ windowAt monitor key) (now : ℚ) :
    Sound (mark monitor key messageId now) := by
  have hmarked := hsound.setWindow hnew
  simp only [SeenMessages.mark]
  split
  · next hgreater => exact (hmarked.raise hgreater).maybePersist false now
  · exact hmarked

theorem isSeenMessage_cases (monitor : Monitor) (accountName : String) (chatId : ChatId)
    (messageId : ℤ) (now : ℚ) :
    ((messageId ≤ (monitor.baseline.getItem (seenKey accountName chatId)).getD 0 ∨
        messageId ∈ windowAt monitor (seenKey accountName chatId)) ∧
      isSeenMessage monitor accountName chatId (some messageId) now = (monitor, true)) ∨
    ((monitor.baseline.getItem (seenKey accountName chatId)).getD 0 < messageId ∧
      messageId ∉ windowAt monitor (seenKey accountName chatId) ∧
      isSeenMessage monitor accountName chatId (some messageId) now =
        (mark monitor (seenKey accountName chatId) messageId now, false)) := by
  simp only [isSeenMessage]
  split
  · next hold => exact .inl ⟨.inl hold, rfl⟩
  · next hlate =>
    split
    · next hmem => exact .inl ⟨.inr hmem, rfl⟩
    · next hnew => exact .inr ⟨not_le.mp hlate, hnew, rfl⟩

theorem windowAt_prune (accounts : List String) (key : String) :
    windowAt (prune monitor accounts) key =
      if stale monitor accounts key then [] else windowAt monitor key := by
  have hfilter := Dict.getItem_filter_key (fun key => !stale monitor accounts key)
    monitor.window key
  simp only [windowAt, prune]
  rw [hfilter]
  cases stale monitor accounts key with
  | true => rfl
  | false => rfl

theorem nodup_emptyWindow (loaded : Dict String ℤ) (key : String) :
    ((Dict.getItem (loaded.map fun item => (item.1, ([] : List ℤ))) key).getD []).Nodup := by
  cases hfound : Dict.getItem (loaded.map fun item => (item.1, ([] : List ℤ))) key with
  | none => exact List.nodup_nil
  | some ids =>
    obtain ⟨item, -, heq⟩ := List.mem_map.mp (Dict.mem_of_getItem hfound)
    rw [Option.getD_some, ← (Prod.mk.inj heq).2]
    exact List.nodup_nil

theorem Sound.step {event : Event} (hsound : Sound monitor)
    (hstep : SeenMessages.step monitor event = some next) : Sound next := by
  cases event with
  | deliver accountName chatId number now =>
    obtain ⟨-, hnext⟩ := Option.ite_none_right_eq_some.mp hstep
    cases hnext
    cases number with
    | none => exact hsound
    | some number =>
      rcases isSeenMessage_cases monitor accountName chatId number now with
        ⟨-, heq⟩ | ⟨-, hnew, heq⟩
      · rwa [heq]
      · rw [heq]
        exact hsound.mark hnew now
  | prune accounts =>
    cases hstep
    refine ⟨fun key number hmem => hsound.seen key number (List.mem_of_mem_filter hmem),
      fun key number hmem => hsound.baseline key number (List.mem_of_mem_filter hmem),
      fun key => ?_, fun hlistening hclean => ?_⟩
    · rw [windowAt_prune]
      split
      · exact List.nodup_nil
      · exact hsound.window key
    · obtain ⟨hdirty, hnone⟩ := Bool.or_eq_false_iff.mp hclean
      have hkept : (monitor.seen.filter fun item => !stale monitor accounts item.1) =
          monitor.seen := by
        refine List.filter_eq_self.mpr fun item hmem => ?_
        rw [Bool.eq_false_iff.mpr (List.any_eq_false.mp hnone item hmem)]
        rfl
      exact (hsound.saved hlistening hdirty).trans hkept.symm
  | stop now =>
    cases hstep
    have hwritten := hsound.maybePersist true now
    exact ⟨hwritten.seen, hwritten.baseline, hwritten.window, nofun⟩
  | start now =>
    obtain ⟨-, hnext⟩ := Option.ite_none_left_eq_some.mp hstep
    cases hnext
    exact ⟨loadedFrom_positive _, loadedFrom_positive _, nodup_emptyWindow _, fun _ _ => rfl⟩
  | exit =>
    obtain ⟨hstopped, hnext⟩ := Option.ite_none_left_eq_some.mp hstep
    cases hnext
    exact ⟨fun _ _ hmem => absurd hmem List.not_mem_nil,
      fun _ _ hmem => absurd hmem List.not_mem_nil, fun _ => List.nodup_nil,
      fun hlistening => absurd hlistening hstopped⟩

/-! ## One number -/

variable {accountName : String} {chatId : ChatId}

theorem AtLeast.setItem {numbers : Dict String ℤ} (hatLeast : AtLeast numbers key messageId)
    {other : String} {number : ℤ} (hgreater : (numbers.getItem other).getD 0 < number) :
    AtLeast (numbers.setItem other number) key messageId := by
  obtain ⟨found, hfound, hle⟩ := hatLeast
  by_cases heq : key = other
  · subst heq
    rw [hfound, Option.getD_some] at hgreater
    exact ⟨number, Dict.getItem_setItem_self .., hle.trans hgreater.le⟩
  · exact ⟨found, (Dict.getItem_setItem_of_ne _ _ heq).trans hfound, hle⟩

theorem Remembers.maybePersist (hsound : Sound monitor)
    (hremembers : Remembers key messageId monitor) (force : Bool) (now : ℚ) :
    Remembers key messageId (maybePersist monitor force now) := by
  unfold SeenMessages.maybePersist
  split
  · exact hremembers
  · next hdirty =>
    split
    · exact hremembers
    · have hhighest := hremembers.highest (.inr (.inl (Bool.not_eq_false _ ▸ hdirty)))
      refine ⟨hremembers.positive, hremembers.known, fun _ => hhighest, fun _ => ?_⟩
      rw [SeenMessages.persist, loadedFrom_savedAs hsound.seen]
      exact hhighest

/-- After a delivery the number is known, unless it is crowded out. -/
theorem Remembers.mark (hsound : Sound monitor) (hlistening : monitor.listening = true)
    {other : ℤ} {place : String} (hlater : (monitor.baseline.getItem place).getD 0 < other)
    (hnew : other ∉ windowAt monitor place)
    (hroom : place = key → crowded (windowAt monitor key) messageId other = false)
    (hremembers : Remembers key messageId monitor ∨ place = key ∧ other = messageId) (now : ℚ) :
    Remembers key messageId (mark monitor place other now) := by
  have hpositive : 0 < messageId := by
    rcases hremembers with hold | ⟨-, rfl⟩
    · exact hold.positive
    · exact (nonneg_getD monitor.baseline hsound.baseline).trans_lt hlater
  have hknown : AtLeast monitor.baseline key messageId ∨ messageId ∈ (((monitor.window.setItem place
      (added (windowAt monitor place) other)).getItem key).getD []) := by
    rw [windowAt_setItem]
    split
    · next heq =>
      subst heq
      have hplace : AtLeast monitor.baseline key messageId ∨
          messageId ∈ windowAt monitor key ++ [other] := by
        rcases hremembers with hold | ⟨-, rfl⟩
        · exact (hold.known hlistening).imp_right (List.mem_append_left _)
        · exact .inr (List.mem_append_right _ List.mem_cons_self)
      exact hplace.imp_right fun hmem =>
        (mem_added_iff (hsound.window key) hnew).mpr ⟨hmem, hroom rfl⟩
    · next hne =>
      rcases hremembers with hold | ⟨heq, -⟩
      · exact hold.known hlistening
      · exact absurd heq.symm hne
  have hmarked := hsound.setWindow hnew
  simp only [SeenMessages.mark]
  split
  · next hgreater =>
    have hhighest : AtLeast (monitor.seen.setItem place other) key messageId := by
      rcases hremembers with hold | ⟨rfl, rfl⟩
      · exact (hold.highest (.inl hlistening)).setItem hgreater
      · exact ⟨other, Dict.getItem_setItem_self .., le_rfl⟩
    refine Remembers.maybePersist (hmarked.raise hgreater) ?_ false now
    refine ⟨hpositive, fun _ => hknown, fun _ => hhighest, ?_⟩
    rintro (hclean | hstopped)
    · cases hclean
    · cases hlistening.symm.trans hstopped
  · next hnotGreater =>
    have hhighest : AtLeast monitor.seen key messageId := by
      rcases hremembers with hold | ⟨rfl, rfl⟩
      · exact hold.highest (.inl hlistening)
      · cases hfound : monitor.seen.getItem place with
        | none =>
          rw [hfound] at hnotGreater
          exact absurd hpositive hnotGreater
        | some number =>
          rw [hfound] at hnotGreater
          exact ⟨number, hfound, not_lt.mp hnotGreater⟩
    refine ⟨hpositive, fun _ => hknown, fun _ => hhighest, ?_⟩
    rintro (hclean | hstopped)
    · rwa [hsound.saved hlistening hclean]
    · cases hlistening.symm.trans hstopped

theorem accountOf_seenKey (hcolon : ':' ∉ accountName.toList) :
    accountOf (seenKey accountName chatId) = accountName := by
  have hchars : ∀ c ∈ accountName.toList, decide (c ≠ ':') = true := fun c hc =>
    decide_eq_true fun heq => hcolon (heq ▸ hc)
  unfold accountOf seenKey
  rw [String.toList_append, String.toList_append, List.append_assoc,
    List.takeWhile_append_of_pos hchars]
  simp

theorem not_stale {accounts : List String} (hcolon : ':' ∉ accountName.toList)
    (hactive : (accounts.map pyStrip).contains accountName = true) :
    stale monitor accounts (seenKey accountName chatId) = false := by
  rw [stale, accountOf_seenKey hcolon, hactive]
  exact Bool.and_false _

theorem atLeast_filter {numbers : Dict String ℤ} {accounts : List String}
    (hkept : stale monitor accounts key = false) :
    AtLeast (numbers.filter fun item => !stale monitor accounts item.1) key messageId ↔
      AtLeast numbers key messageId := by
  rw [AtLeast, Dict.getItem_filter_key (fun key => !stale monitor accounts key), hkept]
  rfl

theorem Remembers.prune {accounts : List String} (hkept : stale monitor accounts key = false)
    (hremembers : Remembers key messageId monitor) :
    Remembers key messageId (prune monitor accounts) where
  positive := hremembers.positive
  known hlistening := by
    rw [windowAt_prune, hkept]
    exact (hremembers.known hlistening).imp_left (atLeast_filter hkept).mpr
  highest hsome := by
    refine (atLeast_filter hkept).mpr (hremembers.highest ?_)
    rcases hsome with hlistening | hdirty | hseen
    · exact .inl hlistening
    · rcases Bool.or_eq_true_iff.mp hdirty with hdirty | hany
      · exact .inr (.inl hdirty)
      · obtain ⟨item, hmem, -⟩ := List.any_eq_true.mp hany
        exact .inr (.inr (List.ne_nil_of_mem hmem))
    · exact .inr (.inr fun hnil => hseen (by rw [SeenMessages.prune, hnil]; rfl))
  saved hsome :=
    hremembers.saved (hsome.imp_left fun hclean => (Bool.or_eq_false_iff.mp hclean).1)

theorem clean_of_force (now : ℚ) : (maybePersist monitor true now).dirty = false := by
  unfold maybePersist
  split
  · assumption
  · rw [if_neg fun hboth => Bool.noConfusion hboth.1]
    rfl

theorem Remembers.step {event : Event} (hcolon : ':' ∉ accountName.toList) (hsound : Sound monitor)
    (hremembers : Remembers (seenKey accountName chatId) messageId monitor)
    (hkept : forgets accountName chatId messageId monitor event = false)
    (hstep : SeenMessages.step monitor event = some next) :
    Remembers (seenKey accountName chatId) messageId next := by
  cases event with
  | deliver account chat number now =>
    obtain ⟨hlistening, hnext⟩ := Option.ite_none_right_eq_some.mp hstep
    cases hnext
    cases number with
    | none => exact hremembers
    | some number =>
      rcases isSeenMessage_cases monitor account chat number now with
        ⟨-, heq⟩ | ⟨hlater, hnew, heq⟩
      · rwa [heq]
      · rw [heq]
        refine Remembers.mark hsound hlistening hlater hnew (fun hplace => ?_) (.inl hremembers) now
        simp only [forgets] at hkept
        rw [heq, decide_eq_true hplace, hplace] at hkept
        exact hkept
  | prune accounts =>
    cases hstep
    exact hremembers.prune (not_stale hcolon ((Bool.not_eq_false' ..).mp hkept))
  | stop now =>
    cases hstep
    have hwritten := hremembers.maybePersist hsound true now
    refine ⟨hwritten.positive, nofun, ?_, fun _ => hwritten.saved (.inl (clean_of_force now))⟩
    rintro (hlistening | hsome)
    · cases hlistening
    · exact hwritten.highest (.inr hsome)
  | start now =>
    obtain ⟨hstopped, hnext⟩ := Option.ite_none_left_eq_some.mp hstep
    cases hnext
    have hsaved := hremembers.saved (.inr (Bool.eq_false_iff.mpr hstopped))
    exact ⟨hremembers.positive, fun _ => .inl hsaved, fun _ => hsaved, fun _ => hsaved⟩
  | exit =>
    obtain ⟨hstopped, hnext⟩ := Option.ite_none_left_eq_some.mp hstep
    cases hnext
    refine ⟨hremembers.positive, fun hlistening => absurd hlistening hstopped, ?_,
      fun _ => hremembers.saved (.inr (Bool.eq_false_iff.mpr hstopped))⟩
    rintro (hlistening | hdirty | hseen)
    · exact absurd hlistening hstopped
    · cases hdirty
    · exact absurd rfl hseen

theorem Remembers.seen (hremembers : Remembers (seenKey accountName chatId) messageId monitor)
    (hlistening : monitor.listening = true) (now : ℚ) :
    (isSeenMessage monitor accountName chatId (some messageId) now).2 = true := by
  rcases isSeenMessage_cases monitor accountName chatId messageId now with
    ⟨-, heq⟩ | ⟨hlater, hnew, -⟩
  · rw [heq]
  · rcases hremembers.known hlistening with ⟨number, hfound, hle⟩ | hmem
    · rw [hfound, Option.getD_some] at hlater
      exact absurd hle (not_le.mpr hlater)
    · exact absurd hmem hnew

theorem Remembers.run {last : Monitor} {events : List Event} (hcolon : ':' ∉ accountName.toList)
    (hsound : Sound monitor)
    (hremembers : Remembers (seenKey accountName chatId) messageId monitor)
    (hrun : StepRun SeenMessages.step
      (fun monitor event => forgets accountName chatId messageId monitor event = false)
      monitor events last) :
    Remembers (seenKey accountName chatId) messageId last := by
  induction hrun with
  | done monitor => exact hremembers
  | act hkept hstep _ ih => exact ih (hsound.step hstep) (hremembers.step hcolon hsound hkept hstep)

/-- Once a message was taken as new, it is seen at every later delivery, as long as its number is
not crowded out of the window of its chat and no reading of the rules finds its account without
one. -/
theorem seen_of_run {file : Option PyValue} {before events : List Event} {last : Monitor}
    {now : ℚ} (hcolon : ':' ∉ accountName.toList)
    (hbefore : StepRun step (fun _ _ => True) (started file) before monitor)
    (hnew : (isSeenMessage monitor accountName chatId (some messageId) now).2 = false)
    (hrun : StepRun step
      (fun monitor event => forgets accountName chatId messageId monitor event = false)
      monitor (.deliver accountName chatId (some messageId) now :: events) last)
    (hlistening : last.listening = true) (later : ℚ) :
    (isSeenMessage last accountName chatId (some messageId) later).2 = true := by
  have hsound : Sound monitor := hbefore.invariant Sound
    (fun _ _ _ hsound _ hstep => hsound.step hstep) (started_sound file)
  cases hrun with
  | act hkept hstep hrest =>
    obtain ⟨hopen, hnext⟩ := Option.ite_none_right_eq_some.mp hstep
    rcases isSeenMessage_cases monitor accountName chatId messageId now with
      ⟨-, heq⟩ | ⟨hlater, hfresh, heq⟩
    · rw [heq] at hnew
      cases hnew
    · rw [heq] at hnext
      obtain rfl := Option.some.inj hnext
      unfold forgets at hkept
      dsimp only at hkept
      rw [heq, decide_eq_true rfl] at hkept
      have hremembers := Remembers.mark hsound hopen hlater hfresh (fun _ => hkept)
        (.inr ⟨rfl, rfl⟩) now
      exact (hremembers.run hcolon (hsound.mark hfresh now) hrest).seen hlistening later

/-! ## Two runs -/

/-- A message, twice, and again after the monitor has started anew. -/
def deliveredAgain : List Event :=
  [.prune ["alice"], .deliver "alice" (.number (-100)) (some 9) 40, .stop 50, .exit,
    .prune [" alice "], .start 60]

def listeningMonitor : Monitor := stateAfter step (started none) [.start 0]

theorem seen_of_deliveredAgain : ∃ last, stateAfter step listeningMonitor
        (.deliver "alice" (.number (-100)) (some 5) 10 :: deliveredAgain) = last ∧
      (isSeenMessage last "alice" (.number (-100)) (some 5) 70).2 = true := by
  have hbefore : StepRun step (fun _ _ => True) (started none) [.start 0] listeningMonitor :=
    stepRun_stateAfter (by decide +kernel)
  have hnew : (isSeenMessage listeningMonitor "alice" (.number (-100)) (some 5) 10).2 = false := by
    decide +kernel
  exact ⟨_, rfl, seen_of_run (by decide) hbefore hnew (stepRun_stateAfter (by decide +kernel))
    (by decide +kernel) 70⟩

/-- A reading of the rules finds none for the account, and later ones find it again. -/
def deliveredAfterPause : List Event :=
  [.deliver "alice" (.number (-100)) (some 5) 10, .prune [], .stop 20, .prune ["alice"], .stop 30,
    .start 30]

theorem new_after_pause :
    ¬ ∀ (file : Option PyValue) (before events : List Event) (monitor last : Monitor)
      (accountName : String) (chatId : ChatId) (messageId : ℤ) (now later : ℚ),
      StepRun step (fun _ _ => True) (started file) before monitor →
      (isSeenMessage monitor accountName chatId (some messageId) now).2 = false →
      StepRun step (fun _ _ => True) monitor
        (.deliver accountName chatId (some messageId) now :: events) last →
      last.listening = true →
      (isSeenMessage last accountName chatId (some messageId) later).2 = true := by
  intro hall
  have hbefore : StepRun step (fun _ _ => True) (started none) [.start 0] listeningMonitor :=
    stepRun_stateAfter (by decide +kernel)
  have hnew : (isSeenMessage listeningMonitor "alice" (.number (-100)) (some 5) 10).2 = false := by
    decide +kernel
  have hseen := hall _ _ _ _ _ _ _ _ _ 40 hbefore hnew
    (stepRun_stateAfter (by decide +kernel) : StepRun step (fun _ _ => True) listeningMonitor
      deliveredAfterPause (stateAfter step listeningMonitor deliveredAfterPause))
    (by decide +kernel)
  exact absurd hseen (by decide +kernel)

end SignPulse.SeenMessages
