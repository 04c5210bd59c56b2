import SignPulse.Backend.NotificationOutbox
import SignPulse.Foundation.Counting

/-!
# How often a notification is sent

Every invocation of a sender is paid for: by the first receipt, by a reconcile that
declares the message not delivered, or by the deletion of an old receipt.  A payment is
with the receipt while it is pending or not there, and with the worker from its claim to
the call of its sender.
-/

namespace SignPulse.NotificationOutbox

open Foundation

namespace Event

def isInvocation (key : Key) : Event → Bool
  | .invoked _ other _ => other == key
  | _ => false

/-- The message is declared not delivered. -/
def isReplay (key : Key) : Event → Bool
  | .reconciled other notDelivered => other == key && notDelivered
  | _ => false

def isExpiry (key : Key) : Event → Bool
  | .expired other => other == key
  | _ => false

end Event

def invocations (key : Key) (history : List Event) : ℕ :=
  history.countP (Event.isInvocation key)

/-- The invocations that are paid for. -/
def credit (key : Key) (history : List Event) : ℕ :=
  1 + history.countP (Event.isReplay key) + history.countP (Event.isExpiry key)

/-- A receipt that is pending, or may still be enqueued, holds one payment. -/
def payment : Option DeliveryState → ℕ
  | none | some .pending => 1
  | some _ => 0

def Worker.isReady (key : Key) (worker : Worker) : Bool :=
  worker.key == key && worker.stage == .claimed

def Worker.isBusy (key : Key) (worker : Worker) : Bool :=
  worker.key == key && worker.stage != .over

/-- Nobody has reconciled the receipt. -/
def Quiet (key : Key) (history : List Event) : Prop :=
  ∀ notDelivered, .reconciled key notDelivered ∉ history

/-- What is true before each event: an invocation is paid for, its worker has committed
the receipt as unknown, and the receipt is still unknown if nobody has reconciled it. -/
def SentOnce (before : List Event) : Event → Prop
  | .invoked worker key stored =>
    invocations key before < credit key before ∧ .claimed worker key (some .unknown) ∈ before ∧
      (Quiet key before → stored = some .unknown)
  | _ => True

namespace System

def ready (system : System) (key : Key) : ℕ :=
  system.workers.countP (Worker.isReady key)

def busy (system : System) (key : Key) : ℕ :=
  system.workers.countP (Worker.isBusy key)

/-- The account of one receipt. -/
structure Ledger (system : System) (key : Key) : Prop where
  owed : invocations key system.history + system.ready key + payment (system.stored key) ≤
    credit key system.history
  alone : Quiet key system.history → system.busy key ≤ 1
  unknown : Quiet key system.history → 0 < system.busy key → system.stored key = some .unknown

/-- What holds between any two actions. -/
structure Sound (system : System) : Prop where
  ledger : ∀ key, Ledger system key
  told : ∀ (worker : ℕ) (record : Worker), system.workers[worker]? = some record →
    record.stage = .claimed → .claimed worker record.key (some .unknown) ∈ system.history
  each : EachAfter SentOnce system.history

theorem sound_empty : Sound {} where
  ledger := fun _ =>
    { owed := le_rfl
      alone := fun _ => Nat.zero_le 1
      unknown := fun _ hbusy => absurd hbusy (lt_irrefl 0) }
  told := fun _ _ hrecord => by simp at hrecord
  each := eachAfter_nil SentOnce

end System

/-! ## What the transactions store -/

section Stored

variable {table after : Table} {key : Key} {now : ℚ}

theorem claim_spec (hclaim : claim table key now = .ok (none, after)) :
    (table.select key).map Receipt.state = some .pending ∧
      ∀ other, (after.select other).map Receipt.state =
        if other = key then some .unknown else (table.select other).map Receipt.state := by
  unfold claim at hclaim
  split at hclaim
  · cases hclaim
  · next receipt hreceipt =>
    split at hclaim
    · cases hclaim
    · next hpending =>
      obtain ⟨-, rfl⟩ := Prod.mk.inj (Except.ok.inj hclaim)
      constructor
      · rw [hreceipt]
        exact congrArg some (not_not.mp hpending)
      · intro other
        rw [KeyedTable.select_update]
        by_cases hsame : other = key
        · rw [if_pos hsame, if_pos hsame, hsame, hreceipt]
          rfl
        · rw [if_neg hsame, if_neg hsame]

theorem settle_spec (outcome : DeliveryState × String) (other : Key) :
    ((settle table key outcome now).select other).map Receipt.state =
      if other = key then ((table.select other).map Receipt.state).map fun _ => outcome.1
      else (table.select other).map Receipt.state := by
  rw [settle, KeyedTable.select_update]
  by_cases hsame : other = key
  · rw [if_pos hsame, if_pos hsame, Option.map_map, Option.map_map]
    rfl
  · rw [if_neg hsame, if_neg hsame]

theorem outcome_ne_pending {result : SendResult} {outcome : DeliveryState × String}
    (houtcome : result.outcome = some outcome) : outcome.1 ≠ .pending := by
  cases result with
  | returned =>
    cases houtcome
    decide
  | cancelled => cases houtcome
  | raised error =>
    cases houtcome
    cases error with
    | httpStatusError statusCode =>
      change (if statusCode < 500 then DeliveryState.failed else .unknown) ≠ .pending
      split
      · decide
      · decide
    | connectError => decide
    | connectTimeout => decide
    | poolTimeout => decide
    | other name =>
      change DeliveryState.unknown ≠ .pending
      decide

theorem reconcile_spec {confirmedNotDelivered confirmedDelivered : Bool}
    (hreconcile : reconcileNotification table key confirmedNotDelivered confirmedDelivered now =
      .ok after) (other : Key) :
    (after.select other).map Receipt.state =
      if other = key then some (if confirmedNotDelivered then .pending else .sent)
      else (table.select other).map Receipt.state := by
  unfold reconcileNotification at hreconcile
  split at hreconcile
  · cases hreconcile
  · split at hreconcile
    · cases hreconcile
    · next receipt hreceipt =>
      split at hreconcile
      · cases hreconcile
      · cases hreconcile
        rw [KeyedTable.select_update]
        by_cases hsame : other = key
        · rw [if_pos hsame, if_pos hsame, hsame, hreceipt]
          rfl
        · rw [if_neg hsame, if_neg hsame]

theorem enqueue_spec {outbox : Outbox} {envelope : NotificationEnvelope} {channel : String}
    {found : Option Receipt}
    (henqueue : outbox.enqueueNotification table envelope channel now = .ok (found, after))
    (other : Key) :
    (after.select other).map Receipt.state = (table.select other).map Receipt.state ∨
      ((table.select other).map Receipt.state ∈ [some .sent, some .failed] ∧
        after.select other = none) ∨
      (table.select other = none ∧ (after.select other).map Receipt.state = some .pending) := by
  unfold Outbox.enqueueNotification at henqueue
  split at henqueue
  · cases henqueue
  split at henqueue
  · cases henqueue
  split at henqueue
  · obtain ⟨-, rfl⟩ := Prod.mk.inj (Except.ok.inj henqueue)
    exact .inl rfl
  · next habsent =>
    dsimp only at henqueue
    split at henqueue
    · cases henqueue
    · obtain ⟨-, rfl⟩ := Prod.mk.inj (Except.ok.inj henqueue)
      rw [KeyedTable.select_insert]
      by_cases hnew : other = (envelope.notificationId, channel)
      · rw [if_pos hnew, hnew]
        exact .inr (.inr ⟨habsent, rfl⟩)
      · rw [if_neg hnew, KeyedTable.select_retain]
        cases hreceipt : table.select other with
        | none => exact .inl rfl
        | some receipt =>
          by_cases hexpired : outbox.isExpired now receipt = true
          · refine .inr (.inl ⟨?_, by simp [hexpired]⟩)
            have hstate := ((Bool.and_eq_true _ _).mp hexpired).1
            simpa using hstate
          · exact .inl (by simp [hexpired])

end Stored

/-! ## Counting -/

section Counting

variable {history : List Event} {key : Key}

@[simp]
theorem invocations_concat (event : Event) : invocations key (history ++ [event]) =
      invocations key history + (event.isInvocation key).toNat :=
  countP_concat history event

@[simp]
theorem credit_concat (event : Event) : credit key (history ++ [event]) =
      credit key history + (event.isReplay key).toNat + (event.isExpiry key).toNat := by
  simp only [credit, countP_concat]
  omega

@[simp]
theorem invocations_expired (keys : List Key) :
    invocations key (history ++ keys.map .expired) = invocations key history := by
  simp [invocations, List.countP_map, Function.comp_def, Event.isInvocation]

@[simp]
theorem credit_expired (keys : List Key) :
    credit key (history ++ keys.map .expired) = credit key history + keys.count key := by
  simp [credit, List.countP_map, Function.comp_def, Event.isReplay, Event.isExpiry, List.count,
    Nat.add_assoc]

end Counting

/-! ## What each action keeps -/

namespace System

variable {system : System} {key : Key}

theorem Ledger.frame {after : System} (hledger : Ledger system key)
    (hinvocations : invocations key after.history = invocations key system.history)
    (hcredit : credit key after.history = credit key system.history)
    (hready : after.ready key = system.ready key)
    (hbusy : after.busy key = system.busy key)
    (hstored : after.stored key = system.stored key)
    (hquiet : Quiet key after.history → Quiet key system.history) : Ledger after key where
  owed := by
    rw [hinvocations, hcredit, hready, hstored]
    exact hledger.owed
  alone := by
    intro hafter
    rw [hbusy]
    exact hledger.alone (hquiet hafter)
  unknown := by
    intro hafter
    rw [hbusy, hstored]
    exact hledger.unknown (hquiet hafter)

section

variable {worker : ℕ} {record : Worker} (hrecord : system.workers[worker]? = some record)

include hrecord

theorem ready_pos (hstage : record.stage = .claimed) : 0 < system.ready record.key := by
  apply List.countP_pos_iff.mpr
  exact ⟨record, List.mem_of_getElem? hrecord, by simp [Worker.isReady, hstage]⟩

theorem busy_pos (hstage : record.stage ≠ .over) : 0 < system.busy record.key := by
  apply List.countP_pos_iff.mpr
  exact ⟨record, List.mem_of_getElem? hrecord, by simp [Worker.isBusy, hstage]⟩

end

theorem quiet_of_append {history events : List Event} (hquiet : Quiet key (history ++ events)) :
    Quiet key history := by
  intro notDelivered hmem
  exact hquiet notDelivered (List.mem_append_left _ hmem)

theorem Sound.told_append (hsound : Sound system) (events : List Event) (worker : ℕ)
    (record : Worker) (hrecord : system.workers[worker]? = some record)
    (hstage : record.stage = .claimed) :
    .claimed worker record.key (some .unknown) ∈ system.history ++ events :=
  List.mem_append_left _ (hsound.told worker record hrecord hstage)

theorem Sound.deliver (hsound : Sound system) (key : Key) (now : ℚ) :
    Sound (system.deliver key now) := by
  unfold System.deliver
  split
  · exact hsound
  · exact hsound
  · next table hclaim =>
    obtain ⟨hpending, hafter⟩ := claim_spec hclaim
    have hunknown : (table.select key).map Receipt.state = some .unknown := by
      rw [hafter, if_pos rfl]
    rw [hunknown]
    refine ⟨?_, ?_, ?_⟩
    · intro other
      have hledger := hsound.ledger other
      by_cases hsame : other = key
      · subst hsame
        have hbefore : system.stored other = some .pending := hpending
        have hidle : Quiet other system.history → system.busy other = 0 := by
          intro hquiet
          by_contra hbusy
          have hstored := hledger.unknown hquiet (Nat.pos_of_ne_zero hbusy)
          rw [hbefore] at hstored
          cases hstored
        refine ⟨?_, ?_, ?_⟩
        · -- the payment goes from the receipt to the worker
          have howed := hledger.owed
          rw [hbefore] at howed
          simp only [invocations_concat, credit_concat, ready, countP_concat, stored, hunknown]
          simp only [ready, payment] at howed
          simp [Event.isInvocation, Event.isReplay, Event.isExpiry, Worker.isReady, payment]
          omega
        · intro hquiet
          have hzero := hidle (quiet_of_append hquiet)
          rw [busy] at hzero ⊢
          rw [countP_concat, hzero, Nat.zero_add]
          exact Bool.toNat_le _
        · intro _ _
          exact hunknown
      · apply hledger.frame
        · simp [Event.isInvocation]
        · simp [Event.isReplay, Event.isExpiry]
        · simp [ready, Worker.isReady, Ne.symm hsame]
        · simp [busy, Worker.isBusy, Ne.symm hsame]
        · simp [stored, hafter, hsame]
        · exact quiet_of_append
    · intro worker record hrecord hstage
      by_cases hold : worker < system.workers.length
      · rw [List.getElem?_append_left hold] at hrecord
        exact hsound.told_append _ worker record hrecord hstage
      · have hworker : worker = system.workers.length := by
          have hlt := (List.getElem?_eq_some_iff.mp hrecord).1
          simp only [List.length_append, List.length_singleton] at hlt
          omega
        subst hworker
        obtain rfl : { key } = record := by simpa using hrecord
        exact List.mem_append_right _ (List.mem_singleton.mpr rfl)
    · exact hsound.each.concat trivial

theorem Sound.reconcile (hsound : Sound system) (key : Key)
    (confirmedNotDelivered confirmedDelivered : Bool) (now : ℚ) :
    Sound (system.reconcile key confirmedNotDelivered confirmedDelivered now) := by
  unfold System.reconcile
  split
  · exact hsound
  · next table hreconcile =>
    have hafter := reconcile_spec hreconcile
    refine ⟨?_, hsound.told_append _, hsound.each.concat trivial⟩
    intro other
    have hledger := hsound.ledger other
    by_cases hsame : other = key
    · subst hsame
      have hreconciled : ¬Quiet other
          (system.history ++ [.reconciled other confirmedNotDelivered]) := by
        intro hquiet
        exact hquiet confirmedNotDelivered (by simp)
      refine ⟨?_, fun hquiet => absurd hquiet hreconciled, fun hquiet => absurd hquiet hreconciled⟩
      -- a receipt that is pending again is paid for by the reconcile
      have howed := hledger.owed
      have hpaid : payment (some (if confirmedNotDelivered then .pending else .sent)) =
          confirmedNotDelivered.toNat := by
        cases confirmedNotDelivered with
        | true => rfl
        | false => rfl
      simp only [invocations_concat, credit_concat, stored, hafter, if_true, hpaid]
      simp [Event.isInvocation, Event.isReplay, Event.isExpiry, ready] at howed ⊢
      omega
    · apply hledger.frame
      · simp [Event.isInvocation]
      · simp [Event.isReplay, Event.isExpiry, Ne.symm hsame]
      · rfl
      · rfl
      · simp [stored, hafter, hsame]
      · exact quiet_of_append

theorem count_deleted {before after : Table} (hdeleted : key ∈ deleted before after) :
    (deleted before after).count key = 1 :=
  List.count_eq_one_of_mem (before.nodup.filter _) hdeleted

theorem Sound.enqueue (hsound : Sound system) (outbox : Outbox)
    (envelope : NotificationEnvelope) (channel : String) (now : ℚ) :
    Sound (system.enqueue outbox envelope channel now) := by
  unfold System.enqueue
  split
  · exact hsound
  · next found table henqueue =>
    have hquiet' : ∀ {key : Key}, Quiet key (system.history ++
        (deleted system.table table).map .expired) → Quiet key system.history :=
      quiet_of_append
    refine ⟨?_, hsound.told_append _, ?_⟩
    · intro key
      have hledger := hsound.ledger key
      have howed := hledger.owed
      rcases enqueue_spec henqueue key with hkept | ⟨hold, hgone⟩ | ⟨habsent, hnew⟩
      · refine ⟨?_, ?_, ?_⟩
        · simp only [invocations_expired, credit_expired, stored, hkept]
          exact Nat.le_add_right_of_le howed
        · intro hquiet
          exact hledger.alone (hquiet' hquiet)
        · intro hquiet hbusy
          rw [stored, hkept]
          exact hledger.unknown (hquiet' hquiet) hbusy
      · -- the receipt that is deleted may come again, which the deletion pays for
        have hdeleted : key ∈ deleted system.table table := by
          apply List.mem_filter.mpr
          refine ⟨?_, by rw [hgone]; rfl⟩
          cases hreceipt : system.table.select key with
          | none => simp [hreceipt] at hold
          | some receipt => exact Dict.mem_keyList_of_getItem hreceipt
        refine ⟨?_, ?_, ?_⟩
        · simp only [invocations_expired, credit_expired, count_deleted hdeleted, stored, hgone]
          simp only [ready, payment, Option.map_none] at howed ⊢
          omega
        · intro hquiet
          exact hledger.alone (hquiet' hquiet)
        · intro hquiet hbusy
          have hstored := hledger.unknown (hquiet' hquiet) hbusy
          rw [stored] at hstored
          simp [hstored] at hold
      · refine ⟨?_, ?_, ?_⟩
        · simp only [invocations_expired, credit_expired, stored, hnew]
          simp only [stored, habsent] at howed
          exact Nat.le_add_right_of_le howed
        · intro hquiet
          exact hledger.alone (hquiet' hquiet)
        · intro hquiet hbusy
          have hstored := hledger.unknown (hquiet' hquiet) hbusy
          simp [stored, habsent] at hstored
    · apply hsound.each.append
      intro event hevent before
      obtain ⟨key, -, rfl⟩ := List.mem_map.mp hevent
      trivial

theorem Sound.told_setStage (hsound : Sound system) {worker : ℕ} {record : Worker}
    {stage : Stage} (hrecord : system.workers[worker]? = some record)
    (hstage : stage ≠ .claimed) (other : ℕ) (found : Worker)
    (hfound : (system.workers.set worker { record with stage })[other]? = some found)
    (hclaimed : found.stage = .claimed) :
    .claimed other found.key (some .unknown) ∈ system.history := by
  by_cases hsame : worker = other
  · subst hsame
    have hlt := (List.getElem?_eq_some_iff.mp hrecord).1
    rw [List.getElem?_set_self hlt] at hfound
    cases hfound
    exact absurd hclaimed hstage
  · rw [List.getElem?_set_ne hsame] at hfound
    exact hsound.told other found hfound hclaimed

section Moving

variable {worker : ℕ} {record : Worker}

/-- A worker that moves on leaves the accounts of other receipts as they are. -/
theorem ready_setStage (hrecord : system.workers[worker]? = some record) (stage : Stage)
    (key : Key) :
    (system.setStage worker record stage).ready key + (record.isReady key).toNat =
      system.ready key + (Worker.isReady key { record with stage }).toNat :=
  countP_set_add hrecord { record with stage }

theorem busy_setStage (hrecord : system.workers[worker]? = some record) (stage : Stage)
    (key : Key) :
    (system.setStage worker record stage).busy key + (record.isBusy key).toNat =
      system.busy key + (Worker.isBusy key { record with stage }).toNat :=
  countP_set_add hrecord { record with stage }

/-- The account of a receipt after one of its workers, or another's, has gone on without
taking more than it gives. -/
theorem Ledger.setStage (hledger : Ledger system key)
    (hrecord : system.workers[worker]? = some record) {stage : Stage}
    (hstage : stage ≠ .claimed) (hbusy : stage = .over ∨ record.stage ≠ .over) :
    Ledger (system.setStage worker record stage) key := by
  have hready := ready_setStage hrecord stage key
  have hbusies := busy_setStage hrecord stage key
  have hnot : Worker.isReady key { record with stage } = false := by
    simp [Worker.isReady, hstage]
  have hless : (Worker.isBusy key { record with stage }).toNat ≤ (record.isBusy key).toNat := by
    rcases hbusy with rfl | hopen
    · simp [Worker.isBusy]
    · have hsame : record.isBusy key = (record.key == key) := by
        simp [Worker.isBusy, hopen]
      rw [hsame, Worker.isBusy]
      cases record.key == key with
      | true => exact Bool.toNat_le _
      | false => exact le_rfl
  rw [hnot, Bool.toNat_false] at hready
  refine ⟨?_, ?_, ?_⟩
  · have howed := hledger.owed
    change invocations key system.history + _ + payment (system.stored key) ≤ _
    change _ ≤ credit key system.history
    omega
  · intro hquiet
    have hone := hledger.alone hquiet
    omega
  · intro hquiet hpos
    apply hledger.unknown hquiet
    omega

end Moving

variable {worker : ℕ} {record : Worker}

section

variable (hsound : Sound system) (hrecord : system.workers[worker]? = some record)

include hsound hrecord

theorem Sound.invoke (hstage : record.stage = .claimed) : Sound (system.invoke worker record) := by
  have hopen : record.stage ≠ .over := by
    rw [hstage]
    decide
  have hready : 0 < system.ready record.key := ready_pos hrecord hstage
  have hbusy : 0 < system.busy record.key := busy_pos hrecord hopen
  have hmoved := ready_setStage hrecord .sending
  refine ⟨?_, ?_, ?_⟩
  · intro key
    have hset : Ledger (system.setStage worker record .sending) key :=
      (hsound.ledger key).setStage hrecord (by decide) (.inr hopen)
    by_cases hsame : key = record.key
    · subst hsame
      refine ⟨?_, fun hquiet => hset.alone (quiet_of_append hquiet),
        fun hquiet => hset.unknown (quiet_of_append hquiet)⟩
      -- the payment goes from the worker to the invocation
      have howed := (hsound.ledger record.key).owed
      have hspent := hmoved record.key
      simp only [Worker.isReady, hstage, beq_self_eq_true, Bool.and_self, Bool.toNat_true] at hspent
      have hzero : ((Stage.sending == Stage.claimed)).toNat = 0 := rfl
      simp only [Bool.true_and, hzero] at hspent
      change invocations record.key (system.history ++ [_]) +
        (system.setStage worker record .sending).ready record.key +
          payment (system.stored record.key) ≤ credit record.key (system.history ++ [_])
      rw [invocations_concat, credit_concat]
      simp only [Event.isInvocation, Event.isReplay, Event.isExpiry, beq_self_eq_true,
        Bool.toNat_true, Bool.toNat_false]
      omega
    · apply hset.frame
      · change invocations key (system.history ++ [_]) = invocations key system.history
        simp [Event.isInvocation, Ne.symm hsame]
      · change credit key (system.history ++ [_]) = credit key system.history
        simp [Event.isReplay, Event.isExpiry]
      · rfl
      · rfl
      · rfl
      · exact quiet_of_append
  · intro other found hfound hclaimed
    apply List.mem_append_left
    exact hsound.told_setStage hrecord (by decide) other found hfound hclaimed
  · apply hsound.each.concat
    have howed := (hsound.ledger record.key).owed
    refine ⟨by omega, hsound.told worker record hrecord hstage, ?_⟩
    intro hquiet
    exact (hsound.ledger record.key).unknown hquiet hbusy

theorem Sound.over : Sound (system.setStage worker record .over) where
  ledger := fun key => (hsound.ledger key).setStage hrecord (by decide) (.inl rfl)
  told := hsound.told_setStage hrecord (by decide)
  each := hsound.each

theorem Sound.finish (hstage : record.stage = .sending) (result : SendResult) (now : ℚ) :
    Sound (system.finish worker record result now) := by
  have hover := hsound.over hrecord
  simp only [System.finish]
  split
  · next outcome houtcome =>
    have hopen : record.stage ≠ .over := by
      rw [hstage]
      decide
    refine ⟨?_, hover.told, hover.each⟩
    intro key
    have hledger := hover.ledger key
    have hafter : ∀ key,
        System.stored { system.setStage worker record .over with
          table := settle system.table record.key outcome now } key =
        if key = record.key then (system.stored key).map fun _ => outcome.1
        else system.stored key := settle_spec outcome
    by_cases hsame : key = record.key
    · subst hsame
      refine ⟨?_, hledger.alone, ?_⟩
      · have howed := hledger.owed
        have hless : payment ((system.stored record.key).map fun _ => outcome.1) ≤
            payment (system.stored record.key) := by
          cases hstored : system.stored record.key with
          | none => exact le_rfl
          | some state =>
            have hnot := outcome_ne_pending houtcome
            have hzero : payment (some outcome.1) = 0 := by
              unfold payment
              split
              · next hnone => cases hnone
              · next hpending => exact absurd (Option.some.inj hpending) hnot
              · rfl
            rw [Option.map_some, hzero]
            exact Nat.zero_le _
        rw [hafter, if_pos rfl]
        exact le_trans (Nat.add_le_add_left hless _) howed
      · -- the only worker of a receipt that nobody has reconciled is over
        intro hquiet hpos
        have hone := (hsound.ledger record.key).alone hquiet
        have hmoved := busy_setStage hrecord .over record.key
        have hcounted : (record.isBusy record.key).toNat = 1 := by
          simp [Worker.isBusy, hopen]
        have hgone : (Worker.isBusy record.key { record with stage := .over }).toNat = 0 := by
          simp [Worker.isBusy]
        change 0 < (system.setStage worker record .over).busy record.key at hpos
        omega
    · apply hledger.frame
      · rfl
      · rfl
      · rfl
      · rfl
      · rw [hafter, if_neg hsame]
        rfl
      · exact id
  · exact hover

end

theorem workerAt_eq_some {stage : Stage} (hworker : system.workerAt worker stage = some record) :
    system.workers[worker]? = some record ∧ record.stage = stage := by
  simpa [workerAt, Option.filter_eq_some_iff] using hworker

theorem Sound.act (hsound : Sound system) {outbox : Outbox} {action : Action} {next : System}
    (hact : system.act outbox action = some next) : Sound next := by
  cases action with
  | enqueue envelope channel now =>
    cases hact
    exact hsound.enqueue outbox envelope channel now
  | deliver key now =>
    cases hact
    exact hsound.deliver key now
  | invoke worker =>
    obtain ⟨record, hworker, rfl⟩ := Option.map_eq_some_iff.mp hact
    obtain ⟨hrecord, hstage⟩ := workerAt_eq_some hworker
    exact hsound.invoke hrecord hstage
  | finish worker result now =>
    obtain ⟨record, hworker, rfl⟩ := Option.map_eq_some_iff.mp hact
    obtain ⟨hrecord, hstage⟩ := workerAt_eq_some hworker
    exact hsound.finish hrecord hstage result now
  | reconcile key confirmedNotDelivered confirmedDelivered now =>
    cases hact
    exact hsound.reconcile key confirmedNotDelivered confirmedDelivered now
  | crash worker =>
    obtain ⟨record, hrecord, rfl⟩ := Option.map_eq_some_iff.mp hact
    exact hsound.over hrecord

theorem Run.sound {outbox : Outbox} {actions : List Action} {first last : System}
    (hrun : Run outbox first actions last) (hfirst : Sound first) : Sound last :=
  StepRun.invariant hrun Sound (fun _ _ _ hsound _ hact => hsound.act hact) hfirst

/-- Whatever the workers do, each invocation of a sender is paid for when it is made, and
its worker has committed the receipt as unknown before. -/
theorem sentOnce_of_run {outbox : Outbox} {actions : List Action} {system : System}
    (hrun : Run outbox {} actions system) :
    EachAfter SentOnce system.history ∧
      ∀ key, invocations key system.history ≤ credit key system.history := by
  have hsound : Sound system := hrun.sound sound_empty
  refine ⟨hsound.each, ?_⟩
  intro key
  have howed := (hsound.ledger key).owed
  omega

/-! ## Without the deletions -/

/-- The state after the actions, if all of them are possible. -/
def after (outbox : Outbox) (actions : List Action) : System :=
  (replay (act outbox) (fun _ _ => true) {} actions).getD {}

theorem run_after {outbox : Outbox} {actions : List Action}
    (hpossible : (replay (act outbox) (fun _ _ => true) {} actions).isSome = true) :
    Run outbox {} actions (after outbox actions) := by
  obtain ⟨system, hsystem⟩ := Option.isSome_iff_exists.mp hpossible
  rw [after, hsystem]
  have hrun := stepRun_of_replay hsystem
  simpa using hrun

def someEnvelope (notificationId : String) : NotificationEnvelope where
  notificationId := notificationId
  eventType := "task_result"
  accountName := "account"
  taskName := "task"
  runId := "run"
  payloadHash := "hash"

/-- A notification is sent, its receipt is deleted when it is thirty days old, and the
notification is enqueued and sent again. -/
def expiredReceipt : List Action :=
  [.enqueue (someEnvelope "first") "bot" 0, .deliver ("first", "bot") 0, .invoke 0,
    .finish 0 .returned 1, .enqueue (someEnvelope "second") "bot" 2592002,
    .enqueue (someEnvelope "first") "bot" 2592003, .deliver ("first", "bot") 2592004,
    .invoke 1]

/-- A receipt is reconciled between the claim and the call of the sender. -/
def reconciledClaim : List Action :=
  [.enqueue (someEnvelope "first") "bot" 0, .deliver ("first", "bot") 0,
    .reconcile ("first", "bot") true false 1, .invoke 0]

theorem sentOnce_expiredReceipt : EachAfter SentOnce (after (.create) expiredReceipt).history ∧
      ∀ key, invocations key (after (.create) expiredReceipt).history ≤
        credit key (after (.create) expiredReceipt).history :=
  sentOnce_of_run (run_after (by decide +kernel))

/-- Reconciles alone do not pay for all invocations, and a receipt need not be unknown
any more when the sender is invoked. -/
theorem sent_again_after_expiry :
    (¬∀ (outbox : Outbox) (actions : List Action) (system : System),
      Run outbox {} actions system → ∀ key, invocations key system.history ≤
          1 + system.history.countP (Event.isReplay key)) ∧
    ¬∀ (outbox : Outbox) (actions : List Action) (system : System),
      Run outbox {} actions system → ∀ worker key stored,
        .invoked worker key stored ∈ system.history → stored = some .unknown := by
  constructor
  · intro hall
    have hcount := hall .create expiredReceipt _ (run_after (by decide +kernel)) ("first", "bot")
    revert hcount
    decide +kernel
  · intro hall
    have hstored := hall .create reconciledClaim _ (run_after (by decide +kernel)) 0
      ("first", "bot") (some .pending) (by decide +kernel)
    cases hstored

/-! ## One worker at a time -/

/-- As long as nobody reconciles a receipt, at most one worker is at work on it, and meanwhile it
is stored as unknown. -/
theorem alone_of_run {outbox : Outbox} {actions : List Action} {system : System} {key : Key}
    (hrun : Run outbox {} actions system) (hquiet : Quiet key system.history) :
    system.busy key ≤ 1 ∧ (0 < system.busy key → system.stored key = some .unknown) :=
  have hledger := (hrun.sound sound_empty).ledger key
  ⟨hledger.alone hquiet, hledger.unknown hquiet⟩

theorem alone_expiredReceipt :
    (after .create (expiredReceipt.take 3)).busy ("first", "bot") ≤ 1 ∧
      (0 < (after .create (expiredReceipt.take 3)).busy ("first", "bot") →
        (after .create (expiredReceipt.take 3)).stored ("first", "bot") = some .unknown) :=
  alone_of_run (run_after (by decide +kernel)) (by unfold Quiet; decide +kernel)

end System

end SignPulse.NotificationOutbox
