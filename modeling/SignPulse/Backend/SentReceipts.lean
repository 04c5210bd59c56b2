import SignPulse.Backend.AtMostOnce

/-!
# Sent receipts

A reconcile does not take a receipt back from `sent`.  The second transaction of a delivery
stores its outcome without a look at what is stored: a delivery that finishes late may take
back what an operator has confirmed.
-/

namespace SignPulse.NotificationOutbox

open Foundation

namespace System

variable {outbox : Outbox} {system : System} {key : Key}

/-- The steps of deliveries and of reconciles. -/
def IsDelivery : Action → Prop
  | .enqueue _ _ _ => False
  | _ => True

def Timely (key : Key) (system : System) : Action → Prop
  | .finish worker result _ => ∀ record, system.workerAt worker .sending = some record →
      record.key = key → system.stored key = some .sent →
        ∀ outcome ∈ result.outcome, outcome.1 = .sent
  | _ => True

def LeavesSent (outbox : Outbox) (key : Key) (system : System) (action : Action) : Prop :=
  ∀ next, system.act outbox action = some next → system.stored key = some .sent →
    next.stored key = some .sent

theorem stored_deliver (hsent : system.stored key = some .sent) (other : Key) (now : ℚ) :
    (system.deliver other now).stored key = some .sent := by
  unfold deliver
  split
  · exact hsent
  · exact hsent
  · next table hclaim =>
    obtain ⟨hpending, hafter⟩ := claim_spec hclaim
    have hkept := hafter key
    rw [if_neg] at hkept
    · exact hkept.trans hsent
    · rintro rfl
      -- a sent receipt is not claimed
      rw [stored, hpending] at hsent
      cases hsent

theorem stored_reconcile (hsent : system.stored key = some .sent) (other : Key)
    (confirmedNotDelivered confirmedDelivered : Bool) (now : ℚ) :
    (system.reconcile other confirmedNotDelivered confirmedDelivered now).stored key =
      some .sent := by
  unfold reconcile
  split
  · exact hsent
  · next table hreconcile =>
    have hkept := reconcile_spec hreconcile key
    unfold stored at hsent ⊢
    dsimp only
    rw [hkept]
    split
    · next hsame =>
      cases confirmedNotDelivered with
      | false => rfl
      | true =>
        obtain ⟨receipt, hreceipt, hstate⟩ := Option.map_eq_some_iff.mp hsent
        subst hsame
        rw [reconcileNotification, hreceipt] at hreconcile
        dsimp only at hreconcile
        split at hreconcile
        · cases hreconcile
        · split at hreconcile
          · cases hreconcile
          · next hother => exact absurd ⟨hstate, rfl⟩ hother
    · exact hsent

theorem leavesSent_iff_timely {action : Action} {next : System}
    (hsent : system.stored key = some .sent) (haction : IsDelivery action)
    (hact : system.act outbox action = some next) :
    Timely key system action ↔ next.stored key = some .sent := by
  cases action with
  | enqueue envelope channel now => cases haction
  | deliver other now =>
    cases hact
    exact iff_of_true trivial (stored_deliver hsent other now)
  | invoke worker =>
    obtain ⟨record, -, rfl⟩ := Option.map_eq_some_iff.mp hact
    exact iff_of_true trivial hsent
  | reconcile other confirmedNotDelivered confirmedDelivered now =>
    cases hact
    exact iff_of_true trivial
      (stored_reconcile hsent other confirmedNotDelivered confirmedDelivered now)
  | crash worker =>
    obtain ⟨record, -, rfl⟩ := Option.map_eq_some_iff.mp hact
    exact iff_of_true trivial hsent
  | finish worker result now =>
    obtain ⟨record, hworker, rfl⟩ := Option.map_eq_some_iff.mp hact
    have hafter : (system.finish worker record result now).stored key = some .sent ↔
        (record.key = key → ∀ outcome ∈ result.outcome, outcome.1 = .sent) := by
      simp only [finish]
      cases houtcome : result.outcome with
      | none => exact iff_of_true hsent fun _ _ hnone => by cases hnone
      | some outcome =>
        have hsettled := @settle_spec system.table record.key now outcome key
        unfold stored at hsent ⊢
        rw [hsettled]
        by_cases hsame : key = record.key
        · rw [if_pos hsame, hsent]
          constructor
          · intro hstored _ other hother
            cases hother
            exact Option.some.inj hstored
          · intro hall
            exact congrArg some (hall hsame.symm outcome rfl)
        · rw [if_neg hsame]
          exact iff_of_true hsent fun hother => absurd hother.symm hsame
    rw [hafter]
    constructor
    · exact fun htimely hsame => htimely record hworker hsame hsent
    · intro hall other hother hsame _
      obtain rfl := Option.some.inj (hworker.symm.trans hother)
      exact hall hsame

/-- In a run of deliveries and reconciles a sent receipt stays sent exactly as long as no
delivery of it finishes with another outcome. -/
theorem sent_stays_iff_timely {first last : System} {actions : List Action}
    (hsent : first.stored key = some .sent) :
    StepRun (act outbox) (fun state action => IsDelivery action ∧ Timely key state action)
        first actions last ↔
      StepRun (act outbox)
        (fun state action => IsDelivery action ∧ LeavesSent outbox key state action)
        first actions last := by
  have hsame : ∀ state action next, state.stored key = some .sent →
      act outbox state action = some next → IsDelivery action →
      (Timely key state action ↔ LeavesSent outbox key state action) := by
    intro state action next hstate hstep haction
    rw [leavesSent_iff_timely hstate haction hstep]
    constructor
    · intro hnext other hother _
      obtain rfl := Option.some.inj (hstep.symm.trans hother)
      exact hnext
    · intro hleaves
      exact hleaves next hstep hstate
  refine @StepRun.congr _ _ (act outbox) _ _ (fun state => state.stored key = some .sent)
    ?_ ?_ first last actions hsent
  · intro state action next hstate hstep
    exact and_congr_right fun haction => hsame state action next hstate hstep haction
  · intro state action next hstate hallowed hstep
    exact (leavesSent_iff_timely hstate hallowed.1 hstep).mp hallowed.2

/-- A delivery whose receipt an operator confirms while the sender is at work. -/
def confirmedMeanwhile : System :=
  after .create
    [.enqueue (someEnvelope "first") "bot" 0, .deliver ("first", "bot") 0, .invoke 0,
      .reconcile ("first", "bot") false true 1]

theorem finish_confirmedMeanwhile (result : SendResult) :
    act .create confirmedMeanwhile (.finish 0 result 2) =
      some (confirmedMeanwhile.finish 0 { key := ("first", "bot"), stage := .sending }
        result 2) := by
  have hworker : confirmedMeanwhile.workerAt 0 .sending =
      some { key := ("first", "bot"), stage := .sending } := by decide
  rw [act, hworker]
  rfl

theorem sent_stays_confirmed : StepRun (act .create)
      (fun state action =>
        IsDelivery action ∧ LeavesSent .create ("first", "bot") state action)
      confirmedMeanwhile [.finish 0 .returned 2]
      (confirmedMeanwhile.finish 0 { key := ("first", "bot"), stage := .sending } .returned 2) := by
  have hsent : confirmedMeanwhile.stored ("first", "bot") = some .sent := by decide
  apply (sent_stays_iff_timely hsent).mp
  refine .act ⟨trivial, ?_⟩ (finish_confirmedMeanwhile _) (.done _)
  intro record _ _ _ outcome houtcome
  cases houtcome
  rfl

/-- The sender fails after an operator has confirmed the delivery, and the receipt is failed
again. -/
theorem failed_after_sent : ∃ system, Run .create {}
        [.enqueue (someEnvelope "first") "bot" 0, .deliver ("first", "bot") 0, .invoke 0,
          .reconcile ("first", "bot") false true 1] system ∧
      system.stored ("first", "bot") = some .sent ∧
      ∃ last, StepRun (act .create) (fun _ action => IsDelivery action) system
          [.finish 0 (.raised .connectError) 2] last ∧
        last.stored ("first", "bot") = some .failed := by
  refine ⟨confirmedMeanwhile, run_after (by decide), by decide,
    confirmedMeanwhile.finish 0 { key := ("first", "bot"), stage := .sending }
      (.raised .connectError) 2, ?_, by decide⟩
  exact .act trivial (finish_confirmedMeanwhile _) (.done _)

end System

end SignPulse.NotificationOutbox
