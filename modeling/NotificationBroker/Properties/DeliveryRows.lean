import NotificationBroker.System.Verified

/-!
# The columns of a delivery agree with each other

Five writers set different columns of a delivery's row: the fan-out inserts it, a
worker claims it and finalizes it, a retry queues it again, and a user marks it
as read. `Delivery.Consistent` is what they keep together. Each of the five steps
preserves it (`Delivery.Step.consistent`), and so it holds of every row in every
state of every run.

The attempts are the one place where a bound is needed before it is used: a row
that is not settled has an attempt left, and it keeps it through claims and
retries, which do not look at the counter.
-/

namespace NotificationBroker

open Interleave Python
open DeliveryWorker (recordOutcome finalStatus)

namespace Delivery

/-- All four columns of a claim are set. -/
def Leased (d : Delivery) : Prop :=
  d.claimToken.isSome ∧ d.claimedBy.isSome ∧ d.leaseExpiresAt.isSome ∧ d.processingStartedAt.isSome

/-- None of them is. -/
def Unleased (d : Delivery) : Prop :=
  d.claimToken = none ∧ d.claimedBy = none ∧ d.leaseExpiresAt = none ∧ d.processingStartedAt = none

instance (d : Delivery) : Decidable d.Leased := by unfold Leased; infer_instance

instance (d : Delivery) : Decidable d.Unleased := by unfold Unleased; infer_instance

/-- What every row satisfies. -/
structure Consistent (d : Delivery) : Prop where
  leased : d.status = .processing → d.Leased
  unleased : d.status ≠ .processing → d.Unleased
  delivered : d.status = .delivered ↔ d.deliveredAt.isSome
  read : d.readAt.isSome → d.channel = Channel.web.value ∧ d.status = .delivered
  max_pos : 0 < d.maxAttempts
  attempts_le : d.attemptCount ≤ d.maxAttempts
  attempts_lt : ¬ d.Settled → d.attemptCount < d.maxAttempts

variable {d d' : Delivery}

theorem Initial.consistent (h : d.Initial) : d.Consistent := by
  obtain ⟨notificationId, userId, recipientId, channel, nextAttemptAt, h_row⟩ := h
  rw [h_row]
  constructor <;> simp [NotificationFanoutService.deliveryValues, Unleased]

/-- A row that is not delivered has not been read. -/
theorem Consistent.unread (h : d.Consistent) (h_status : d.status ≠ .delivered) :
    d.readAt = none := by
  by_contra h_read
  exact h_status (h.read (Option.isSome_iff_ne_none.mpr h_read)).2

theorem Consistent.undelivered (h : d.Consistent) (h_status : d.status ≠ .delivered) :
    d.deliveredAt = none := by
  by_contra h_at
  exact h_status (h.delivered.mpr (Option.isSome_iff_ne_none.mpr h_at))

/-- A row that is in processing has an attempt left, whatever comes of it. -/
theorem Consistent.attemptBounds (h : d.Consistent) (h_status : d.status = .processing)
    (outcome : DeliveryOutcome) (now retryDelay : ℤ) :
    (recordOutcome outcome now retryDelay d).attemptBounds = true := by
  have h_lt := h.attempts_lt (by simp [Settled, h_status])
  have h_pos := h.max_pos
  unfold Delivery.attemptBounds DeliveryWorker.recordOutcome
  simp only [Bool.and_eq_true, decide_eq_true_eq]
  omega

/-- The status an outcome leads to is settled, or an attempt is left. -/
theorem finalStatus_cases (outcome : DeliveryOutcome) (attemptCount maxAttempts : ℕ) :
    finalStatus outcome attemptCount maxAttempts = .delivered ∨
      finalStatus outcome attemptCount maxAttempts = .failedTerminal ∨
      (finalStatus outcome attemptCount maxAttempts = .failedRetryable ∧
        attemptCount < maxAttempts) := by
  unfold finalStatus
  cases outcome.status with
  | delivered => exact .inl rfl
  | failedTerminal => exact .inr (.inl rfl)
  | failedRetryable =>
    by_cases h_max : maxAttempts ≤ attemptCount
    · exact .inr (.inl (if_pos h_max))
    · exact .inr (.inr ⟨if_neg h_max, Nat.lt_of_not_le h_max⟩)

theorem Consistent.recordOutcome (h : d.Consistent) (h_status : d.status = .processing)
    (outcome : DeliveryOutcome) (now retryDelay : ℤ) :
    (recordOutcome outcome now retryDelay d).Consistent := by
  have h_unread := h.unread (by simp [h_status])
  have h_undelivered := h.undelivered (by simp [h_status])
  have h_lt := h.attempts_lt (by simp [Settled, h_status])
  have h_final := finalStatus_cases outcome (d.attemptCount + 1) d.maxAttempts
  refine ⟨?_, ?_, ?_, ?_, h.max_pos, h_lt, ?_⟩
  all_goals
    simp only [DeliveryWorker.recordOutcome, Settled, Leased, Unleased]
    rcases h_final with h_final | h_final | ⟨h_final, h_left⟩ <;>
      simp [h_final, h_unread, h_undelivered]
  exact h_left

/-- **Every step keeps the columns together.** -/
theorem Step.consistent (h : d.Step d') (hd : d.Consistent) : d'.Consistent := by
  cases h with
  | keep => exact hd
  | claim now leaseExpiresAt workerId token channels h_due =>
    -- what is due was not delivered, so it has no time of delivery and no mark
    have h_open := not_settled_of_due h_due
    have h_status : d.status ≠ .delivered := fun h_eq => h_open (.inl h_eq)
    exact ⟨fun _ => ⟨rfl, rfl, rfl, rfl⟩, fun h_ne => absurd rfl h_ne,
      by simp [Delivery.claim, hd.undelivered h_status],
      by simp [Delivery.claim, hd.unread h_status], hd.max_pos, hd.attempts_le,
      fun _ => hd.attempts_lt h_open⟩
  | finalize claim outcome now retryDelay h_held =>
    exact hd.recordOutcome (heldBy_iff.mp h_held).2.1 outcome now retryDelay
  | replay replayId requestedAt h_failed =>
    have h_status : d.status ≠ .delivered := by simp [h_failed]
    exact ⟨by simp [requestReplay], fun _ => ⟨rfl, rfl, rfl, rfl⟩,
      by simp [requestReplay, hd.undelivered h_status],
      by simp [requestReplay, hd.unread h_status], hd.max_pos, hd.attempts_le,
      fun _ => hd.attempts_lt (by simp [Settled, h_failed])⟩
  | markRead readAt h_delivered h_web =>
    exact ⟨hd.leased, hd.unleased, hd.delivered, fun _ => ⟨h_web, h_delivered⟩, hd.max_pos,
      hd.attempts_le, hd.attempts_lt⟩

end Delivery

variable {d : Deployment} {clock : Instant} {directory : Directory} {ls : Schedule} {c : State}

/-- The invariant of runs: every row, committed or not, is consistent. -/
theorem Deployment.Run.deliveries_consistent (h : d.Run clock directory ls c) :
    ∀ r ∈ c.world.deliveries.rows, r.Consistent := by
  refine h.always (P := fun w => ∀ r ∈ w.deliveries.rows, r.Consistent) (by simp [World.initial,
    ReadCommitted.Table.rows, ReadCommitted.Table.empty]) fun w w' hS hP hM r' hr' => ?_
  rcases hM.delivery_origin hS hr' with ⟨r, hr, h_step⟩ | h_initial
  · exact h_step.consistent (hP r hr)
  · exact h_initial.consistent

/-- **Every delivery's row is well formed in every state of every run**, and no
finalization of it can violate the bounds on its attempts. -/
theorem deliveryRows_wellFormed (h : d.Run clock directory ls c) :
    ∀ r ∈ c.world.deliveries.rows,
      (r.status = .processing ↔ r.Leased) ∧ (r.status ≠ .processing → r.Unleased) ∧
      (r.status = .delivered ↔ r.deliveredAt.isSome) ∧
      (r.readAt.isSome → r.channel = Channel.web.value ∧ r.status = .delivered) ∧
      r.attemptCount ≤ r.maxAttempts ∧
      (r.status = .pending ∨ r.status = .processing ∨ r.status = .replayRequested ∨
        r.status = .failedRetryable → r.attemptCount < r.maxAttempts) ∧
      (∃ recipient ∈ c.world.recipients.rows, recipient.id = r.notificationRecipientId ∧
        recipient.notificationId = r.notificationId ∧ recipient.userId = r.userId) ∧
      r.attemptBounds ∧
      (r.status = .processing → ∀ outcome now retryDelay,
        (recordOutcome outcome now retryDelay r).attemptBounds) := by
  intro r hr
  have h_row := h.deliveries_consistent r hr
  obtain ⟨recipient, h_mem, h_belongs⟩ := h.sound.grounded.rows hr
  refine ⟨⟨h_row.leased, fun h_leased => ?_⟩, h_row.unleased, h_row.delivered, h_row.read,
    h_row.attempts_le, fun h_status => h_row.attempts_lt ?_,
    ⟨recipient, h_mem, h_belongs.recipient, h_belongs.notification, h_belongs.user⟩, ?_,
    fun h_status => h_row.attemptBounds h_status⟩
  · -- a row that is not being processed has no lease, so one with a lease is
    by_contra h_status
    have h_none := (h_row.unleased h_status).1
    rw [Delivery.Leased, h_none] at h_leased
    exact absurd h_leased.1 (by simp)
  · -- none of the four is settled
    rcases h_status with h | h | h | h <;> simp [Delivery.Settled, h]
  · simp [Delivery.attemptBounds, h_row.max_pos, h_row.attempts_le]

/-- A notification on both channels, a worker that is done with one of its
deliveries and sending the other, and a user who has read the first. -/
def readingDeployment : Deployment := .ofCalls id [
  .createNotification ⟨3600000000⟩ "orders" (.toAll [.web, .email] postInit_web_email) none,
  .consume {} "consumer" (.requested 50 10),
  .processDueDeliveries ⟨[.web, .email], none, "worker", 60000000, 30000000⟩ 10,
  .markRead 1 22]

def readingSchedule : Schedule := [
  .run 0 (.time (.ofInstant 0)), .run 0 .go, .run 0 (.fresh 10), .run 0 (.fresh 11),
  .run 1 .go, .run 1 (.time (.ofInstant 0)), .run 1 .go, .run 1 .go, .run 1 .go,
  .run 1 (.fresh 21), .run 1 .go, .run 1 .go, .run 1 (.fresh 22), .run 1 (.fresh 23), .run 1 .go,
  .run 1 .go,
  .run 2 (.time (.ofInstant 5)), .run 2 (.claim [] [31, 32]),
  .run 2 .go, .run 2 .go, .run 2 (.adapter (.ok ⟨.delivered, none, none, none⟩)),
  .run 2 (.fresh 33), .run 2 .go, .run 2 .go,
  .run 3 (.time (.ofInstant 9)), .run 3 .go, .run 3 .go]

theorem deliveryRows_reading :
    ∃ c, readingDeployment.Run 0 (.ofUsers [1] (by decide)) readingSchedule c ∧
      c.world.deliveries.committed.map Delivery.status = [.delivered, .processing] ∧
      c.world.deliveries.committed.map Delivery.readAt = [some 9, none] ∧
      ∀ r ∈ c.world.deliveries.rows, (r.status = .processing ↔ r.Leased) ∧
        (r.readAt.isSome → r.channel = Channel.web.value ∧ r.status = .delivered) ∧
        r.attemptCount ≤ r.maxAttempts := by
  obtain ⟨c, h_run, h_rows⟩ := readingDeployment.exists_run 0 (.ofUsers [1] (by decide))
    readingSchedule (fun c => decide (c.world.deliveries.committed.map Delivery.status =
        [.delivered, .processing] ∧
      c.world.deliveries.committed.map Delivery.readAt = [some 9, none])) (by decide +kernel)
  obtain ⟨h_status, h_read⟩ := of_decide_eq_true h_rows
  refine ⟨c, h_run, h_status, h_read, fun r hr => ?_⟩
  obtain ⟨h_leased, -, -, h_readAt, h_attempts, -⟩ := deliveryRows_wellFormed h_run r hr
  exact ⟨h_leased, h_readAt, h_attempts⟩

end NotificationBroker
