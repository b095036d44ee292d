import NotificationBroker.Properties.DeliveryRows
import NotificationBroker.Properties.OutboxHistory

/-!
# No unfinished row is stranded

Workers and publishers find their rows by a predicate that splits by status: a row
that waits is due from its `next_attempt_at` on, a row in hand once its lease has
expired. SQL finds no row through a comparison with `NULL`, so a row in hand
without a lease would never be found again, whatever happens to the process that
holds it.

No writer leaves one behind. For deliveries this is part of `Delivery.Consistent`;
for outbox events `OutboxEvent.Reclaimable` is the part that does not depend on
how many attempts the publishers make.
-/

namespace NotificationBroker

open Interleave Python
open ReadCommitted (Table)

/-! ### Deliveries -/

namespace Delivery

variable {d : Delivery}

/-- An unfinished row is due once its time has come and its lease, if it has one,
has expired, for every worker that takes its channel. -/
theorem Consistent.due (h : d.Consistent) (h_open : ¬ d.Settled) {now : Instant}
    {channels : Option (List Channel)} (h_time : d.nextAttemptAt ≤ now)
    (h_lease : ∀ lease, d.leaseExpiresAt = some lease → lease < now)
    (h_channel : ∀ admitted, channels = some admitted →
      ∃ channel ∈ admitted, channel.value = d.channel) :
    d.due now channels = true := by
  refine Bool.and_eq_true_iff.mpr ⟨?_, ?_⟩
  · -- in process its lease has expired, otherwise its time has come
    by_cases h_status : d.status = .processing
    · obtain ⟨lease, h_some⟩ := Option.isSome_iff_exists.mp (h.leased h_status).2.2.1
      simp [expiredProcessingLease, h_status, h_some, h_lease lease h_some]
    · have h_waits : d.status = .pending ∨ d.status = .replayRequested ∨
          d.status = .failedRetryable := by
        simp only [Settled, not_or] at h_open
        cases h_eq : d.status <;> simp_all
      simp [readyToProcess, h_time, or_assoc, h_waits]
  · cases channels with
    | none => rfl
    | some admitted =>
      obtain ⟨channel, h_mem, h_value⟩ := h_channel admitted rfl
      exact List.any_eq_true.mpr ⟨channel, h_mem, decide_eq_true h_value⟩

/-- The channel of a row is one of the enumeration. -/
def OnChannel (d : Delivery) : Prop := ∃ channel : Channel, channel.value = d.channel

theorem Initial.onChannel (h : d.Initial) : d.OnChannel := by
  obtain ⟨notificationId, userId, recipientId, channel, nextAttemptAt, h_row⟩ := h
  exact ⟨channel, by rw [h_row]; rfl⟩

theorem Follows.onChannel {d' : Delivery} (h : d.Follows d') (h_channel : d.OnChannel) :
    d'.OnChannel := by
  obtain ⟨channel, h_value⟩ := h_channel
  have h_key := h.key
  simp only [Delivery.key, Prod.mk.injEq] at h_key
  exact ⟨channel, h_value.trans h_key.2.2.2.2.symm⟩

end Delivery

/-! ### Outbox events -/

namespace OutboxEvent

variable {maxAttempts : ℕ} {e e' : OutboxEvent}

/-- A row as a creation or a retry inserts it. -/
inductive Inserted : OutboxEvent → Prop
  | requested (row : Notification) (now : Instant) (id : UUID) :
      Inserted (NotificationCreationService.notificationRequestedEvent row now id)
  | replayRequested (notificationId : UUID) (deliveryIds : List UUID) (replayId : UUID)
      (requestedAt : Instant) (id : UUID) :
      Inserted (RetryService.replayRequestedEvent notificationId deliveryIds replayId requestedAt
        id)

theorem Inserted.initial (h : e.Inserted) : e.Initial := by
  cases h <;> exact ⟨rfl, ⟨rfl, rfl, rfl⟩, rfl⟩

/-- A row in hand has a lease. -/
def Reclaimable (e : OutboxEvent) : Prop := e.status = .publishing → e.leaseExpiresAt.isSome

theorem Initial.reclaimable (h : e.Initial) : e.Reclaimable := fun h_status =>
  absurd (h.pending.symm.trans h_status) (by decide)

theorem Step.reclaimable (h : Step maxAttempts e e') (he : e.Reclaimable) : e'.Reclaimable := by
  cases h with
  | keep => exact he
  | claim => exact fun _ => rfl
  | publish => exact fun h_status => absurd h_status (by simp [markPublished])
  | fail =>
    intro h_status
    unfold markPublishFailed at h_status
    dsimp only at h_status
    split at h_status <;> exact absurd h_status (by simp)

/-- An unfinished event is due once its time has come and its lease, if it has
one, has expired. -/
theorem Reclaimable.publishable (h : e.Reclaimable) (h_open : ¬ e.Settled) {now : Instant}
    (h_time : e.nextAttemptAt ≤ now)
    (h_lease : ∀ lease, e.leaseExpiresAt = some lease → lease < now) :
    e.publishable now = true := by
  by_cases h_status : e.status = .publishing
  · obtain ⟨lease, h_some⟩ := Option.isSome_iff_exists.mp (h h_status)
    simp [OutboxEvent.publishable, h_status, h_some, h_lease lease h_some]
  · have h_waits : e.status = .pending ∨ e.status = .failedRetryable := by
      simp only [Settled, not_or] at h_open
      cases h_eq : e.status <;> simp_all
    simp [OutboxEvent.publishable, h_time, h_waits]

end OutboxEvent

section Moves

variable {d : Deployment} {p : Pid} {w w' : World}

/-- Every event follows from an earlier one in a step of some publisher, or is
inserted. -/
theorem WorldMove.outbox_origin (hS : Sound w) (h : WorldMove d w w') {e' : OutboxEvent}
    (he' : e' ∈ w'.outbox) :
    (∃ e ∈ w.outbox, ∃ maxAttempts, OutboxEvent.Step maxAttempts e e') ∨ e'.Inserted := by
  -- an event that was there is its own origin, by the step that keeps it
  have h_kept : e' ∈ w.outbox →
      (∃ e ∈ w.outbox, ∃ maxAttempts, OutboxEvent.Step maxAttempts e e') ∨ e'.Inserted :=
    fun h_mem => .inl ⟨e', h_mem, 0, .keep e'⟩
  cases h with
  | act p h =>
    cases h with
    | effect h =>
      cases h with
      | claimEvents now leaseExpiresAt workerId tokens claims _ _ h_due =>
        obtain ⟨e, he, rfl⟩ := List.mem_map.mp he'
        exact .inl ⟨e, he, 0, OutboxEvent.applyClaims_step fun c hc h_id =>
          hS.publishable_of_claim h_due hc he h_id⟩
      | finalizeEvent publisher claim now errorMessage e =>
        obtain ⟨r, hr, rfl⟩ := List.mem_map.mp he'
        split
        next h_held => exact .inl ⟨r, hr, _, OutboxEvent.finalized_step h_held⟩
        next => exact .inl ⟨r, hr, 0, .keep r⟩
      | _ => exact h_kept he'
    | finish h =>
      cases h with
      | commitNotification row now eventId =>
        rcases List.mem_append.mp he' with h_mem | h_mem
        · exact h_kept h_mem
        · exact .inr (List.mem_singleton.mp h_mem ▸ .requested row now eventId)
      | commitRetry =>
        rcases List.mem_append.mp he' with h_mem | h_mem
        · exact h_kept h_mem
        · split at h_mem
          · exact absurd h_mem List.not_mem_nil
          · exact .inr (List.mem_singleton.mp h_mem ▸ .replayRequested ..)
  | env e h =>
    obtain ⟨clock, directory, rfl⟩ := env_apply h
    exact h_kept he'
  | abort p h =>
    subst h
    exact h_kept he'

end Moves

/-! ### Runs -/

variable {d : Deployment} {clock : Instant} {directory : Directory} {ls : Schedule} {c : State}

theorem Deployment.Run.deliveries_onChannel (h : d.Run clock directory ls c) :
    ∀ r ∈ c.world.deliveries.rows, r.OnChannel := by
  refine h.always (P := fun w => ∀ r ∈ w.deliveries.rows, r.OnChannel) (by simp [World.initial,
    Table.rows, Table.empty]) fun w w' hS hP hM r' hr' => ?_
  rcases hM.delivery_origin hS hr' with ⟨r, hr, h_step⟩ | h_initial
  · exact h_step.follows.onChannel (hP r hr)
  · exact h_initial.onChannel

theorem Deployment.Run.outbox_reclaimable (h : d.Run clock directory ls c) :
    ∀ e ∈ c.world.outbox, e.Reclaimable := by
  refine h.always (P := fun w => ∀ e ∈ w.outbox, e.Reclaimable) (by simp [World.initial])
    fun w w' hS hP hM e' he' => ?_
  rcases hM.outbox_origin hS he' with ⟨e, he, maxAttempts, h_step⟩ | h_inserted
  · exact h_step.reclaimable (hP e he)
  · exact h_inserted.initial.reclaimable

/-- **No unfinished row is stranded**: in every state of every run, every delivery
and every outbox event that is not finished is due at every reading of the clock
after its `next_attempt_at` and its lease. -/
theorem unfinishedRows_due (h : d.Run clock directory ls c) :
    (∀ r ∈ c.world.deliveries.rows, r.status ≠ .delivered → r.status ≠ .failedTerminal →
      ∃ channel : Channel, r.channel = channel.value ∧
        ∀ now, r.nextAttemptAt < now → (∀ lease, r.leaseExpiresAt = some lease → lease < now) →
          ∀ channels, (∀ admitted, channels = some admitted → channel ∈ admitted) →
            r.due now channels) ∧
    ∀ e ∈ c.world.outbox, e.status ≠ .published → e.status ≠ .failedTerminal →
      ∀ now, e.nextAttemptAt < now → (∀ lease, e.leaseExpiresAt = some lease → lease < now) →
        e.publishable now := by
  refine ⟨fun r hr h_delivered h_failed => ?_,
    fun e he h_published h_failed now h_time h_lease => ?_⟩
  · obtain ⟨channel, h_channel⟩ := h.deliveries_onChannel r hr
    refine ⟨channel, h_channel.symm, fun now h_time h_lease channels h_admits => ?_⟩
    have h_open : ¬ r.Settled := not_or.mpr ⟨h_delivered, h_failed⟩
    exact (h.deliveries_consistent r hr).due h_open h_time.le h_lease fun admitted h_some =>
      ⟨channel, h_admits admitted h_some, h_channel⟩
  · have h_open : ¬ e.Settled := not_or.mpr ⟨h_published, h_failed⟩
    exact (h.outbox_reclaimable e he).publishable h_open h_time.le h_lease

/-- A publisher that dies after the broker has its record, and a worker that dies
while it is sending. -/
def crashingDeployment : Deployment := .ofCalls id [
  .createNotification ⟨3600000000⟩ "orders" (.toAll [.web] postInit_web) none,
  .publishDueEvents ⟨"publisher", 60000000, 30000000, 3⟩ 10,
  .consume {} "consumer" (.requested 11 10),
  .processDueDeliveries ⟨[.web], none, "worker", 60000000, 30000000⟩ 10]

def crashingSchedule : Schedule := [
  .run 0 (.time (.ofInstant 0)), .run 0 .go, .run 0 (.fresh 10), .run 0 (.fresh 11),
  .run 1 (.time (.ofInstant 0)), .run 1 (.claim [] [31]), .run 1 .ack, .crash 1,
  .run 2 .go, .run 2 (.time (.ofInstant 5)), .run 2 .go, .run 2 .go, .run 2 .go,
  .run 2 (.fresh 21), .run 2 .go, .run 2 .go, .run 2 (.fresh 22), .run 2 .go, .run 2 .go,
  .run 3 (.time (.ofInstant 9)), .run 3 (.claim [] [32]), .run 3 .go, .run 3 .go, .crash 3]

/-- Both rows are in hand of a process that is gone, and due when the leases have
expired. -/
theorem unfinishedRows_crashing :
    ∃ c, crashingDeployment.Run 0 (.ofUsers [1] (by decide)) crashingSchedule c ∧
      c.world.deliveries.committed.map (fun r => (r.status, r.leaseExpiresAt)) =
        [(.processing, some 60000009)] ∧
      c.world.outbox.map (fun e => (e.status, e.leaseExpiresAt)) =
        [(.publishing, some 60000000)] ∧
      (∀ r ∈ c.world.deliveries.rows, r.status ≠ .delivered → r.status ≠ .failedTerminal →
        ∃ channel : Channel, r.channel = channel.value ∧
          ∀ now, r.nextAttemptAt < now → (∀ lease, r.leaseExpiresAt = some lease → lease < now) →
            r.due now (some [channel])) ∧
      ∀ e ∈ c.world.outbox, e.status ≠ .published → e.status ≠ .failedTerminal →
        ∀ now, e.nextAttemptAt < now → (∀ lease, e.leaseExpiresAt = some lease → lease < now) →
          e.publishable now := by
  obtain ⟨c, h_run, h_rows⟩ := crashingDeployment.exists_run 0 (.ofUsers [1] (by decide))
    crashingSchedule (fun c => decide (
      c.world.deliveries.committed.map (fun r => (r.status, r.leaseExpiresAt)) =
        [(.processing, some 60000009)] ∧
      c.world.outbox.map (fun e => (e.status, e.leaseExpiresAt)) =
        [(.publishing, some 60000000)])) (by decide +kernel)
  obtain ⟨h_delivery, h_event⟩ := of_decide_eq_true h_rows
  -- both crashes leave a row with a lease, which is due when that has run out
  obtain ⟨h_deliveries, h_events⟩ := unfinishedRows_due h_run
  refine ⟨c, h_run, h_delivery, h_event, fun r hr h_delivered h_failed => ?_, h_events⟩
  obtain ⟨channel, h_channel, h_due⟩ := h_deliveries r hr h_delivered h_failed
  refine ⟨channel, h_channel, fun now h_time h_lease => h_due now h_time h_lease _ ?_⟩
  rintro admitted ⟨rfl⟩
  exact List.mem_singleton_self channel

end NotificationBroker
