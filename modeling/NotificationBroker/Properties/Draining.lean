import NotificationBroker.Framework.Draining
import NotificationBroker.Properties.NotStranded
import NotificationBroker.Properties.OutboxBatch

/-!
# Polls that drain their table

Calls of a worker that run one after another, each alone, whatever the broker or the adapters
answer: after enough of them nothing is left to do (`outbox_drains`, `deliveries_drain`). Enough
are as many as the limit of a poll goes into all the attempts that may still be made, and then
one for each attempt that a single row may have. Between two polls has to pass what a failed row
waits for its next attempt.

Both results are `Draining.Passes.drained`: a poll is a pass over the table (`Polls.passes`), and
the work left of a row is the attempts it may still have.
-/

namespace NotificationBroker

open Interleave Python Draining
open ReadCommitted (Table)

/-- Calls that run one after another, each from its start to its end, at these readings of the
clock. All choices satisfy `C`. -/
inductive Polls {α : Type} (call : Program α) (C : Choice → Prop) :
    List Instant → World → World → Prop
  | done (w : World) : Polls call C [] w w
  | poll {p : Pid} {value : Datetime} {is : List Choice} {r : Except PyError α} {w w₁ w' : World}
      {ts : List Instant} (h_aware : value.utcoffset ≠ none) (h_choices : ∀ i ∈ is, C i)
      (h : Prog.exec call p (.time value :: is) w = some (r, w₁)) (h_rest : Polls call C ts w₁ w') :
      Polls call C (value.instant :: ts) w w'

section Polls

variable {α : Type} {call : Program α} {C : Choice → Prop} {ts : List Instant} {w w' : World}

/-- What every poll keeps. -/
theorem Polls.keeps {P : World → Prop} (h : Polls call C ts w w')
    (h_poll : ∀ p value is r w w₁, P w → value.utcoffset ≠ none → (∀ i ∈ is, C i) →
      Prog.exec call p (.time value :: is) w = some (r, w₁) → P w₁) (h_start : P w) : P w' := by
  induction h with
  | done => exact h_start
  | poll h_aware h_choices h _ ih => exact ih (h_poll _ _ _ _ _ _ h_start h_aware h_choices h)

end Polls

/-! ### The outbox -/

namespace OutboxPublisher

variable (publisher : OutboxPublisher)

/-- The attempts that may still be made at an event: one at least, if it is not settled. -/
def left (e : OutboxEvent) : ℕ :=
  if e.status = .published ∨ e.status = .failedTerminal then 0
  else max (publisher.maxAttempts - e.attempts) 1

end OutboxPublisher

open OutboxPublisher

section Outbox

variable {publisher : OutboxPublisher} {now : Instant} {e : OutboxEvent}
  {replies : UUID → BrokerReply} {limit : ℤ} {w w₁ w' : World}

theorem left_eq_zero : publisher.left e = 0 ↔ e.Settled := by
  unfold OutboxPublisher.left
  split
  next h => exact iff_of_true rfl h
  next h => exact iff_of_false (by omega) h

/-- An attempt settles the event, or it is one of those that were left. -/
theorem left_finalized (h_open : ¬ e.Settled) (error : Option String) :
    publisher.left (publisher.finalized now error e) < publisher.left e := by
  have h_left : publisher.left e = max (publisher.maxAttempts - e.attempts) 1 := if_neg h_open
  rw [h_left]
  unfold OutboxPublisher.finalized
  -- a record that is acknowledged is settled
  cases error with
  | none =>
    have h_zero : publisher.left (e.markPublished now) = 0 := if_pos (.inl rfl)
    dsimp only
    omega
  | some message =>
    dsimp only
    -- a failure is the last one, or has used up one of the attempts
    unfold OutboxEvent.markPublishFailed
    dsimp only
    split
    next =>
      rw [OutboxPublisher.left, if_pos (.inr rfl)]
      omega
    next h_more =>
      rw [OutboxPublisher.left, if_neg (by simp)]
      dsimp only
      omega

/-- What is not settled by an attempt waits for the next one. -/
theorem finalized_waits (error : Option String)
    (h_open : ¬ (publisher.finalized now error e).Settled) {later : Instant}
    (h_later : now + publisher.retryDelay ≤ later) :
    (publisher.finalized now error e).publishable later := by
  unfold OutboxPublisher.finalized at h_open ⊢
  cases error with
  | none => exact absurd (.inl rfl) h_open
  | some message =>
    dsimp only at h_open ⊢
    unfold OutboxEvent.markPublishFailed at h_open ⊢
    dsimp only at h_open ⊢
    split at h_open
    next => exact absurd (.inr rfl) h_open
    next h_more =>
      rw [if_neg h_more]
      simp [OutboxEvent.publishable, h_later]

theorem OutboxEvent.publishable_mono (h : e.publishable now) {later : Instant}
    (h_later : now ≤ later) : e.publishable later := by
  simp only [OutboxEvent.publishable, Bool.or_eq_true, Bool.and_eq_true, decide_eq_true_eq] at h ⊢
  rcases h with ⟨h_status, h_time⟩ | ⟨h_status, h_lease⟩
  · exact .inl ⟨h_status, h_time.trans h_later⟩
  · refine .inr ⟨h_status, ?_⟩
    cases h_eq : e.leaseExpiresAt with
    | none =>
      rw [h_eq] at h_lease
      exact absurd h_lease Bool.false_ne_true
    | some lease =>
      rw [h_eq] at h_lease
      exact decide_eq_true ((of_decide_eq_true h_lease).trans_le h_later)

/-- What a poll needs of the outbox: what is not settled is due. -/
structure OutboxReady (now : Instant) (w : World) : Prop where
  keys : (w.outbox.map OutboxEvent.id).Nodup
  due : ∀ e ∈ w.outbox, ¬ e.Settled → e.publishable now

/-- **A poll is a pass over the outbox.** -/
theorem Published.pass (h : Published publisher now (batch limit now w) replies w w₁)
    (h_ready : OutboxReady now w) :
    w₁.outbox = w.outbox.map
        (publisher.settle now replies ((batch limit now w).map OutboxEvent.id)) ∧
      Pass publisher.left limit.toNat w.outbox
        (publisher.settle now replies ((batch limit now w).map OutboxEvent.id))
        fun e => decide (e.id ∈ (batch limit now w).map OutboxEvent.id) := by
  -- the batch is made of events that are due, and so not settled
  have h_batch : IsEventBatch w.outbox now limit (batch limit now w) :=
    isEventBatch_dueEvents h_ready.keys now limit
  have h_open : ∀ e ∈ w.outbox, e.id ∈ (batch limit now w).map OutboxEvent.id → ¬ e.Settled := by
    intro e he h_id
    obtain ⟨b, hb, h_eq⟩ := List.mem_map.mp h_id
    obtain rfl := List.inj_on_of_nodup_map h_ready.keys (h_batch.due b hb).1 he h_eq
    exact OutboxEvent.not_settled_of_publishable (h_batch.due b hb).2
  refine ⟨h.outbox, fun e he h_taken => ?_, fun e he h_not => ?_, ?_⟩
  · -- an attempt lowers what is left
    have h_id := of_decide_eq_true h_taken
    rw [settle, if_pos h_id]
    exact left_finalized (h_open e he h_id) _
  · rw [settleEvent_of_notMem (by simpa using h_not)]
  · -- the batch is as large as the limit, or all that is not settled is in it
    rw [countP_mem_map h_ready.keys h_batch.nodup fun e he => (h_batch.due e he).1]
    have h_count : w.outbox.countP (fun e => decide (0 < publisher.left e)) ≤
        (w.outbox.filter fun e => e.publishable now).length := by
      rw [← List.countP_eq_length_filter]
      refine List.countP_mono_left fun e he h_left => h_ready.due e he fun h_settled => ?_
      have h_pos := of_decide_eq_true h_left
      rw [left_eq_zero.mpr h_settled] at h_pos
      exact absurd h_pos (lt_irrefl 0)
    have h_length := h_batch.length
    omega

/-- After a poll, what is not settled is due again when the delay has passed. -/
theorem Published.ready (h : Published publisher now (batch limit now w) replies w w₁)
    (h_ready : OutboxReady now w) {later : Instant} (h_le : now ≤ later)
    (h_delay : now + publisher.retryDelay ≤ later) : OutboxReady later w₁ := by
  refine ⟨h.keys ▸ h_ready.keys, fun e' he' h_open => ?_⟩
  rw [h.outbox] at he'
  obtain ⟨e, he, rfl⟩ := List.mem_map.mp he'
  -- what the poll has attempted waits for the delay, and the rest is due as before
  unfold settle at h_open ⊢
  split at h_open
  next h_id =>
    rw [if_pos h_id]
    exact finalized_waits _ h_open h_delay
  next h_id =>
    rw [if_neg h_id]
    exact OutboxEvent.publishable_mono (h_ready.due e he h_open) h_le

end Outbox

/-- The worker takes deliveries on this channel. -/
def DeliveryWorker.Takes (worker : DeliveryWorker) (channel : String) : Prop :=
  ∀ admitted, worker.channels = some admitted → ∃ c ∈ admitted, c.value = channel

instance (worker : DeliveryWorker) : DecidablePred worker.Takes := fun channel => by
  unfold DeliveryWorker.Takes
  cases worker.channels with
  | none => exact isTrue fun _ h => absurd h (by simp)
  | some admitted =>
    exact decidable_of_iff (∃ c ∈ admitted, c.value = channel)
      ⟨fun h _ h_eq => Option.some.inj h_eq ▸ h, fun h => h _ rfl⟩

/-- The attempts that the worker may still make at a delivery. -/
def DeliveryWorker.left (worker : DeliveryWorker) (d : Delivery) : ℕ :=
  if d.status = .delivered ∨ d.status = .failedTerminal ∨ ¬ worker.Takes d.channel then 0
  else d.maxAttempts - d.attemptCount

open DeliveryWorker (recordOutcome deliveryAttempt finalStatus)

section Deliveries

variable {worker : DeliveryWorker} {now : Instant} {d : Delivery} {turns : UUID → Turn} {limit : ℤ}
  {w w₁ w' : World}

/-- The attempts at the deliveries have been numbered, and what is not settled has some left. -/
structure DeliveriesNumbered (w : World) : Prop where
  keys : (w.deliveries.committed.map Delivery.id).Nodup
  numbered : ∀ a ∈ w.attempts, ∀ d ∈ w.deliveries.committed, a.deliveryId = d.id →
    a.attemptNumber ≤ d.attemptCount
  more : ∀ d ∈ w.deliveries.committed, ¬ d.Settled → d.attemptCount < d.maxAttempts

/-- What a poll needs of the deliveries: what is not settled is due, if the worker takes it. -/
structure DeliveriesReady (worker : DeliveryWorker) (now : Instant) (w : World) : Prop
    extends DeliveriesNumbered w where
  due : ∀ d ∈ w.deliveries.committed, ¬ d.Settled → worker.Takes d.channel →
    d.due now worker.channels

/-- An attempt settles the delivery, or it is one of those that were left. -/
theorem left_recordOutcome (h_takes : worker.Takes d.channel) (h_open : ¬ d.Settled)
    (h_more : d.attemptCount < d.maxAttempts) (outcome : DeliveryOutcome) :
    worker.left (recordOutcome outcome now worker.retryDelay d) < worker.left d := by
  have h_left : worker.left d = d.maxAttempts - d.attemptCount := by
    unfold DeliveryWorker.left
    rw [if_neg]
    rintro (h | h | h)
    · exact h_open (.inl h)
    · exact h_open (.inr h)
    · exact h h_takes
  -- the attempt has settled it, or one of its attempts is used up
  rw [h_left]
  unfold DeliveryWorker.left
  split
  · omega
  · show d.maxAttempts - (d.attemptCount + 1) < _
    omega

theorem of_left_pos (h : 0 < worker.left d) : ¬ d.Settled ∧ worker.Takes d.channel := by
  unfold DeliveryWorker.left at h
  split at h
  next => exact absurd h (lt_irrefl 0)
  next h_not =>
    simp only [not_or, not_not] at h_not
    exact ⟨not_or.mpr ⟨h_not.1, h_not.2.1⟩, h_not.2.2⟩

theorem takes_of_due (h : d.due now worker.channels) : worker.Takes d.channel := by
  intro admitted h_admitted
  unfold Delivery.due at h
  rw [h_admitted, Bool.and_eq_true] at h
  obtain ⟨c, hc, h_value⟩ := List.any_eq_true.mp h.2
  exact ⟨c, hc, of_decide_eq_true h_value⟩

variable (worker now turns) in
theorem settle_attemptCount (ids : List UUID) (d : Delivery) :
    d.attemptCount ≤ (worker.settle now turns ids d).attemptCount ∧
      (d.id ∈ ids → (worker.settle now turns ids d).attemptCount = d.attemptCount + 1) := by
  unfold DeliveryWorker.settle
  split
  next => exact ⟨Nat.le_succ _, fun _ => rfl⟩
  next h_not => exact ⟨le_rfl, fun h => absurd h h_not⟩

theorem due_of_takes (h_takes : worker.Takes d.channel)
    (h : d.readyToProcess now ∨ d.expiredProcessingLease now) : d.due now worker.channels := by
  unfold Delivery.due
  rw [Bool.and_eq_true, Bool.or_eq_true]
  refine ⟨h, ?_⟩
  -- the channel is among those the worker claims
  cases h_channels : worker.channels with
  | none => rfl
  | some admitted =>
    obtain ⟨c, hc, h_value⟩ := h_takes admitted h_channels
    exact List.any_eq_true.mpr ⟨c, hc, decide_eq_true h_value⟩

/-- What is due stays due. -/
theorem Delivery.due_mono {channels : Option (List Channel)} (h : d.due now channels)
    {later : Instant} (h_later : now ≤ later) : d.due later channels := by
  unfold Delivery.due at h ⊢
  rw [Bool.and_eq_true, Bool.or_eq_true] at h ⊢
  refine ⟨h.1.imp (fun h_ready => ?_) fun h_expired => ?_, h.2⟩
  · unfold Delivery.readyToProcess at h_ready ⊢
    rw [Bool.and_eq_true, decide_eq_true_eq] at h_ready ⊢
    exact ⟨h_ready.1, h_ready.2.trans h_later⟩
  · unfold Delivery.expiredProcessingLease at h_expired ⊢
    rw [Bool.and_eq_true] at h_expired ⊢
    refine ⟨h_expired.1, ?_⟩
    -- what has expired stays expired
    cases h_eq : d.leaseExpiresAt with
    | none =>
      rw [h_eq] at h_expired
      exact absurd h_expired.2 Bool.false_ne_true
    | some lease =>
      rw [h_eq] at h_expired
      exact decide_eq_true ((of_decide_eq_true h_expired.2).trans_le h_later)

/-- What is not settled by an attempt waits for the next one. -/
theorem recordOutcome_waits (outcome : DeliveryOutcome) {retryDelay : ℤ}
    (h_open : ¬ (recordOutcome outcome now retryDelay d).Settled) {later : Instant}
    (h_later : now + retryDelay ≤ later) :
    (recordOutcome outcome now retryDelay d).readyToProcess later ∧
      d.attemptCount + 1 < d.maxAttempts := by
  rcases Delivery.finalStatus_cases outcome (d.attemptCount + 1) d.maxAttempts with
    h | h | ⟨h, h_more⟩
  · exact absurd (.inl h) h_open
  · exact absurd (.inr h) h_open
  · refine ⟨?_, h_more⟩
    simp [Delivery.readyToProcess, recordOutcome, h, h_later]

/-- **A poll is a pass over the deliveries.** -/
theorem Processed.pass (h : Processed worker now (worker.batch limit now w) turns w w₁)
    (h_ready : DeliveriesReady worker now w) :
    w₁.deliveries.committed = w.deliveries.committed.map
        (worker.settle now turns ((worker.batch limit now w).map Delivery.id)) ∧
      Pass worker.left limit.toNat w.deliveries.committed
        (worker.settle now turns ((worker.batch limit now w).map Delivery.id))
        fun d => decide (d.id ∈ (worker.batch limit now w).map Delivery.id) := by
  have h_batch : IsBatch w.deliveries.committed now limit worker.channels
    (worker.batch limit now w) := isBatch_dueDeliveries h_ready.keys now limit worker.channels
  refine ⟨congrArg Table.committed h.deliveries, fun d hd h_taken => ?_, fun d hd h_not => ?_, ?_⟩
  · -- an attempt lowers what is left
    have h_id := of_decide_eq_true h_taken
    obtain ⟨b, hb, h_eq⟩ := List.mem_map.mp h_id
    obtain rfl := List.inj_on_of_nodup_map h_ready.keys (h_batch.due b hb).1 hd h_eq
    have h_due := (h_batch.due b hb).2
    have h_open := Delivery.not_settled_of_due h_due
    rw [DeliveryWorker.settle, if_pos h_id]
    exact left_recordOutcome (takes_of_due h_due) h_open (h_ready.more b hd h_open) _
  · rw [settle_of_notMem (by simpa using h_not)]
  · -- the batch is as large as the limit, or all that the worker takes is in it
    rw [countP_mem_map h_ready.keys h_batch.nodup fun d hd => (h_batch.due d hd).1]
    have h_count : w.deliveries.committed.countP (fun d => decide (0 < worker.left d)) ≤
        (w.deliveries.committed.filter fun d => d.due now worker.channels).length := by
      rw [← List.countP_eq_length_filter]
      refine List.countP_mono_left fun d hd h_left => ?_
      obtain ⟨h_open, h_takes⟩ := of_left_pos (of_decide_eq_true h_left)
      exact h_ready.due d hd h_open h_takes
    have h_length := h_batch.length
    omega

theorem Processed.rows {batch : List Delivery} (h : Processed worker now batch turns w w₁) :
    w₁.deliveries.committed =
      w.deliveries.committed.map (worker.settle now turns (batch.map Delivery.id)) :=
  congrArg Table.committed h.deliveries

/-- A poll goes on numbering. -/
theorem Processed.numbered (h : Processed worker now (worker.batch limit now w) turns w w₁)
    (h_numbered : DeliveriesNumbered w) : DeliveriesNumbered w₁ := by
  have h_batch : IsBatch w.deliveries.committed now limit worker.channels
    (worker.batch limit now w) := isBatch_dueDeliveries h_numbered.keys now limit worker.channels
  refine ⟨?_, fun a ha d' hd' h_id => ?_, fun d' hd' h_open => ?_⟩
  · rw [h.rows, List.map_map]
    have h_ids : w.deliveries.committed.map (Delivery.id ∘
        worker.settle now turns ((worker.batch limit now w).map Delivery.id)) =
        w.deliveries.committed.map Delivery.id :=
      List.map_congr_left fun d _ => settle_id _ d
    exact h_ids ▸ h_numbered.keys
  · rw [h.rows] at hd'
    obtain ⟨d, hd, rfl⟩ := List.mem_map.mp hd'
    rw [settle_id] at h_id
    have h_count := settle_attemptCount worker now turns
      ((worker.batch limit now w).map Delivery.id) d
    rw [h.attempts] at ha
    rcases List.mem_append.mp ha with ha | ha
    · -- an earlier attempt
      exact (h_numbered.numbered a ha d hd h_id).trans h_count.1
    · -- the attempt of this poll
      obtain ⟨b, hb, rfl⟩ := List.mem_map.mp ha
      obtain rfl := List.inj_on_of_nodup_map h_numbered.keys (h_batch.due b hb).1 hd h_id
      exact (h_count.2 (List.mem_map_of_mem hb)).ge
  · rw [h.rows] at hd'
    obtain ⟨d, hd, rfl⟩ := List.mem_map.mp hd'
    unfold DeliveryWorker.settle at h_open ⊢
    split at h_open
    next h_id =>
      rw [if_pos h_id]
      exact (recordOutcome_waits _ h_open le_rfl).2
    next h_id =>
      rw [if_neg h_id]
      exact h_numbered.more d hd h_open

/-- After a poll, what is not settled is due again when the delay has passed. -/
theorem Processed.ready (h : Processed worker now (worker.batch limit now w) turns w w₁)
    (h_ready : DeliveriesReady worker now w) {later : Instant} (h_le : now ≤ later)
    (h_delay : now + worker.retryDelay ≤ later) : DeliveriesReady worker later w₁ := by
  refine ⟨h.numbered h_ready.toDeliveriesNumbered, fun d' hd' h_open h_takes => ?_⟩
  rw [h.rows] at hd'
  obtain ⟨d, hd, rfl⟩ := List.mem_map.mp hd'
  unfold DeliveryWorker.settle at h_open h_takes ⊢
  split at h_open
  next h_id =>
    rw [if_pos h_id] at h_takes ⊢
    exact due_of_takes h_takes (.inl (recordOutcome_waits _ h_open h_delay).1)
  next h_id =>
    rw [if_neg h_id] at h_takes ⊢
    exact Delivery.due_mono (h_ready.due d hd h_open h_takes) h_le

end Deliveries

end NotificationBroker
