import NotificationBroker.Properties.OutboxHistory

/-!
# The delay before a retry

A row that failed and can be retried is due again at its `next_attempt_at`, which
a worker or a publisher sets to its clock reading plus the delay. The reading is
the one its poll started with: by the time an attempt is finalized, the calls of
the adapter or of the broker for this row and for the rows before it in the batch
have taken their time, and the row is due that much too early.

`RetriesWait` says what the delay is for. It fails of a single slow call
(`not_delaysRetries`). It holds of every run in which a failed attempt is finalized
at the time its poll has read (`FinalizesInTime`), and there no worker takes a row
back before the delay has passed, unless somebody has asked for a retry.
-/

namespace NotificationBroker

open Interleave Python
open ReadCommitted (Table Grows)
open DeliveryWorker (recordOutcome)

/-- The retry delay of the worker or publisher that `p` is. -/
def Deployment.retryDelay (d : Deployment) (p : Pid) : ℤ :=
  match d.calls p with
  | .processDueDeliveries worker _ => worker.retryDelay
  | .publishDueEvents publisher _ => publisher.retryDelay
  | _ => 0

/-- A finalization that leaves its row for a retry puts the row's next attempt a retry delay or
more behind the clock. -/
def Event.retryWaits (d : Deployment) (w w' : World) : Event → Prop
  | .deliveryFinalized p claim applied => applied = true →
    ∀ r ∈ w'.deliveries.committed, r.id = claim.deliveryId → r.status = .failedRetryable →
      w.clock + d.retryDelay p ≤ r.nextAttemptAt
  | .eventFinalized p eventId _ result => result = some .failedRetryable →
    ∀ e ∈ w'.outbox, e.id = eventId → w.clock + d.retryDelay p ≤ e.nextAttemptAt
  | _ => True

instance (d : Deployment) (w w' : World) : DecidablePred (Event.retryWaits d w w')
  | .clockRead .. | .deliveriesClaimed .. | .contextLoaded .. | .adapterCalled ..
  | .deliveryFinalized .. | .eventFinalized .. | .fanoutCommitted .. | .readMarked .. => by
    unfold Event.retryWaits
    infer_instance

def RetriesWait (d : Deployment) (w w' : World) : Prop :=
  ∀ e ∈ newEvents w w', e.retryWaits d w w'

instance (d : Deployment) (w w' : World) : Decidable (RetriesWait d w w') := by
  unfold RetriesWait; infer_instance

/-- The delay is counted from the failure, if all processes read one clock. -/
def DelaysRetries : Prop :=
  ∀ (d : Deployment) (clock : Instant) (directory : Directory) (ls : Schedule) (c : State),
    d.Run clock directory ls c → surroundings.StepsMeet Honest (d.start clock directory) ls →
    surroundings.StepsMeet (RetriesWait d) (d.start clock directory) ls

/-- One delivery, a worker that retries after 30 seconds, and another poll. -/
def slowDeployment : Deployment := .ofCalls id [
  .createNotification ⟨3600000000⟩ "orders" (.toAll [.web] postInit_web) none,
  .consume {} "consumer" (.requested 11 10),
  .processDueDeliveries ⟨[.web], none, "worker", 60000000, 30000000⟩ 10,
  .processDueDeliveries ⟨[.web], none, "worker", 60000000, 30000000⟩ 10]

/-- A worker has claimed the delivery at time 0 and is calling the adapter. -/
def sendingSchedule : Schedule := [
  .run 0 (.time (.ofInstant 0)), .run 0 .go, .run 0 (.fresh 10), .run 0 (.fresh 11),
  .run 1 .go, .run 1 (.time (.ofInstant 0)), .run 1 .go, .run 1 .go, .run 1 .go,
  .run 1 (.fresh 21), .run 1 .go, .run 1 .go, .run 1 (.fresh 22), .run 1 .go, .run 1 .go,
  .run 2 (.time (.ofInstant 0)), .run 2 (.claim [] [31]), .run 2 .go, .run 2 .go]

/-- The adapter takes 20 seconds to fail, and the delivery is due again 10 seconds
later. -/
theorem not_delaysRetries : ¬ DelaysRetries := by
  intro h_claim
  obtain ⟨c, h_run, -⟩ := slowDeployment.exists_run 0 (.ofUsers [1] (by decide))
    (sendingSchedule ++ [.env (.tick 20000000), .run 2 (.adapter (.error "Timeout")),
      .run 2 (.fresh 32)]) (fun _ => true) (by decide +kernel)
  exact absurd (h_claim _ _ _ _ c h_run (by decide +kernel)) (by decide +kernel)

/-! ### Finalizations in time -/

/-- A failed attempt that can be retried is finalized at the time its poll has
read. -/
def Event.inTime (w w' : World) : Event → Prop
  | .deliveryFinalized p claim applied => applied = true →
    (∃ r ∈ w'.deliveries.committed, r.id = claim.deliveryId ∧ r.status = .failedRetryable) →
      ∀ value ∈ w.readings p, w.clock ≤ value.instant
  | .eventFinalized p _ _ result => result = some .failedRetryable →
      ∀ value ∈ w.readings p, w.clock ≤ value.instant
  | _ => True

instance (w w' : World) : DecidablePred (Event.inTime w w')
  | .clockRead .. | .deliveriesClaimed .. | .contextLoaded .. | .adapterCalled ..
  | .deliveryFinalized .. | .eventFinalized .. | .fanoutCommitted .. | .readMarked .. => by
    unfold Event.inTime
    infer_instance

def FinalizesInTime (w w' : World) : Prop := ∀ e ∈ newEvents w w', e.inTime w w'

instance (w w' : World) : Decidable (FinalizesInTime w w') := by
  unfold FinalizesInTime; infer_instance

section Moves

variable {d : Deployment} {p : Pid} {w w' : World}

/-- The time to which a worker puts off a delivery whose attempt has failed. -/
theorem recordOutcome_nextAttemptAt {outcome : DeliveryOutcome} {now retryDelay : ℤ}
    {r : Delivery} (h : (recordOutcome outcome now retryDelay r).status = .failedRetryable) :
    (recordOutcome outcome now retryDelay r).nextAttemptAt = now + retryDelay := by
  unfold recordOutcome at h ⊢
  exact if_pos h

/-- The time to which a publisher puts off an event it could not publish. -/
theorem finalized_nextAttemptAt {publisher : OutboxPublisher} {now : Instant}
    {errorMessage : Option String} {e : OutboxEvent}
    (h : (publisher.finalized now errorMessage e).status = .failedRetryable) :
    (publisher.finalized now errorMessage e).nextAttemptAt = now + publisher.retryDelay := by
  unfold OutboxPublisher.finalized at h ⊢
  split at h
  · exact absurd h (by simp [OutboxEvent.markPublished])
  next message =>
    unfold OutboxEvent.markPublishFailed at h ⊢
    dsimp only at h ⊢
    split at h
    · exact absurd h (by simp)
    next h_left => rw [if_neg h_left]

/-- **A finalization in time puts the row off by the delay.** -/
theorem Effect.retriesWait (hS : Sound w) (h : Effect d p w w') (h_time : FinalizesInTime w w') :
    RetriesWait d w w' := by
  intro e h_new
  have h_e := h_time e h_new
  cases h with
  | finalizeDelivery x outcome now retryDelay delivery attemptId _ _ _ h_mem h_held _ _ _ _ h_delay
      h_reading =>
    rw [newEvents_of_append rfl, List.mem_singleton] at h_new
    subst h_new
    intro _ r hr h_id h_status
    obtain ⟨worker, limit, h_call, rfl⟩ := h_delay
    obtain ⟨value, h_value, rfl⟩ := h_reading
    have h_now := h_e rfl ⟨r, hr, h_id, h_status⟩ value h_value
    obtain ⟨r₀, hr₀, rfl⟩ := List.mem_map.mp hr
    by_cases h_r : r₀.heldBy x.claim
    · rw [if_pos h_r] at h_status ⊢
      rw [recordOutcome_nextAttemptAt h_status, Deployment.retryDelay, h_call]
      exact Int.add_le_add_right h_now _
    · -- a row of that identifier is the one that is held
      rw [if_neg h_r] at h_id
      obtain rfl := hS.committed_delivery_eq hr₀ h_mem
        (h_id.trans (Delivery.heldBy_iff.mp h_held).1.symm)
      exact absurd h_held h_r
  | finalizeEvent publisher claim now errorMessage e₀ h_publisher _ h_mem h_held _ h_reading =>
    rw [newEvents_of_append rfl, List.mem_singleton] at h_new
    subst h_new
    intro h_status e he h_id
    obtain ⟨limit, h_call⟩ := h_publisher
    obtain ⟨value, h_value, rfl⟩ := h_reading
    have h_now := h_e h_status value h_value
    rcases OutboxHistory.finalize_rows hS h_mem h_held he with rfl | ⟨-, h_other⟩
    · rw [finalized_nextAttemptAt (Option.some.inj h_status), Deployment.retryDelay, h_call]
      exact Int.add_le_add_right h_now _
    · exact absurd h_id h_other
  | missEvent | missDelivery =>
    rw [newEvents_of_append rfl, List.mem_singleton] at h_new
    subst h_new
    exact fun h => absurd h (by simp)
  | readClock | commitFanout | claimDeliveries | loadContext | missContext | beginSend
  | markRead =>
    rw [newEvents_of_append rfl, List.mem_singleton] at h_new
    subst h_new
    trivial
  | _ => exact absurd h_new (not_mem_newEvents rfl)

theorem WorldMove.retriesWait (hS : Sound w) (h : WorldMove d w w')
    (h_time : FinalizesInTime w w') : RetriesWait d w w' := by
  by_cases h_same : w'.history = w.history
  · exact fun e h_new => absurd h_new (not_mem_newEvents h_same)
  · obtain ⟨p, h_effect⟩ := h.effect_of_history h_same
    exact h_effect.retriesWait hS h_time

/-- A failed finalization leaves the event to be retried. -/
theorem WorldMove.event_failed (hS : Sound w) (h : WorldMove d w w') {eventId token : UUID}
    (h_new : .eventFinalized p eventId token (some .failedRetryable) ∈ newEvents w w')
    {e : OutboxEvent} (he : e ∈ w'.outbox) (h_id : e.id = eventId) :
    e.status = .failedRetryable := by
  obtain ⟨q, h_effect⟩ := h.effect_of_history fun h_eq => not_mem_newEvents h_eq h_new
  cases h_effect with
  | finalizeEvent publisher claim now errorMessage e₀ h_publisher _ h_mem h_held =>
    rw [newEvents_of_append rfl, List.mem_singleton, Event.eventFinalized.injEq] at h_new
    obtain ⟨-, rfl, -, h_status⟩ := h_new
    -- the finalized row, or another one with the same identifier
    rcases OutboxHistory.finalize_rows hS h_mem h_held he with rfl | ⟨-, h_other⟩
    · exact (Option.some.inj h_status).symm
    · exact absurd h_id h_other
  | readClock | missEvent | commitFanout | claimDeliveries | loadContext | missContext | beginSend
  | finalizeDelivery | missDelivery | markRead =>
    rw [newEvents_of_append rfl, List.mem_singleton] at h_new
    exact absurd h_new (by simp)
  | _ => exact absurd h_new (not_mem_newEvents rfl)

/-! ### Rows that wait -/

/-- What a step can do to a delivery that waits for a retry: nothing before its
time has come, unless the retry is asked for, under a new identifier. -/
structure Delivery.Waits (w : World) (r r' : Delivery) : Prop where
  id : r'.id = r.id
  replayId : r'.replayId = r.replayId ∨ ∃ replayId, w.Fresh replayId ∧ r'.replayId = some replayId
  waits : r.status = .failedRetryable → r' = r ∨
    (∃ p now, w.HasRead p now ∧ r.nextAttemptAt ≤ now) ∨
    ∃ replayId, w.Fresh replayId ∧ r'.replayId = some replayId

/-- What a step can do to an event that waits for a retry: nothing before its time
has come. -/
structure OutboxEvent.Waits (w : World) (e e' : OutboxEvent) : Prop where
  id : e'.id = e.id
  waits : e.status = .failedRetryable → e' = e ∨ ∃ p now, w.HasRead p now ∧ e.nextAttemptAt ≤ now

theorem Delivery.Waits.refl (w : World) (r : Delivery) : r.Waits w r :=
  ⟨rfl, .inl rfl, fun _ => .inl rfl⟩

theorem OutboxEvent.Waits.refl (w : World) (e : OutboxEvent) : e.Waits w e :=
  ⟨rfl, fun _ => .inl rfl⟩

/-- A failed delivery is due from its time on. -/
theorem Delivery.time_of_due {r : Delivery} {now : Instant} {channels : Option (List Channel)}
    (h_due : r.due now channels) (h_failed : r.status = .failedRetryable) :
    r.nextAttemptAt ≤ now := by
  simp only [due, readyToProcess, expiredProcessingLease, h_failed, Bool.and_eq_true,
    Bool.or_eq_true, decide_eq_true_eq] at h_due
  rcases h_due.1 with h_ready | h_lease
  · exact h_ready.2
  · exact absurd h_lease.1 (by simp)

/-- A failed event is due from its time on. -/
theorem OutboxEvent.time_of_publishable {e : OutboxEvent} {now : Instant}
    (h_due : e.publishable now) (h_failed : e.status = .failedRetryable) :
    e.nextAttemptAt ≤ now := by
  simp only [publishable, h_failed, Bool.and_eq_true, Bool.or_eq_true, decide_eq_true_eq] at h_due
  rcases h_due with h_ready | h_lease
  · exact h_ready.2
  · exact absurd h_lease.1 (by simp)

theorem Effect.deliveries_wait (hS : Sound w) (h : Effect d p w w') :
    Grows (Delivery.Waits w) w.deliveries.committed w'.deliveries.committed := by
  cases h with
  | claimDeliveries now leaseExpiresAt workerId channels tokens claims _ _ h_due _ h_reading =>
    refine .map fun r hr => ?_
    unfold Delivery.applyClaims
    split
    next c h_find =>
      -- a failed row is due when its time has come, at the reading of the worker
      have h_r := hS.due_of_claim h_due (List.mem_of_find?_eq_some h_find) hr
        (of_decide_eq_true (List.find?_some h_find :))
      exact ⟨rfl, .inl rfl, fun h_failed =>
        .inr (.inl ⟨p, now, h_reading, Delivery.time_of_due h_r h_failed⟩)⟩
    next => exact .refl w r
  | finalizeDelivery x outcome now retryDelay delivery attemptId =>
    refine .map fun r _ => ?_
    split
    next h_held =>
      -- an outcome is recorded in a row that is being processed, not in a failed one
      refine ⟨rfl, .inl rfl, fun h_failed => ?_⟩
      exact absurd (h_failed.symm.trans (Delivery.heldBy_iff.mp h_held).2.1) (by simp)
    next => exact .refl w r
  | markRead deliveryId readAt h_visible =>
    refine .map fun r hr => ?_
    split
    next h_id =>
      refine ⟨rfl, .inl rfl, fun h_failed => ?_⟩
      exact absurd (h_failed.symm.trans (h_visible r hr h_id).1) (by simp)
    next => exact .refl w r
  | commitFanout => exact .append (Delivery.Waits.refl w) _ _
  | _ => exact .refl (Delivery.Waits.refl w) _

theorem WorldMove.deliveries_wait (hS : Sound w) (h : WorldMove d w w') :
    Grows (Delivery.Waits w) w.deliveries.committed w'.deliveries.committed := by
  cases h with
  | act p h =>
    cases h with
    | effect h => exact h.deliveries_wait hS
    | finish h =>
      cases h with
      | commitNotification => exact .refl (Delivery.Waits.refl w) _
      | commitRetry requester notificationId eligible skipped requestedAt replayId eventId
          invocationId h_fresh =>
        refine .map fun r _ => ?_
        split
        next =>
          -- a replay makes the row due at once, under a fresh replay identifier
          have h_new : w.Fresh replayId := h_fresh.2 replayId (by simp)
          exact ⟨rfl, .inr ⟨replayId, h_new, rfl⟩, fun _ => .inr (.inr ⟨replayId, h_new, rfl⟩)⟩
        next => exact .refl w r
  | env e h =>
    obtain ⟨clock, directory, rfl⟩ := env_apply h
    exact .refl (Delivery.Waits.refl w) _
  | abort p h => exact h ▸ .refl (Delivery.Waits.refl w) _

theorem WorldMove.outbox_waits (hS : Sound w) (h : WorldMove d w w') :
    Grows (OutboxEvent.Waits w) w.outbox w'.outbox := by
  cases h with
  | act p h =>
    cases h with
    | effect h =>
      cases h with
      | claimEvents now leaseExpiresAt workerId tokens claims _ _ h_due _ h_reading =>
        refine .map fun e he => ?_
        unfold OutboxEvent.applyClaims
        split
        next c h_find =>
          -- a failed event is publishable when its time has come, at the reading of the publisher
          have h_e := hS.publishable_of_claim h_due (List.mem_of_find?_eq_some h_find) he
            (of_decide_eq_true (List.find?_some h_find :))
          exact ⟨rfl, fun h_failed =>
            .inr ⟨p, now, h_reading, OutboxEvent.time_of_publishable h_e h_failed⟩⟩
        next => exact .refl w e
      | finalizeEvent publisher claim now errorMessage e =>
        refine .map fun r _ => ?_
        split
        next h_held =>
          refine ⟨(OutboxEvent.finalized_sameMessage publisher now errorMessage r).id,
            fun h_failed => ?_⟩
          exact absurd (h_failed.symm.trans (OutboxEvent.heldBy_iff.mp h_held).2.1) (by simp)
        next => exact .refl w r
      | _ => exact .refl (OutboxEvent.Waits.refl w) _
    | finish h => cases h <;> exact .append (OutboxEvent.Waits.refl w) _ _
  | env e h =>
    obtain ⟨clock, directory, rfl⟩ := env_apply h
    exact .refl (OutboxEvent.Waits.refl w) _
  | abort p h => exact h ▸ .refl (OutboxEvent.Waits.refl w) _

/-! ### Replay identifiers -/

/-- The replay identifiers in the table have been generated. -/
def ReplaysIssued (w : World) : Prop :=
  ∀ r ∈ w.deliveries.rows, ∀ replayId, r.replayId = some replayId → ¬ w.Fresh replayId

theorem Effect.replayIds (h : Effect d p w w') :
    Table.Change (fun r r' : Delivery => r'.replayId = r.replayId) (fun r => r.replayId = none) p
      w.deliveries w'.deliveries := by
  cases h with
  | rollback => exact .abort
  | insertDelivery x userIds channels recipient channel nextAttemptAt row _ _ _ _ _ _ _ _ h_row =>
    exact .insert row (h_row ▸ rfl)
  | commitFanout => exact .commit
  | claimDeliveries =>
    refine .modify _ fun r _ => ?_
    unfold Delivery.applyClaims
    split <;> rfl
  | finalizeDelivery | markRead =>
    refine .modify _ fun r _ => ?_
    split <;> rfl
  | _ => exact .keep

theorem WorldMove.replaysIssued (hP : ReplaysIssued w) (h : WorldMove d w w') :
    ReplaysIssued w' := by
  -- an identifier that has been issued stays so
  have h_issued : ∀ {replayId}, ¬ w.Fresh replayId → ¬ w'.Fresh replayId := fun h_old h_fresh =>
    h_old fun h_mem => h_fresh ((h.issued_extends.sublist.map Prod.fst).subset h_mem)
  -- rows that get no new replay
  have h_change : ∀ {q}, Table.Change (fun r r' : Delivery => r'.replayId = r.replayId)
      (fun r => r.replayId = none) q w.deliveries w'.deliveries → ReplaysIssued w' := by
    intro q h_change r' hr' replayId h_some
    have h_refl : ∀ r : Delivery, r.replayId = r.replayId := fun _ => rfl
    rcases h_change.origin h_refl hr' with ⟨r, hr, h_same⟩ | h_none
    · exact h_issued (hP r hr replayId (h_same.symm.trans h_some))
    · exact absurd (h_none.symm.trans h_some) (by simp)
  cases h with
  | act p h =>
    cases h with
    | effect h => exact h_change h.replayIds
    | finish h =>
      cases h with
      | commitNotification => exact h_change (q := p) .keep
      | commitRetry requester notificationId eligible skipped requestedAt replayId eventId
          invocationId h_fresh =>
        intro r' hr' id h_some
        rcases List.mem_append.mp hr' with h_com | h_pending
        · obtain ⟨r, hr, rfl⟩ := List.mem_map.mp h_com
          split at h_some
          · obtain rfl := Option.some.inj h_some
            -- the identifier of this replay is issued with the commit
            exact fun h_fresh' => h_fresh' (by simp [World.issue])
          · exact h_issued (hP r (Table.mem_rows_of_committed hr) id h_some)
        · exact h_issued (hP r' (List.mem_append_right _ h_pending) id h_some)
  | env e h =>
    obtain ⟨clock, directory, rfl⟩ := env_apply h
    exact h_change (q := 0) .keep
  | abort p h =>
    subst h
    exact h_change (q := p) .abort

end Moves

/-! ### Runs -/

section Runs

variable {d : Deployment} {clock : Instant} {directory : Directory} {ls ls' : Schedule}
  {c c' : State}

theorem Deployment.Run.replaysIssued (h : d.Run clock directory ls c) : ReplaysIssued c.world :=
  h.always (P := ReplaysIssued) (fun _ h => absurd h List.not_mem_nil)
    fun _ _ _ hP hM => WorldMove.replaysIssued hP hM

/-- What the others can do to a delivery that waits until `time`: nothing, or the
time has come, or a retry has been asked for. -/
def DeliveryWaits (r : Delivery) (time : Instant) (w : World) : Prop :=
  ReadingsPast w ∧ (∀ replayId, r.replayId = some replayId → ¬ w.Fresh replayId) ∧
    ∃ r' ∈ w.deliveries.committed, r'.id = r.id ∧
      (r' = r ∨ time ≤ w.clock ∨ r'.replayId ≠ r.replayId)

theorem DeliveryWaits.step {r : Delivery} {time : Instant} {w w' : World}
    (h_failed : r.status = .failedRetryable) (h_time : time ≤ r.nextAttemptAt) (hS : Sound w)
    (hP : DeliveryWaits r time w) (h : WorldMove d w w') (h_honest : Honest w w') :
    DeliveryWaits r time w' := by
  obtain ⟨h_past, h_issued, r', hr', h_id, h_state⟩ := hP
  obtain ⟨r'', hr'', h_waits⟩ := (WorldMove.deliveries_wait hS h).mem hr'
  refine ⟨WorldMove.readingsPast h_past h h_honest, fun replayId h_some h_fresh => ?_, r'', hr'',
    h_waits.id.trans h_id, ?_⟩
  · exact h_issued replayId h_some fun h_mem =>
      h_fresh (((WorldMove.issued_extends h).sublist.map Prod.fst).subset h_mem)
  -- a retry gives the row an identifier it has not had
  have h_new : (∃ replayId, w.Fresh replayId ∧ r''.replayId = some replayId) →
      r''.replayId ≠ r.replayId := by
    rintro ⟨replayId, h_fresh, h_some⟩ h_eq
    exact h_issued replayId (h_eq.symm.trans h_some) h_fresh
  rcases h_state with rfl | h_come | h_other
  · rcases h_waits.waits h_failed with rfl | ⟨p, now, h_reading, h_due⟩ | h_replay
    · exact .inl rfl
    · exact .inr (.inl (h_time.trans (h_due.trans ((h_past p now h_reading).trans
        (WorldMove.clock_le h)))))
    · exact .inr (.inr (h_new h_replay))
  · exact .inr (.inl (h_come.trans (WorldMove.clock_le h)))
  · rcases h_waits.replayId with h_same | h_replay
    · exact .inr (.inr (h_same.trans_ne h_other))
    · exact .inr (.inr (h_new h_replay))

/-- What the others can do to an event that waits until `time`: nothing, or the
time has come. -/
def EventWaits (e : OutboxEvent) (time : Instant) (w : World) : Prop :=
  ReadingsPast w ∧ ∃ e' ∈ w.outbox, e'.id = e.id ∧ (e' = e ∨ time ≤ w.clock)

theorem EventWaits.step {e : OutboxEvent} {time : Instant} {w w' : World}
    (h_failed : e.status = .failedRetryable) (h_time : time ≤ e.nextAttemptAt) (hS : Sound w)
    (hP : EventWaits e time w) (h : WorldMove d w w') (h_honest : Honest w w') :
    EventWaits e time w' := by
  obtain ⟨h_past, e', he', h_id, h_state⟩ := hP
  obtain ⟨e'', he'', h_waits⟩ := (WorldMove.outbox_waits hS h).mem he'
  refine ⟨WorldMove.readingsPast h_past h h_honest, e'', he'', h_waits.id.trans h_id, ?_⟩
  rcases h_state with rfl | h_come
  · rcases h_waits.waits h_failed with rfl | ⟨p, now, h_reading, h_due⟩
    · exact .inl rfl
    · exact .inr (h_time.trans (h_due.trans ((h_past p now h_reading).trans
        (WorldMove.clock_le h))))
  · exact .inr (h_come.trans (WorldMove.clock_le h))

/-- A delivery that waits is not in hand before its time, unless a retry was asked
for. -/
theorem Deployment.Run.delivery_waits (h : d.Run clock directory ls c)
    (h_past : ReadingsPast c.world) (h_run : surroundings.run c ls' = some c')
    (h_honest : surroundings.StepsMeet Honest c ls') {r r' : Delivery} {time : Instant}
    (hr : r ∈ c.world.deliveries.committed) (h_failed : r.status = .failedRetryable)
    (h_time : time ≤ r.nextAttemptAt) (hr' : r' ∈ c'.world.deliveries.committed)
    (h_id : r'.id = r.id) (h_claimed : r'.status = .processing)
    (h_replay : r'.replayId = r.replayId) : time ≤ c'.world.clock := by
  have h_waits : DeliveryWaits r time c'.world := h.verified.invariant (contract_discipline d)
    (fun w w' hS hP hM h_honest => hP.step h_failed h_time hS hM h_honest)
    ⟨h_past, h.replaysIssued r (Table.mem_rows_of_committed hr), r, hr, rfl, .inl rfl⟩
    h_run h_honest
  obtain ⟨-, -, r'', hr'', h_id'', h_state⟩ := h_waits
  have hS' : Sound c'.world := Deployment.Run.sound (Machine.run_trans h h_run)
  obtain rfl := hS'.committed_delivery_eq hr' hr'' (h_id.trans h_id''.symm)
  -- still failed, taken up in time, or replayed in between
  rcases h_state with rfl | h_come | h_other
  · exact absurd (h_failed.symm.trans h_claimed) (by simp)
  · exact h_come
  · exact absurd h_replay h_other

/-- An event that waits is not in hand before its time. -/
theorem Deployment.Run.event_waits (h : d.Run clock directory ls c)
    (h_past : ReadingsPast c.world) (h_run : surroundings.run c ls' = some c')
    (h_honest : surroundings.StepsMeet Honest c ls') {e e' : OutboxEvent} {time : Instant}
    (he : e ∈ c.world.outbox) (h_failed : e.status = .failedRetryable)
    (h_time : time ≤ e.nextAttemptAt) (he' : e' ∈ c'.world.outbox) (h_id : e'.id = e.id)
    (h_claimed : e'.status = .publishing) : time ≤ c'.world.clock := by
  have h_waits : EventWaits e time c'.world := h.verified.invariant (contract_discipline d)
    (fun w w' hS hP hM h_honest => hP.step h_failed h_time hS hM h_honest)
    ⟨h_past, e, he, rfl, .inl rfl⟩ h_run h_honest
  obtain ⟨-, e'', he'', h_id'', h_state⟩ := h_waits
  have hS' : Sound c'.world := Deployment.Run.sound (Machine.run_trans h h_run)
  obtain rfl := hS'.event_eq he' he'' (h_id.trans h_id''.symm)
  rcases h_state with rfl | h_come
  · exact absurd (h_failed.symm.trans h_claimed) (by simp)
  · exact h_come

/-- **If every failed attempt is finalized at the time its poll has read**, its row
waits for the delay, and no worker or publisher has it in hand before, unless a
retry was asked for. -/
theorem retriesWait_of_inTime (h : d.Run clock directory ls c)
    (h_honest : surroundings.StepsMeet Honest (d.start clock directory) ls)
    (h_time : surroundings.StepsMeet FinalizesInTime (d.start clock directory) ls) :
    surroundings.StepsMeet (RetriesWait d) (d.start clock directory) ls ∧
    ∀ ls₀ l ls₁ c₀ c₁, ls = ls₀ ++ l :: ls₁ →
      surroundings.run (d.start clock directory) ls₀ = some c₀ → surroundings.step c₀ l = some c₁ →
      (∀ p claim, .deliveryFinalized p claim true ∈ newEvents c₀.world c₁.world →
        ∀ r ∈ c₁.world.deliveries.committed, r.id = claim.deliveryId →
        r.status = .failedRetryable → ∀ r' ∈ c.world.deliveries.committed, r'.id = r.id →
        r'.status = .processing → r'.replayId = r.replayId →
          c₀.world.clock + d.retryDelay p ≤ c.world.clock) ∧
      ∀ p eventId token,
        .eventFinalized p eventId token (some .failedRetryable) ∈ newEvents c₀.world c₁.world →
        ∀ e ∈ c₁.world.outbox, e.id = eventId → ∀ e' ∈ c.world.outbox, e'.id = e.id →
        e'.status = .publishing → c₀.world.clock + d.retryDelay p ≤ c.world.clock := by
  -- one step: the outcome is written with the delay of its worker
  have h_waits : ∀ ls₀ l ls₁ c₀ c₁, ls = ls₀ ++ l :: ls₁ →
      surroundings.run (d.start clock directory) ls₀ = some c₀ →
      surroundings.step c₀ l = some c₁ → RetriesWait d c₀.world c₁.world := by
    rintro ls₀ l ls₁ c₀ c₁ rfl h₀ h_step
    have h_run₀ : d.Run clock directory ls₀ c₀ := h₀
    exact WorldMove.retriesWait h_run₀.sound (h_run₀.move h_step)
      ((Machine.stepsMeet_append h₀ h_time).2 c₁ h_step).1
  refine ⟨Machine.stepsMeet_of_forall h_waits, ?_⟩
  intro ls₀ l ls₁ c₀ c₁ h_split h₀ h_step
  have h_wait := h_waits ls₀ l ls₁ c₀ c₁ h_split h₀ h_step
  subst h_split
  have h_run₀ : d.Run clock directory ls₀ c₀ := h₀
  have h_run₁ : d.Run clock directory _ c₁ := Machine.run_snoc h₀ h_step
  have h_rest := Machine.run_split _ h h₀ h_step
  have h_honest₁ := (Machine.stepsMeet_append h₀ h_honest).2 c₁ h_step
  -- the rest of the run: no clock reading is ahead of the clock
  have h_past : ReadingsPast c₁.world := WorldMove.readingsPast
    (h_run₀.readingsPast (Machine.stepsMeet_append h₀ h_honest).1) (h_run₀.move h_step) h_honest₁.1
  refine ⟨fun p claim h_new r hr h_id h_failed r' hr' h_same h_claimed h_replay => ?_,
    fun p eventId token h_new e he h_id e' he' h_same h_claimed => ?_⟩
  · exact h_run₁.delivery_waits h_past h_rest h_honest₁.2 hr h_failed
      (h_wait _ h_new rfl r hr h_id h_failed) hr' h_same h_claimed h_replay
  · exact h_run₁.event_waits h_past h_rest h_honest₁.2 he
      (WorldMove.event_failed h_run₀.sound (h_run₀.move h_step) h_new he h_id)
      (h_wait _ h_new rfl e he h_id) he' h_same h_claimed

end Runs

/-- The adapter fails at once, and the next poll finds the delivery due 30 seconds
later. -/
theorem retriesWait_prompt :
    ∃ c, slowDeployment.Run 0 (.ofUsers [1] (by decide)) (sendingSchedule ++ [
        .run 2 (.adapter (.error "Timeout")), .run 2 (.fresh 32), .env (.tick 30000000),
        .run 3 (.time (.ofInstant 30000000)), .run 3 (.claim [] [41])]) c ∧
      c.world.deliveries.committed.map (fun r => (r.status, r.attemptCount)) =
        [(.processing, 1)] ∧
      surroundings.StepsMeet (RetriesWait slowDeployment)
        (slowDeployment.start 0 (.ofUsers [1] (by decide))) (sendingSchedule ++ [
          .run 2 (.adapter (.error "Timeout")), .run 2 (.fresh 32), .env (.tick 30000000),
          .run 3 (.time (.ofInstant 30000000)), .run 3 (.claim [] [41])]) := by
  obtain ⟨c, h_run, h_rows⟩ := slowDeployment.exists_run 0 (.ofUsers [1] (by decide))
    (sendingSchedule ++ [
      .run 2 (.adapter (.error "Timeout")), .run 2 (.fresh 32), .env (.tick 30000000),
      .run 3 (.time (.ofInstant 30000000)), .run 3 (.claim [] [41])])
    (fun c => decide (c.world.deliveries.committed.map (fun r => (r.status, r.attemptCount)) =
      [(.processing, 1)])) (by decide +kernel)
  exact ⟨c, h_run, of_decide_eq_true h_rows,
    (retriesWait_of_inTime h_run (by decide +kernel) (by decide +kernel)).1⟩

end NotificationBroker
