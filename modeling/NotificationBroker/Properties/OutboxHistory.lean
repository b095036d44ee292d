import NotificationBroker.System.Verified

/-!
# What has become of an outbox event

A publisher hands an event to the broker outside of any transaction, between the
claim of its row and the finalization. The row and the broker agree all the same:
a publisher marks a row as published only after the broker has acknowledged the
record, and the record is the same for whoever publishes it, because the columns
it is made of are written once (`OutboxEvent.SameMessage`).

`OutboxHistory` ties the rows to what has happened: to the records the broker has
accepted, and to the finalizations that counted as failed attempts. Every action
keeps it, whoever holds the row's claim by then.
-/

namespace NotificationBroker

open Interleave Python
open OutboxPublisher (kafkaRecord)
open ReadCommitted (Grows)

namespace OutboxEvent

/-- No publisher takes the event again. -/
def Settled (e : OutboxEvent) : Prop := e.status = .published ∨ e.status = .failedTerminal

/-- What every row satisfies, if all publishers make `maxAttempts` attempts. -/
structure Consistent (maxAttempts : ℕ) (e : OutboxEvent) : Prop where
  leased : e.status = .publishing →
    e.claimToken.isSome ∧ e.claimedBy.isSome ∧ e.leaseExpiresAt.isSome
  unleased : e.status ≠ .publishing →
    e.claimToken = none ∧ e.claimedBy = none ∧ e.leaseExpiresAt = none
  attempts_lt : ¬ e.Settled → e.attempts < maxAttempts
  attempts_eq : e.status = .failedTerminal → e.attempts = maxAttempts

/-- A row as it is inserted, by a creation or a retry. -/
structure Initial (e : OutboxEvent) : Prop where
  pending : e.status = .pending
  unleased : e.claimToken = none ∧ e.claimedBy = none ∧ e.leaseExpiresAt = none
  attempts : e.attempts = 0

variable {maxAttempts : ℕ} {e e' : OutboxEvent}

theorem Initial.consistent (h : e.Initial) (h_pos : 0 < maxAttempts) :
    e.Consistent maxAttempts where
  leased h_status := absurd (h.pending.symm.trans h_status) (by decide)
  unleased _ := h.unleased
  attempts_lt _ := h.attempts ▸ h_pos
  attempts_eq h_status := absurd (h.pending.symm.trans h_status) (by decide)

theorem not_settled_of_publishable {now : Instant} (h : e.publishable now = true) :
    ¬ e.Settled := by
  simp only [publishable, Bool.or_eq_true, Bool.and_eq_true, decide_eq_true_eq] at h
  unfold Settled
  rcases h with ⟨h | h, -⟩ | ⟨h, -⟩ <;> simp [h]

theorem not_settled_of_heldBy {eventId token : UUID} (h : e.heldBy eventId token = true) :
    ¬ e.Settled := by
  simp [Settled, (heldBy_iff.mp h).2.1]

/-- **Every step keeps the columns together.** -/
theorem Step.consistent (h : Step maxAttempts e e') (he : e.Consistent maxAttempts) :
    e'.Consistent maxAttempts := by
  cases h with
  | keep => exact he
  | claim now leaseExpiresAt workerId token h_due =>
    exact ⟨fun _ => ⟨rfl, rfl, rfl⟩, fun h_ne => absurd rfl h_ne,
      fun _ => he.attempts_lt (not_settled_of_publishable h_due),
      fun h_status => absurd h_status (by simp [OutboxEvent.claim])⟩
  | publish token now h_held =>
    exact ⟨fun h_status => absurd h_status (by simp [markPublished]), fun _ => ⟨rfl, rfl, rfl⟩,
      fun h_open => absurd (.inl rfl) h_open,
      fun h_status => absurd h_status (by simp [markPublished])⟩
  | fail token failedAt retryAt errorMessage h_held =>
    -- the attempt that fails is one of those that were left
    have h_lt := he.attempts_lt (not_settled_of_heldBy h_held)
    unfold markPublishFailed
    dsimp only
    split
    next h_max =>
      exact ⟨fun h_status => absurd h_status (by simp), fun _ => ⟨rfl, rfl, rfl⟩,
        fun h_open => absurd (.inr rfl) h_open, fun _ => le_antisymm h_lt h_max⟩
    next h_left =>
      exact ⟨fun h_status => absurd h_status (by simp), fun _ => ⟨rfl, rfl, rfl⟩,
        fun _ => Nat.lt_of_not_le h_left, fun h_status => absurd h_status (by simp)⟩

/-- **A settled row never changes again.** -/
theorem Step.settled (h : Step maxAttempts e e') (h_settled : e.Settled) : e' = e := by
  cases h with
  | keep => rfl
  | claim now leaseExpiresAt workerId token h_due =>
    exact absurd h_settled (not_settled_of_publishable h_due)
  | publish token now h_held => exact absurd h_settled (not_settled_of_heldBy h_held)
  | fail token failedAt retryAt errorMessage h_held =>
    exact absurd h_settled (not_settled_of_heldBy h_held)

end OutboxEvent

/-! ### The history of a row -/

/-- A publisher has finalized the row as failed. -/
def Event.failedAttempt (eventId : UUID) : Event → Bool
  | .eventFinalized _ id _ (some .failedRetryable) => decide (id = eventId)
  | .eventFinalized _ id _ (some .failedTerminal) => decide (id = eventId)
  | _ => false

/-- The failed attempts at publishing an event. -/
def World.failures (w : World) (eventId : UUID) : ℕ :=
  w.history.countP (Event.failedAttempt eventId)

theorem failures_record (w : World) (event : Event) (eventId : UUID) :
    (w.record event).failures eventId =
      w.failures eventId + if event.failedAttempt eventId then 1 else 0 := by
  simp [World.failures, World.record, List.countP_append, List.countP_singleton]

theorem failedAttempt_of_ne {p : Pid} {id token eventId : UUID} {result : Option OutboxEventStatus}
    (h : id ≠ eventId) :
    (Event.eventFinalized p id token result).failedAttempt eventId = false := by
  unfold Event.failedAttempt
  split <;> simp_all

/-- A row is published when the publisher has seen no error. -/
theorem finalized_published {publisher : OutboxPublisher} {now : Instant}
    {errorMessage : Option String} {e : OutboxEvent}
    (h : (publisher.finalized now errorMessage e).status = .published) : errorMessage = none := by
  cases errorMessage with
  | none => rfl
  | some message =>
    unfold OutboxPublisher.finalized OutboxEvent.markPublishFailed at h
    dsimp only at h
    split at h <;> exact absurd h (by simp)

/-- A finalization counts an attempt exactly if it is recorded as a failed one. -/
theorem finalized_attempts (publisher : OutboxPublisher) (now : Instant)
    (errorMessage : Option String) (e : OutboxEvent) (p : Pid) (eventId token : UUID) :
    (publisher.finalized now errorMessage e).attempts = e.attempts +
      if (Event.eventFinalized p eventId token
        (some (publisher.finalized now errorMessage e).status)).failedAttempt eventId
      then 1 else 0 := by
  unfold OutboxPublisher.finalized
  cases errorMessage with
  | none => simp [OutboxEvent.markPublished, Event.failedAttempt]
  | some message =>
    unfold OutboxEvent.markPublishFailed
    dsimp only
    split <;> simp [Event.failedAttempt]

/-- The publishers all make `maxAttempts` attempts. -/
def Deployment.Attempts (d : Deployment) (maxAttempts : ℕ) : Prop :=
  ∀ p publisher limit, d.calls p = .publishDueEvents publisher limit →
    publisher.maxAttempts = maxAttempts

/-- The rows of the outbox against the broker and the history. -/
structure OutboxHistory (maxAttempts : ℕ) (w : World) : Prop where
  consistent : ∀ e ∈ w.outbox, e.Consistent maxAttempts
  accepted : ∀ e ∈ w.outbox, e.status = .published →
    ∀ token, kafkaRecord (.ofRow e token) ∈ w.accepted
  attempts : ∀ e ∈ w.outbox, e.attempts = w.failures e.id
  known : ∀ eventId, w.failures eventId ≠ 0 → ∃ e ∈ w.outbox, e.id = eventId

namespace OutboxHistory

variable {d : Deployment} {p : Pid} {maxAttempts : ℕ} {w w' : World}

theorem initial (clock : Instant) (directory : Directory) :
    OutboxHistory maxAttempts (World.initial clock directory) where
  consistent _ h := absurd h List.not_mem_nil
  accepted _ h := absurd h List.not_mem_nil
  attempts _ h := absurd h List.not_mem_nil
  known _ h := absurd rfl h

/-- The outbox and its history are left alone. -/
theorem congr (h : OutboxHistory maxAttempts w) (h_outbox : w'.outbox = w.outbox)
    (h_accepted : w.accepted ⊆ w'.accepted) (h_failures : ∀ id, w'.failures id = w.failures id) :
    OutboxHistory maxAttempts w' where
  consistent := h_outbox ▸ h.consistent
  accepted e he h_status token := h_accepted (h.accepted e (h_outbox ▸ he) h_status token)
  attempts e he := (h.attempts e (h_outbox ▸ he)).trans (h_failures e.id).symm
  known eventId h_ne := by
    rw [h_outbox]
    exact h.known eventId (h_failures eventId ▸ h_ne)

/-- A new event has no history. -/
theorem append (hS : Sound w) (h : OutboxHistory maxAttempts w) (h_pos : 0 < maxAttempts)
    {e : OutboxEvent} (h_initial : e.Initial) (h_fresh : w.Fresh e.id)
    (h_outbox : w'.outbox = w.outbox ++ [e]) (h_accepted : w'.accepted = w.accepted)
    (h_history : w'.history = w.history) : OutboxHistory maxAttempts w' := by
  have h_failures : ∀ id, w'.failures id = w.failures id := fun id => by
    unfold World.failures
    rw [h_history]
  -- nothing has failed yet for an identifier that is fresh
  have h_none : w.failures e.id = 0 := by
    by_contra h_ne
    obtain ⟨r, hr, h_id⟩ := h.known e.id h_ne
    exact h_fresh (hS.outbox.generated _ (h_id ▸ List.mem_map_of_mem hr))
  refine ⟨fun r hr => ?_, fun r hr h_status token => ?_, fun r hr => ?_, fun eventId h_ne => ?_⟩
  · rw [h_outbox] at hr
    rcases List.mem_append.mp hr with hr | hr
    · exact h.consistent r hr
    · exact List.mem_singleton.mp hr ▸ h_initial.consistent h_pos
  · rw [h_outbox] at hr
    rw [h_accepted]
    rcases List.mem_append.mp hr with hr | hr
    · exact h.accepted r hr h_status token
    · rw [List.mem_singleton.mp hr, h_initial.pending] at h_status
      exact absurd h_status (by decide)
  · rw [h_outbox] at hr
    rw [h_failures]
    rcases List.mem_append.mp hr with hr | hr
    · exact h.attempts r hr
    · rw [List.mem_singleton.mp hr, h_initial.attempts, h_none]
  · obtain ⟨r, hr, h_id⟩ := h.known eventId (h_failures eventId ▸ h_ne)
    exact ⟨r, h_outbox ▸ List.mem_append_left _ hr, h_id⟩

/-- A claim neither publishes a row nor counts an attempt. -/
theorem claim (h : OutboxHistory maxAttempts w) {claims : List ClaimedOutboxEvent}
    {now leaseExpiresAt : Instant} {workerId : String}
    (h_due : ∀ e ∈ w.outbox, ∀ c ∈ claims, c.eventId = e.id → e.publishable now)
    (h_outbox : w'.outbox =
      w.outbox.map (OutboxEvent.applyClaims claims now leaseExpiresAt workerId))
    (h_accepted : w'.accepted = w.accepted) (h_history : w'.history = w.history) :
    OutboxHistory maxAttempts w' := by
  have h_same := OutboxEvent.applyClaims_sameMessage claims now leaseExpiresAt workerId
  have h_failures : ∀ id, w'.failures id = w.failures id := fun id => by
    unfold World.failures
    rw [h_history]
  refine ⟨fun r hr => ?_, fun r hr h_status token => ?_, fun r hr => ?_, fun eventId h_ne => ?_⟩
  · rw [h_outbox] at hr
    obtain ⟨e, he, rfl⟩ := List.mem_map.mp hr
    exact (OutboxEvent.applyClaims_step (h_due e he)).consistent (h.consistent e he)
  · rw [h_outbox] at hr
    obtain ⟨e, he, rfl⟩ := List.mem_map.mp hr
    -- an event that is published after the claim was published before
    rw [h_accepted, (h_same e).message token]
    refine h.accepted e he ?_ token
    unfold OutboxEvent.applyClaims at h_status
    split at h_status
    · exact absurd h_status (by simp [OutboxEvent.claim])
    · exact h_status
  · rw [h_outbox] at hr
    obtain ⟨e, he, rfl⟩ := List.mem_map.mp hr
    -- attempts are counted when they fail, not when the event is claimed
    rw [h_failures, (h_same e).id, ← h.attempts e he]
    unfold OutboxEvent.applyClaims
    split <;> rfl
  · obtain ⟨r, hr, h_id⟩ := h.known eventId (h_failures eventId ▸ h_ne)
    exact ⟨_, h_outbox ▸ List.mem_map_of_mem hr, (h_same r).id.trans h_id⟩

/-- A finalization changes the row that is held and no other. -/
theorem finalize_rows (hS : Sound w) {f : OutboxEvent → OutboxEvent} {eventId token : UUID}
    {e : OutboxEvent} (h_mem : e ∈ w.outbox) (h_held : e.heldBy eventId token) {r : OutboxEvent}
    (hr : r ∈ w.outbox.map fun r => if r.heldBy eventId token then f r else r) :
    r = f e ∨ (r ∈ w.outbox ∧ r.id ≠ eventId) := by
  obtain ⟨r₀, hr₀, rfl⟩ := List.mem_map.mp hr
  by_cases h_id : r₀.id = eventId
  · obtain rfl : r₀ = e := hS.event_eq hr₀ h_mem
      (h_id.trans (OutboxEvent.heldBy_iff.mp h_held).1.symm)
    exact .inl (if_pos h_held)
  · have h_not : ¬ r₀.heldBy eventId token := fun h => h_id (OutboxEvent.heldBy_iff.mp h).1
    rw [if_neg h_not]
    exact .inr ⟨hr₀, h_id⟩

/-- A finalization publishes the row, and the broker has accepted its record, or
counts one attempt, as the history does. -/
theorem finalize (hS : Sound w) (h : OutboxHistory maxAttempts w) {publisher : OutboxPublisher}
    (h_max : publisher.maxAttempts = maxAttempts) {claim : ClaimedOutboxEvent} {now : Instant}
    {errorMessage : Option String} {e : OutboxEvent}
    (h_claim : ∃ e ∈ w.outbox, claim = .ofRow e claim.claimToken) (h_mem : e ∈ w.outbox)
    (h_held : e.heldBy claim.eventId claim.claimToken)
    (h_accepted : errorMessage = none → kafkaRecord claim ∈ w.accepted) :
    OutboxHistory maxAttempts
      { w.record (.eventFinalized p claim.eventId claim.claimToken
          (some (publisher.finalized now errorMessage e).status)) with
        outbox := w.outbox.map fun r =>
          if r.heldBy claim.eventId claim.claimToken then
            publisher.finalized now errorMessage r
          else r } := by
  have h_id := (OutboxEvent.heldBy_iff.mp h_held).1
  -- the row that is finalized is the one the claim was made of
  obtain ⟨e', he', h_of⟩ := h_claim
  obtain rfl : e' = e := hS.event_eq he' h_mem
    ((congrArg ClaimedOutboxEvent.eventId h_of).symm.trans h_id.symm)
  have h_same := OutboxEvent.finalized_sameMessage publisher now errorMessage e'
  refine ⟨fun r hr => ?_, fun r hr h_published token => ?_, fun r hr => ?_, fun id h_ne => ?_⟩
  · rcases finalize_rows hS h_mem h_held hr with rfl | ⟨hr, -⟩
    · exact (h_max ▸ OutboxEvent.finalized_step h_held).consistent (h.consistent e' h_mem)
    · exact h.consistent r hr
  · rcases finalize_rows hS h_mem h_held hr with rfl | ⟨hr, -⟩
    · rw [h_same.message token]
      exact h_of ▸ h_accepted (finalized_published h_published)
    · exact h.accepted r hr h_published token
  · refine Eq.trans ?_ (failures_record w _ _).symm
    rcases finalize_rows hS h_mem h_held hr with rfl | ⟨hr, h_other⟩
    · rw [h_same.id, ← h.attempts e' h_mem, h_id]
      exact finalized_attempts publisher now errorMessage e' p claim.eventId claim.claimToken
    · rw [h.attempts r hr, failedAttempt_of_ne (Ne.symm h_other)]
      rfl
  · have h_grows : Grows OutboxEvent.SameMessage w.outbox (w.outbox.map fun r =>
        if r.heldBy claim.eventId claim.claimToken then publisher.finalized now errorMessage r
        else r) := by
      refine .map fun r _ => ?_
      split
      · exact OutboxEvent.finalized_sameMessage publisher now errorMessage r
      · exact .refl r
    have h_before : ∃ r ∈ w.outbox, r.id = id := by
      by_cases h_e : claim.eventId = id
      · exact ⟨e', h_mem, h_id.trans h_e⟩
      · refine h.known id fun h_zero => h_ne ((failures_record w _ _).trans ?_)
        rw [h_zero, failedAttempt_of_ne h_e]
        rfl
    obtain ⟨r, hr, rfl⟩ := h_before
    obtain ⟨r', hr', h_r⟩ := h_grows.mem hr
    exact ⟨r', hr', h_r.id⟩

end OutboxHistory

section Moves

variable {d : Deployment} {p : Pid} {maxAttempts : ℕ} {w w' : World}

theorem Effect.outboxHistory (h_max : d.Attempts maxAttempts) (hS : Sound w)
    (hO : OutboxHistory maxAttempts w) (h : Effect d p w w') : OutboxHistory maxAttempts w' := by
  cases h with
  | claimEvents now leaseExpiresAt workerId tokens claims _ _ h_due =>
    exact hO.claim (fun e he c hc h_id => hS.publishable_of_claim h_due hc he h_id) rfl rfl rfl
  | publish claim accepted =>
    exact hO.congr rfl (List.subset_append_left _ _) fun _ => rfl
  | finalizeEvent publisher claim now errorMessage e h_publisher h_claim h_mem h_held h_accepted =>
    obtain ⟨limit, h_call⟩ := h_publisher
    exact hO.finalize hS (h_max p publisher limit h_call) h_claim h_mem h_held h_accepted
  | readClock | missEvent | commitFanout | claimDeliveries | loadContext | missContext | beginSend
  | finalizeDelivery | missDelivery | markRead =>
    exact hO.congr rfl (List.Subset.refl _) fun id => failures_record w _ id
  | _ => exact hO.congr rfl (List.Subset.refl _) fun _ => rfl

theorem Finish.outboxHistory (h_pos : 0 < maxAttempts) (hS : Sound w)
    (hO : OutboxHistory maxAttempts w) (h : Finish d p w w') : OutboxHistory maxAttempts w' := by
  cases h with
  | commitNotification row now eventId _ _ _ h_fresh =>
    exact hO.append hS h_pos ⟨rfl, ⟨rfl, rfl, rfl⟩, rfl⟩ h_fresh rfl rfl rfl
  | commitRetry requester notificationId eligible skipped requestedAt replayId eventId invocationId
      h_fresh =>
    split
    · exact hO.congr (List.append_nil _) (List.Subset.refl _) fun _ => rfl
    · exact hO.append hS h_pos (e := RetryService.replayRequestedEvent ..)
        ⟨rfl, ⟨rfl, rfl, rfl⟩, rfl⟩ (h_fresh.2 eventId (by simp)) rfl rfl rfl

theorem WorldMove.outboxHistory (h_max : d.Attempts maxAttempts) (h_pos : 0 < maxAttempts)
    (hS : Sound w) (hO : OutboxHistory maxAttempts w) (h : WorldMove d w w') :
    OutboxHistory maxAttempts w' := by
  cases h with
  | act p h =>
    cases h with
    | effect h => exact h.outboxHistory h_max hS hO
    | finish h => exact h.outboxHistory h_pos hS hO
  | env e h =>
    obtain ⟨clock, directory, rfl⟩ := env_apply h
    exact hO.congr rfl (List.Subset.refl _) fun _ => rfl
  | abort p h => exact h ▸ hO.congr rfl (List.Subset.refl _) fun _ => rfl

/-- Every move takes steps of the rows, and appends others. -/
theorem WorldMove.outbox_steps (h_max : d.Attempts maxAttempts) (hS : Sound w)
    (h : WorldMove d w w') : Grows (OutboxEvent.Step maxAttempts) w.outbox w'.outbox := by
  cases h with
  | act p h =>
    cases h with
    | effect h =>
      cases h with
      | claimEvents now leaseExpiresAt workerId tokens claims _ _ h_due =>
        -- a claim takes an event that is publishable
        exact .map fun e he => OutboxEvent.applyClaims_step fun c hc h_id =>
          hS.publishable_of_claim h_due hc he h_id
      | finalizeEvent publisher claim now errorMessage e h_publisher =>
        obtain ⟨limit, h_call⟩ := h_publisher
        -- a finalization changes the row that is held by its token
        refine .map fun r _ => ?_
        split
        next h_held =>
          exact h_max p publisher limit h_call ▸ OutboxEvent.finalized_step h_held
        next => exact .keep r
      | _ => exact .refl .keep _
    | finish h => cases h <;> exact .append .keep _ _
  | env e h =>
    obtain ⟨clock, directory, rfl⟩ := env_apply h
    exact .refl .keep _
  | abort p h => exact h ▸ .refl .keep _

/-- A publisher whose claim was lost changes nothing. -/
theorem Effect.event_lost (h : Effect d p w w') {q : Pid} {eventId token : UUID}
    {result : Option OutboxEventStatus}
    (h_event : w'.history = w.history ++ [.eventFinalized q eventId token result])
    (h_lost : ∀ e ∈ w.outbox, e.heldBy eventId token = false) :
    result = none ∧ w' = w.record (.eventFinalized q eventId token none) := by
  cases h with
  -- with a row that holds the token it would not be lost
  | finalizeEvent publisher claim now errorMessage e _ _ h_mem h_held =>
    have h_eq := List.append_cancel_left h_event
    simp only [List.cons.injEq, Event.eventFinalized.injEq, and_true] at h_eq
    obtain ⟨-, rfl, rfl, -⟩ := h_eq
    exact absurd h_held (by rw [h_lost e h_mem]; simp)
  | missEvent claim =>
    have h_eq := List.append_cancel_left h_event
    simp only [List.cons.injEq, Event.eventFinalized.injEq, and_true] at h_eq
    obtain ⟨rfl, rfl, rfl, rfl⟩ := h_eq
    exact ⟨rfl, rfl⟩
  | _ => exact absurd h_event (by simp [World.record, World.issue, World.rollback,
      NotificationFanoutService.note, DeliveryWorker.advance, DeliveryWorker.putDown])

end Moves

variable {d : Deployment} {clock : Instant} {directory : Directory} {ls : Schedule} {c : State}
  {maxAttempts : ℕ}

/-- **What has become of every outbox event**, in every state of every run. -/
theorem outbox_matches_history (h_max : d.Attempts maxAttempts) (h_pos : 0 < maxAttempts)
    (h : d.Run clock directory ls c) :
    (∀ e ∈ c.world.outbox,
      -- a published event was accepted by the broker
      (e.status = .published → ∃ record ∈ c.world.accepted, record.topic = e.topic ∧
        record.key = e.eventKey ∧ record.value = (Json.obj [("schema_version", .int 1),
          ("event_id", .str e.id.str), ("event_type", .str e.eventType),
          ("occurred_at", .str e.createdAt.asUtc.isoformat), ("data", e.payload)]).text) ∧
      -- the columns of a claim are set while it is being published
      (e.status = .publishing ↔
        e.claimToken.isSome ∧ e.claimedBy.isSome ∧ e.leaseExpiresAt.isSome) ∧
      (e.status ≠ .publishing →
        e.claimToken = none ∧ e.claimedBy = none ∧ e.leaseExpiresAt = none) ∧
      -- the attempts are the failed finalizations, and are bounded
      e.attempts = c.world.history.countP (Event.failedAttempt e.id) ∧
      (e.status = .pending ∨ e.status = .publishing ∨ e.status = .failedRetryable →
        e.attempts < maxAttempts) ∧
      (e.status = .failedTerminal → e.attempts = maxAttempts)) ∧
    -- a settled event never changes again
    (∀ ls' c', surroundings.run c ls' = some c' → ∀ e ∈ c.world.outbox,
      e.status = .published ∨ e.status = .failedTerminal →
      e ∈ c'.world.outbox ∧ ∀ e' ∈ c'.world.outbox, e'.id = e.id → e' = e) ∧
    -- a stale token changes nothing
    (∀ l c', surroundings.step c l = some c' → ∀ p eventId token result,
      c'.world.history = c.world.history ++ [.eventFinalized p eventId token result] →
      (∀ e ∈ c.world.outbox, e.heldBy eventId token = false) →
      result = none ∧ c'.world = { c.world with history := c'.world.history }) := by
  refine ⟨fun e he => ?_, fun ls' c' h' e he h_settled => ?_, fun l c' h_step p eventId token result
    h_event h_lost => ?_⟩
  · have hO : OutboxHistory maxAttempts c.world := h.always (.initial clock directory)
      fun w w' hS hO hM => hM.outboxHistory h_max h_pos hS hO
    have h_row := hO.consistent e he
    refine ⟨fun h_published => ?_, ⟨h_row.leased, fun h_leased => ?_⟩, h_row.unleased,
      hO.attempts e he, fun h_open => h_row.attempts_lt ?_, h_row.attempts_eq⟩
    · exact ⟨_, hO.accepted e he h_published 0, rfl, rfl, rfl⟩
    · by_contra h_status
      rw [(h_row.unleased h_status).1] at h_leased
      exact absurd h_leased.1 (by simp)
    · rcases h_open with h | h | h <;> simp [OutboxEvent.Settled, h]
  · have h_steps : Grows (fun e e' : OutboxEvent => e.id = e'.id ∧ (e.Settled → e' = e))
        c.world.outbox c'.world.outbox := by
      refine h.along (S := fun w w' => Grows (fun e e' : OutboxEvent =>
        e.id = e'.id ∧ (e.Settled → e' = e)) w.outbox w'.outbox)
        (fun w => .refl (fun _ => ⟨rfl, fun _ => rfl⟩) _) (fun h₁ h₂ => h₁.trans ?_ h₂)
        (fun w w' hS hM => (hM.outbox_steps h_max hS).imp fun h_step =>
          ⟨h_step.sameMessage.id.symm, h_step.settled⟩) h'
      rintro a b c ⟨h_id, h_ab⟩ ⟨h_id', h_bc⟩
      refine ⟨h_id.trans h_id', fun h_a => ?_⟩
      obtain rfl := h_ab h_a
      exact h_bc h_a
    obtain ⟨e₁, he₁, -, h_same⟩ := h_steps.mem he
    obtain rfl := h_same h_settled
    refine ⟨he₁, fun e' he' h_id => ?_⟩
    exact (Deployment.Run.sound (Machine.run_trans h h')).event_eq he' he₁ h_id
  · obtain ⟨q, h_effect⟩ := (h.move h_step).appended h_event
    obtain ⟨rfl, h_world⟩ := h_effect.event_lost h_event h_lost
    exact ⟨rfl, by rw [h_world]; rfl⟩

/-- Three publishers: the first cannot reach the broker, the second is slower
than its lease, and the third publishes. -/
def publishingDeployment : Deployment := .ofCalls id [
  .createNotification ⟨3600000000⟩ "orders" (.toAll [.web] postInit_web) none,
  .publishDueEvents ⟨"first", 60000000, 30000000, 3⟩ 10,
  .publishDueEvents ⟨"second", 60000000, 30000000, 3⟩ 10,
  .publishDueEvents ⟨"third", 60000000, 30000000, 3⟩ 10]

def publishingSchedule : Schedule := [
  .run 0 (.time (.ofInstant 0)), .run 0 .go, .run 0 (.fresh 10), .run 0 (.fresh 11),
  .run 1 (.time (.ofInstant 0)), .run 1 (.claim [] [31]), .run 1 (.nack false "unreachable"),
  .run 1 .go,
  .run 2 (.time (.ofInstant 30000000)), .run 2 (.claim [] [32]),
  .run 3 (.time (.ofInstant 90000001)), .run 3 (.claim [] [33]), .run 3 .ack, .run 3 .go,
  .run 2 (.nack true "timed out"), .run 2 .go]

theorem outbox_publishing :
    ∃ c, publishingDeployment.Run 0 (.ofUsers [1] (by decide)) publishingSchedule c ∧
      c.world.outbox.map (fun e => (e.status, e.attempts)) = [(.published, 1)] ∧
      .eventFinalized 2 11 32 none ∈ c.world.history ∧
      (∀ e ∈ c.world.outbox, e.attempts = c.world.history.countP (Event.failedAttempt e.id)) ∧
      (∀ e ∈ c.world.outbox, e.status = .published →
        ∃ record ∈ c.world.accepted, record.topic = e.topic ∧ record.key = e.eventKey) ∧
      ∀ ls' c', surroundings.run c ls' = some c' → ∀ e ∈ c.world.outbox,
        e.status = .published ∨ e.status = .failedTerminal → e ∈ c'.world.outbox := by
  have h_max : publishingDeployment.Attempts 3 := by
    intro p publisher limit h_call
    -- all publishers of the deployment have the same limit
    match p with
    | 0 => exact absurd h_call (by simp [publishingDeployment, Deployment.ofCalls])
    | 1 | 2 | 3 =>
      simp only [publishingDeployment, Deployment.ofCalls, List.getD_cons_succ,
        List.getD_cons_zero, Call.publishDueEvents.injEq] at h_call
      rw [← h_call.1]
    | p + 4 => exact absurd h_call (by simp [publishingDeployment, Deployment.ofCalls])
  obtain ⟨c, h_run, h_rows⟩ := publishingDeployment.exists_run 0 (.ofUsers [1] (by decide))
    publishingSchedule (fun c => decide (
      c.world.outbox.map (fun e => (e.status, e.attempts)) = [(.published, 1)] ∧
      .eventFinalized 2 11 32 none ∈ c.world.history)) (by decide +kernel)
  obtain ⟨h_status, h_stale⟩ := of_decide_eq_true h_rows
  obtain ⟨h_events, h_settled, -⟩ := outbox_matches_history h_max (by decide) h_run
  refine ⟨c, h_run, h_status, h_stale, fun e he => (h_events e he).2.2.2.1,
    fun e he h_published => ?_, fun ls' c' h' e he h_e => (h_settled ls' c' h' e he h_e).1⟩
  obtain ⟨record, h_mem, h_topic, h_key, -⟩ := (h_events e he).1 h_published
  exact ⟨record, h_mem, h_topic, h_key⟩

end NotificationBroker
