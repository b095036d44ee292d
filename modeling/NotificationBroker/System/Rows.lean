import NotificationBroker.System.Sound

/-!
# What happens to one row

`Delivery.Step` and `OutboxEvent.Step` list what a single action can do to a row
of the two tables with a life cycle, with the row's state beforehand. A step
keeps the identity of the row, and does not touch what is settled.
-/

namespace NotificationBroker

open Interleave Python
open ReadCommitted (Table Grows)
open DeliveryWorker (recordOutcome finalStatus)

/-! ### Notifications -/

/-- The columns of a notification that are written once. -/
def Notification.request (n : Notification) : Notification :=
  { n with recipientCount := 0, deliveryCount := 0 }

/-- The same request, whatever its counters. -/
def Notification.SameRequest (n n' : Notification) : Prop := n'.request = n.request

theorem Notification.SameRequest.id {n n' : Notification} (h : n.SameRequest n') :
    n'.id = n.id := by
  have h_request : n'.request = n.request := h
  exact (congrArg Notification.id h_request :)

theorem Notification.SameRequest.payloadFingerprint {n n' : Notification} (h : n.SameRequest n') :
    n'.payloadFingerprint = n.payloadFingerprint := by
  have h_request : n'.request = n.request := h
  exact (congrArg Notification.payloadFingerprint h_request :)

/-- A row keeps the identity under which it is looked up. -/
theorem Notification.SameRequest.matches {n n' : Notification} (h : n.SameRequest n')
    {identity : NotificationIdentity} (h_match : identity.Matches n) : identity.Matches n' := by
  have h_request : n'.request = n.request := h
  have h_service : n'.sourceService = n.sourceService :=
    (congrArg Notification.sourceService h_request :)
  have h_key : n'.idempotencyKey = n.idempotencyKey :=
    (congrArg Notification.idempotencyKey h_request :)
  have h_hash : n'.deduplicationHash = n.deduplicationHash :=
    (congrArg Notification.deduplicationHash h_request :)
  have h_window : n'.deduplicationWindowStart = n.deduplicationWindowStart :=
    (congrArg Notification.deduplicationWindowStart h_request :)
  cases identity with
  | explicit sourceService key => exact ⟨h_service.trans h_match.1, h_key.trans h_match.2⟩
  | fallback sourceService hash start =>
    exact ⟨h_service.trans h_match.1, h_key.trans h_match.2.1, h_hash.trans h_match.2.2.1,
      h_window.trans h_match.2.2.2⟩

/-! ### Deliveries -/

/-- A delivery that needs no further attempt. -/
def Delivery.Settled (d : Delivery) : Prop := d.status = .delivered ∨ d.status = .failedTerminal

/-- A delivery as a fan-out inserts it. -/
def Delivery.Initial (d : Delivery) : Prop :=
  ∃ notificationId userId recipientId channel nextAttemptAt,
    d = NotificationFanoutService.deliveryValues notificationId userId recipientId channel
      nextAttemptAt d.id

/-- `row` is for a user that the open fan-out of `p` has resolved. -/
def World.Receives (w : World) (p : Pid) (row : Recipient) : Prop :=
  ∃ x userIds, w.fanoutsOf p = [x] ∧ x.userIds = some userIds ∧
    row.notificationId = x.notification.id ∧ row.userId ∈ userIds

/-- `row` is a new delivery to such a user, on a channel of the notification. -/
structure World.Delivers (w : World) (p : Pid) (row : Delivery) : Prop where
  initial : row.Initial
  requested : ∃ x userIds channels channel, w.fanoutsOf p = [x] ∧ x.userIds = some userIds ∧
    x.notification.channels.mapM parseChannel = .ok channels ∧
    row.notificationId = x.notification.id ∧ row.userId ∈ userIds ∧ channel ∈ channels ∧
    row.channel = channel.value

/-- What can happen to a delivery's row in one action. -/
inductive Delivery.Step : Delivery → Delivery → Prop
  | keep (d : Delivery) : Step d d
  | claim (d : Delivery) (now leaseExpiresAt : Instant) (workerId : String) (token : UUID)
      (channels : Option (List Channel)) (h_due : d.due now channels) :
      Step d (d.claim now leaseExpiresAt workerId token)
  | finalize (d : Delivery) (claim : ClaimedDelivery) (outcome : DeliveryOutcome)
      (now retryDelay : ℤ) (h_held : d.heldBy claim) :
      Step d (recordOutcome outcome now retryDelay d)
  | replay (d : Delivery) (replayId : UUID) (requestedAt : Instant)
      (h_failed : d.status = .failedRetryable) : Step d (d.requestReplay replayId requestedAt)
  | markRead (d : Delivery) (readAt : Instant) (h_delivered : d.status = .delivered)
      (h_web : d.channel = Channel.web.value) : Step d (d.markRead readAt)

/-- What others can rely on about a delivery: its identity, and its outcome once
it has one. -/
structure Delivery.Follows (d d' : Delivery) : Prop where
  key : d'.key = d.key
  settled : d.Settled → d'.status = d.status ∧ d'.attemptCount = d.attemptCount ∧
    d'.deliveredAt = d.deliveredAt ∧ d'.providerMessageId = d.providerMessageId

namespace Delivery

theorem Follows.refl (d : Delivery) : d.Follows d := ⟨rfl, fun _ => ⟨rfl, rfl, rfl, rfl⟩⟩

theorem Follows.trans {d d' d'' : Delivery} (h : d.Follows d') (h' : d'.Follows d'') :
    d.Follows d'' where
  key := h'.key.trans h.key
  settled hd := by
    obtain ⟨h₁, h₂, h₃, h₄⟩ := h.settled hd
    have hd' : d'.Settled := by unfold Settled; rw [h₁]; exact hd
    obtain ⟨h₁', h₂', h₃', h₄'⟩ := h'.settled hd'
    exact ⟨h₁'.trans h₁, h₂'.trans h₂, h₃'.trans h₃, h₄'.trans h₄⟩

theorem Follows.id {d d' : Delivery} (h : d.Follows d') : d'.id = d.id := congrArg Prod.fst h.key

theorem heldBy_iff {d : Delivery} {claim : ClaimedDelivery} :
    d.heldBy claim = true ↔ d.id = claim.deliveryId ∧ d.status = .processing ∧
      d.claimToken = some claim.claimToken := by
  simp [heldBy, and_assoc]

theorem replayable_iff {d : Delivery} {deliveryIds skipped : List UUID} :
    d.replayable deliveryIds skipped = true ↔
      d.id ∈ deliveryIds ∧ d.id ∉ skipped ∧ d.status = .failedRetryable := by
  simp [replayable, and_assoc]

/-- A due row waits for an attempt, or its lease has run out. -/
theorem due_iff {d : Delivery} {now : Instant} {channels : Option (List Channel)}
    (h : d.due now channels = true) :
    d.status = .pending ∨ d.status = .replayRequested ∨ d.status = .failedRetryable ∨
      (d.status = .processing ∧ ∃ lease, d.leaseExpiresAt = some lease ∧ lease < now) := by
  simp only [due, Bool.and_eq_true, Bool.or_eq_true] at h
  rcases h.1 with h_ready | h_lease
  · simp only [readyToProcess, Bool.and_eq_true, Bool.or_eq_true, decide_eq_true_eq] at h_ready
    rcases h_ready.1 with (h | h) | h
    · exact .inl h
    · exact .inr (.inl h)
    · exact .inr (.inr (.inl h))
  · simp only [expiredProcessingLease, Bool.and_eq_true, decide_eq_true_eq] at h_lease
    refine .inr (.inr (.inr ⟨h_lease.1, ?_⟩))
    -- without a lease there is none that has expired
    cases h_expires : d.leaseExpiresAt with
    | none => rw [h_expires] at h_lease; exact absurd h_lease.2 (by simp)
    | some lease =>
      rw [h_expires] at h_lease
      exact ⟨lease, rfl, of_decide_eq_true h_lease.2⟩

theorem not_settled_of_due {d : Delivery} {now : Instant} {channels : Option (List Channel)}
    (h : d.due now channels = true) : ¬ d.Settled := by
  unfold Settled
  rcases due_iff h with h | h | h | ⟨h, -⟩ <;> simp [h]

/-- The five kinds of steps keep the row's identity and its outcome. -/
theorem Step.follows {d d' : Delivery} (h : d.Step d') : d.Follows d' := by
  cases h with
  | keep => exact .refl d
  | claim now lease workerId token channels h_due =>
    exact ⟨rfl, fun h_settled => absurd h_settled (not_settled_of_due h_due)⟩
  | finalize claim outcome now retryDelay h_held =>
    refine ⟨rfl, fun h_settled => ?_⟩
    rw [Settled, (heldBy_iff.mp h_held).2.1] at h_settled
    exact absurd h_settled (by simp)
  | replay replayId requestedAt h_failed =>
    refine ⟨rfl, fun h_settled => ?_⟩
    rw [Settled, h_failed] at h_settled
    exact absurd h_settled (by simp)
  | markRead readAt _ _ => exact ⟨rfl, fun _ => ⟨rfl, rfl, rfl, rfl⟩⟩

theorem applyClaims_key (claims : List ClaimedDelivery) (now lease : Instant) (workerId : String)
    (d : Delivery) : (d.applyClaims claims now lease workerId).key = d.key := by
  unfold applyClaims
  split <;> rfl

/-- A list of claims changes the rows it names, which are due, and no others. -/
theorem applyClaims_step {claims : List ClaimedDelivery} {now lease : Instant} {workerId : String}
    (channels : Option (List Channel)) {d : Delivery}
    (h : ∀ c ∈ claims, c.deliveryId = d.id → d.due now channels) :
    d.Step (d.applyClaims claims now lease workerId) := by
  unfold applyClaims
  split
  next c h_find =>
    exact .claim d now lease workerId c.claimToken channels
      (h c (List.mem_of_find?_eq_some h_find) (of_decide_eq_true (List.find?_some h_find :)))
  next => exact .keep d

end Delivery

/-! ### Outbox events -/

/-- What can happen to an outbox row in one action. -/
inductive OutboxEvent.Step (maxAttempts : ℕ) : OutboxEvent → OutboxEvent → Prop
  | keep (e : OutboxEvent) : Step maxAttempts e e
  | claim (e : OutboxEvent) (now leaseExpiresAt : Instant) (workerId : String) (token : UUID)
      (h_due : e.publishable now) :
      Step maxAttempts e (e.claim now leaseExpiresAt workerId token)
  | publish (e : OutboxEvent) (token : UUID) (now : Instant)
      (h_held : e.heldBy e.id token) : Step maxAttempts e (e.markPublished now)
  | fail (e : OutboxEvent) (token : UUID) (failedAt retryAt : Instant) (errorMessage : String)
      (h_held : e.heldBy e.id token) :
      Step maxAttempts e (e.markPublishFailed failedAt retryAt errorMessage maxAttempts)

/-- The columns of an outbox row that are written once. -/
structure OutboxEvent.SameMessage (e e' : OutboxEvent) : Prop where
  message : ∀ token, ClaimedOutboxEvent.ofRow e' token = .ofRow e token
  aggregateType : e'.aggregateType = e.aggregateType
  aggregateId : e'.aggregateId = e.aggregateId

namespace OutboxEvent

theorem SameMessage.refl (e : OutboxEvent) : e.SameMessage e := ⟨fun _ => rfl, rfl, rfl⟩

theorem SameMessage.trans {e e' e'' : OutboxEvent} (h : e.SameMessage e')
    (h' : e'.SameMessage e'') : e.SameMessage e'' :=
  ⟨fun token => (h'.message token).trans (h.message token),
    h'.aggregateType.trans h.aggregateType, h'.aggregateId.trans h.aggregateId⟩

theorem SameMessage.id {e e' : OutboxEvent} (h : e.SameMessage e') : e'.id = e.id :=
  congrArg ClaimedOutboxEvent.eventId (h.message 0)

theorem heldBy_iff {e : OutboxEvent} {eventId token : UUID} :
    e.heldBy eventId token = true ↔
      e.id = eventId ∧ e.status = .publishing ∧ e.claimToken = some token := by
  simp [heldBy, and_assoc]

theorem markPublishFailed_sameMessage (e : OutboxEvent) (failedAt retryAt : Instant)
    (errorMessage : String) (maxAttempts : ℕ) :
    e.SameMessage (e.markPublishFailed failedAt retryAt errorMessage maxAttempts) := by
  unfold markPublishFailed
  dsimp only
  split <;> exact ⟨fun _ => rfl, rfl, rfl⟩

theorem Step.sameMessage {maxAttempts : ℕ} {e e' : OutboxEvent} (h : Step maxAttempts e e') :
    e.SameMessage e' := by
  cases h with
  | keep => exact .refl e
  | claim | publish => exact ⟨fun _ => rfl, rfl, rfl⟩
  | fail token failedAt retryAt errorMessage _ => exact markPublishFailed_sameMessage ..

theorem finalized_sameMessage (publisher : OutboxPublisher) (now : Instant)
    (errorMessage : Option String) (e : OutboxEvent) :
    e.SameMessage (publisher.finalized now errorMessage e) := by
  unfold OutboxPublisher.finalized
  split
  · exact ⟨fun _ => rfl, rfl, rfl⟩
  · exact markPublishFailed_sameMessage ..

theorem applyClaims_sameMessage (claims : List ClaimedOutboxEvent) (now lease : Instant)
    (workerId : String) (e : OutboxEvent) :
    e.SameMessage (e.applyClaims claims now lease workerId) := by
  unfold applyClaims
  split <;> exact ⟨fun _ => rfl, rfl, rfl⟩

/-- A finalization takes the step the publisher's error selects. -/
theorem finalized_step {publisher : OutboxPublisher} {now : Instant}
    {errorMessage : Option String} {e : OutboxEvent} {eventId token : UUID}
    (h_held : e.heldBy eventId token) :
    Step publisher.maxAttempts e (publisher.finalized now errorMessage e) := by
  have h_self : e.heldBy e.id token := heldBy_iff.mpr ⟨rfl, (heldBy_iff.mp h_held).2⟩
  unfold OutboxPublisher.finalized
  split
  · exact .publish e token now h_self
  · exact .fail e token _ _ _ h_self

theorem applyClaims_step {maxAttempts : ℕ} {claims : List ClaimedOutboxEvent}
    {now lease : Instant} {workerId : String} {e : OutboxEvent}
    (h : ∀ c ∈ claims, c.eventId = e.id → e.publishable now) :
    Step maxAttempts e (e.applyClaims claims now lease workerId) := by
  unfold applyClaims
  split
  next c h_find =>
    exact .claim e now lease workerId c.claimToken
      (h c (List.mem_of_find?_eq_some h_find) (of_decide_eq_true (List.find?_some h_find :)))
  next => exact .keep e

end OutboxEvent

/-- The outbox events of one type: their keys, aggregates and payloads. -/
def World.eventsOf (w : World) (eventType : String) : List (String × UUID × Json) :=
  w.outbox.filterMap fun e =>
    if e.eventType = eventType then some (e.eventKey, e.aggregateId, e.payload) else none

theorem eventsOf_map {w w' : World} {f : OutboxEvent → OutboxEvent}
    (hf : ∀ e : OutboxEvent, e.SameMessage (f e)) (h_outbox : w'.outbox = w.outbox.map f)
    (eventType : String) : w'.eventsOf eventType = w.eventsOf eventType := by
  unfold World.eventsOf
  rw [h_outbox, List.filterMap_map]
  refine List.filterMap_congr fun e _ => ?_
  have h_message := (hf e).message 0
  simp only [ClaimedOutboxEvent.ofRow, ClaimedOutboxEvent.mk.injEq] at h_message
  obtain ⟨-, -, -, h_type, h_key, h_payload, -⟩ := h_message
  simp only [Function.comp_apply, h_type, h_key, h_payload, (hf e).aggregateId]

/-- A new event is one more of its type. -/
theorem eventsOf_append {w w' : World} {e : OutboxEvent} (h_outbox : w'.outbox = w.outbox ++ [e])
    (eventType : String) : w'.eventsOf eventType = w.eventsOf eventType ++
      if e.eventType = eventType then [(e.eventKey, e.aggregateId, e.payload)] else [] := by
  unfold World.eventsOf
  rw [h_outbox, List.filterMap_append]
  split <;> simp_all

end NotificationBroker
