import NotificationBroker.Db.Repositories.Outbox

/-!
# The outbox publisher

`OutboxPublisher.publish_due_events`: claim a batch of events, hand each to the
broker and record what became of it.
-/

namespace NotificationBroker

open Python

structure OutboxPublisher where
  workerId : String
  leaseDuration : ℤ
  retryDelay : ℤ
  maxAttempts : ℕ

namespace OutboxPublisher

/-- `_event_envelope`. -/
def eventEnvelope (claim : ClaimedOutboxEvent) : Json :=
  .obj [("schema_version", .int 1),
    ("event_id", .str claim.eventId.str),
    ("event_type", .str claim.eventType),
    ("occurred_at", .str claim.occurredAt.asUtc.isoformat),
    ("data", claim.payload)]

/-- The record `KafkaEventPublisher.publish` sends for a claim. -/
def kafkaRecord (claim : ClaimedOutboxEvent) : KafkaRecord :=
  ⟨claim.topic, claim.eventKey, (eventEnvelope claim).text⟩

/-- `self._event_publisher.publish(…)`: the message of the exception it raises,
if it raises one. -/
def publish (claim : ClaimedOutboxEvent) : Program (Option String) :=
  perform fun _ i w =>
    match i with
    | .ack => some (none, { w with accepted := w.accepted ++ [kafkaRecord claim] })
    -- the broker may have taken the record although the call raises
    | .nack accepted message =>
      some (some message, { w with
        accepted := w.accepted ++ if accepted then [kafkaRecord claim] else [] })
    | _ => none

/-- The new value of a claimed row, given the publisher's error if there was one. -/
def finalized (publisher : OutboxPublisher) (now : Instant) (errorMessage : Option String)
    (e : OutboxEvent) : OutboxEvent :=
  match errorMessage with
  | none => e.markPublished now
  | some message => e.markPublishFailed now (now + publisher.retryDelay) message
      publisher.maxAttempts

/-- `_finalize_event`. -/
def finalizeEvent (publisher : OutboxPublisher) (claim : ClaimedOutboxEvent) (now : Instant)
    (errorMessage : Option String) : Program (Option OutboxEventStatus) :=
  perform fun p _ w =>
    match w.outbox.find? fun e => e.heldBy claim.eventId claim.claimToken with
    -- the lease has run out and another publisher has taken the event
    | none => some (none, w.record (.eventFinalized p claim.eventId claim.claimToken none))
    | some e =>
      let status := (publisher.finalized now errorMessage e).status
      let event := .eventFinalized p claim.eventId claim.claimToken (some status)
      some (some status, { w.record event with
        outbox := w.outbox.map fun r =>
          if r.heldBy claim.eventId claim.claimToken then publisher.finalized now errorMessage r
          else r })

/-- `_publish_event`. -/
def publishEvent (publisher : OutboxPublisher) (claim : ClaimedOutboxEvent) (now : Instant) :
    Program (Option OutboxEventStatus) := do
  match ← publish claim with
  | some message =>
    publisher.finalizeEvent claim now (some (String.ofList (message.toList.take 1000)))
  | none => publisher.finalizeEvent claim now none

/-- One more claim with the given result. -/
def tally (status : Option OutboxEventStatus) (counts : ℕ × ℕ × ℕ) : ℕ × ℕ × ℕ :=
  match status, counts with
  | some .published, (published, retryable, terminal) => (published + 1, retryable, terminal)
  | some .failedRetryable, (published, retryable, terminal) => (published, retryable + 1, terminal)
  | some .failedTerminal, (published, retryable, terminal) => (published, retryable, terminal + 1)
  -- an event that another publisher has taken is counted nowhere
  | _, counts => counts

/-- The loop over the claims. -/
def publishClaims (publisher : OutboxPublisher) (now : Instant) :
    List ClaimedOutboxEvent → ℕ × ℕ × ℕ → Program (ℕ × ℕ × ℕ)
  | [], counts => pure counts
  | claim :: claims, counts => do
    let result ← publisher.publishEvent claim now
    publisher.publishClaims now claims (tally result counts)

/-- `publish_due_events`. -/
def publishDueEvents (publisher : OutboxPublisher) (limit : ℤ) :
    Program OutboxPublisherResult := do
  let now ← awareUtcNow
  let leaseExpiresAt := now + publisher.leaseDuration
  let claims ← claimDueEvents now limit publisher.workerId leaseExpiresAt
  let counts ← publisher.publishClaims now claims (0, 0, 0)
  return ⟨claims.length, counts.1, counts.2.1, counts.2.2⟩

end OutboxPublisher

end NotificationBroker
