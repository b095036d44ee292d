import NotificationBroker.Db.UnitOfWork

/-!
# The outbox repository

The queries and row updates of `OutboxRepository`.
-/

namespace NotificationBroker

open Python

namespace OutboxEvent

/-- `_publishable_event_predicate`. -/
def publishable (e : OutboxEvent) (now : Instant) : Bool :=
  ((decide (e.status = .pending) || decide (e.status = .failedRetryable)) &&
      decide (e.nextAttemptAt ≤ now)) ||
    (decide (e.status = .publishing) &&
      match e.leaseExpiresAt with
      | some lease => decide (lease < now)
      | none => false)

/-- `ORDER BY next_attempt_at, created_at, id`. -/
def before (a b : OutboxEvent) : Prop :=
  a.nextAttemptAt < b.nextAttemptAt ∨ (a.nextAttemptAt = b.nextAttemptAt ∧
    (a.createdAt.instant < b.createdAt.instant ∨
      (a.createdAt.instant = b.createdAt.instant ∧ a.id ≤ b.id)))

instance : DecidableRel before := fun a b => by unfold before; infer_instance

/-- What `claim_due_events` writes to a row it has selected. -/
def claim (e : OutboxEvent) (now leaseExpiresAt : Instant) (workerId : String) (token : UUID) :
    OutboxEvent :=
  { e with
    status := .publishing
    claimedBy := some workerId
    claimToken := some token
    leaseExpiresAt := some leaseExpiresAt
    updatedAt := now }

/-- `mark_published`. -/
def markPublished (e : OutboxEvent) (publishedAt : Instant) : OutboxEvent :=
  { e with
    status := .published
    publishedAt := some publishedAt
    nextAttemptAt := publishedAt
    claimedBy := none
    claimToken := none
    leaseExpiresAt := none
    lastError := none
    updatedAt := publishedAt }

/-- `mark_publish_failed`. -/
def markPublishFailed (e : OutboxEvent) (failedAt retryAt : Instant) (errorMessage : String)
    (maxAttempts : ℕ) : OutboxEvent :=
  let failed := { e with
    attempts := e.attempts + 1
    lastError := some errorMessage
    claimedBy := none
    claimToken := none
    leaseExpiresAt := none
    updatedAt := failedAt }
  -- the last attempt
  if maxAttempts ≤ failed.attempts then
    { failed with status := .failedTerminal, nextAttemptAt := failedAt }
  else { failed with status := .failedRetryable, nextAttemptAt := retryAt }

end OutboxEvent

/-- `ClaimedOutboxEvent`: what a publisher remembers of a row it has claimed. -/
structure ClaimedOutboxEvent where
  eventId : UUID
  claimToken : UUID
  topic : String
  eventType : String
  eventKey : String
  payload : Json
  occurredAt : Datetime

/-- The claim of a row under a token. -/
def ClaimedOutboxEvent.ofRow (e : OutboxEvent) (token : UUID) : ClaimedOutboxEvent :=
  ⟨e.id, token, e.topic, e.eventType, e.eventKey, e.payload, e.createdAt⟩

namespace OutboxEvent

/-- The `WHERE` clause of `get_claimed_event_for_update`. -/
def heldBy (e : OutboxEvent) (eventId token : UUID) : Bool :=
  decide (e.id = eventId) && decide (e.status = .publishing) && decide (e.claimToken = some token)

/-- The new value of a row under a list of claims. -/
def applyClaims (claims : List ClaimedOutboxEvent) (now leaseExpiresAt : Instant)
    (workerId : String) (e : OutboxEvent) : OutboxEvent :=
  match claims.find? fun c => c.eventId = e.id with
  | some c => e.claim now leaseExpiresAt workerId c.claimToken
  | none => e

end OutboxEvent

/-- The rows `claim_due_events` selects. -/
def dueEvents (rows : List OutboxEvent) (now : Instant) (limit : ℕ) (skipped : List UUID) :
    List OutboxEvent :=
  ((rows.filter fun e => e.publishable now ∧ e.id ∉ skipped).insertionSort OutboxEvent.before).take
    limit

/-- `claim_due_events` and the commit that follows it. -/
def claimDueEvents (now : Instant) (limit : ℤ) (workerId : String) (leaseExpiresAt : Instant) :
    Program (List ClaimedOutboxEvent) :=
  if limit ≤ 0 then pure []
  else perform fun p i w =>
    match i with
    | .claim skipped tokens =>
      let selected := dueEvents w.outbox now limit.toNat skipped
      let claims := List.zipWith ClaimedOutboxEvent.ofRow selected tokens
      -- `uuid4()` for every row
      if w.AllFresh tokens ∧ tokens.length = selected.length then
        some (claims, { w.issue p tokens with
          outbox := w.outbox.map (OutboxEvent.applyClaims claims now leaseExpiresAt workerId) })
      else none
    | _ => none

end NotificationBroker
