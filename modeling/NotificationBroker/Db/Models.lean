import NotificationBroker.Domain.Enums
import NotificationBroker.Python.Json
import NotificationBroker.Python.Text

/-!
# Table rows

The rows of the tables the modelled code reads and writes. Times are instants:
the columns are `timestamptz` and every writer passes an aware UTC value, the
creation time of an outbox event excepted, which the publisher reads back as a
`datetime` of either kind.
-/

namespace NotificationBroker

open Python

/-- `notification_requests`. -/
structure Notification where
  id : UUID
  sourceService : String
  message : String
  severity : Severity
  audienceType : AudienceType
  audience : Json
  channels : List String
  idempotencyKey : Option String
  payloadFingerprint : String
  deduplicationHash : Option String
  deduplicationWindowStart : Option Instant
  recipientCount : ℕ
  deliveryCount : ℕ
  createdAt : Instant

/-- `notification_recipients`. -/
structure Recipient where
  id : UUID
  notificationId : UUID
  userId : UUID
  createdAt : Instant
deriving DecidableEq

/-- `notification_deliveries`. -/
structure Delivery where
  id : UUID
  notificationRecipientId : UUID
  notificationId : UUID
  userId : UUID
  channel : String
  status : DeliveryStatus
  attemptCount : ℕ
  maxAttempts : ℕ
  nextAttemptAt : Instant
  processingStartedAt : Option Instant
  leaseExpiresAt : Option Instant
  claimedBy : Option String
  claimToken : Option UUID
  replayId : Option UUID
  readAt : Option Instant
  deliveredAt : Option Instant
  providerMessageId : Option String
  lastErrorCode : Option String
  lastErrorMessage : Option String
  createdAt : Instant
  updatedAt : Instant
deriving DecidableEq

/-- `delivery_attempts`. -/
structure DeliveryAttempt where
  id : UUID
  deliveryId : UUID
  attemptNumber : ℕ
  status : DeliveryStatus
  errorCode : Option String
  errorMessage : Option String
  providerMessageId : Option String
  startedAt : Instant
  finishedAt : Option Instant
deriving DecidableEq

/-- `notification_action_invocations`: the audit trail of retry requests. -/
structure ActionInvocation where
  id : UUID
  notificationId : UUID
  webDeliveryId : Option UUID
  requestedByType : RequestedByType
  requestedById : String
  result : ActionInvocationResult
  replayId : Option UUID
  replayedDeliveryCount : ℕ
  createdAt : Instant
deriving DecidableEq

/-- `outbox_events`. -/
structure OutboxEvent where
  id : UUID
  topic : String
  eventType : String
  aggregateType : String
  aggregateId : UUID
  eventKey : String
  payload : Json
  status : OutboxEventStatus
  attempts : ℕ
  nextAttemptAt : Instant
  leaseExpiresAt : Option Instant
  claimedBy : Option String
  claimToken : Option UUID
  publishedAt : Option Instant
  lastError : Option String
  createdAt : Datetime
  updatedAt : Instant

/-- `processed_events`. -/
structure ProcessedEvent where
  eventId : UUID
  consumerName : String
  processedAt : Instant
deriving DecidableEq

/-! ### Constraints -/

/-- `ck_notification_requests_deduplication_present`. -/
def Notification.deduplicationPresent (n : Notification) : Bool :=
  n.idempotencyKey.isSome || (n.deduplicationHash.isSome && n.deduplicationWindowStart.isSome)

/-- The two partial unique indexes of `notification_requests`: one on the source
and the key where there is a key, one on the source, the hash and the window
where there is none. SQL compares no `NULL` equal to another. -/
def Notification.conflicts (a b : Notification) : Bool :=
  decide (a.sourceService = b.sourceService) &&
    ((a.idempotencyKey.isSome && decide (a.idempotencyKey = b.idempotencyKey)) ||
      (a.idempotencyKey.isNone && b.idempotencyKey.isNone &&
        a.deduplicationHash.isSome && decide (a.deduplicationHash = b.deduplicationHash) &&
        a.deduplicationWindowStart.isSome &&
        decide (a.deduplicationWindowStart = b.deduplicationWindowStart)))

/-- `uq_notification_recipients_notification_user`. -/
def Recipient.conflicts (a b : Recipient) : Bool :=
  decide (a.notificationId = b.notificationId) && decide (a.userId = b.userId)

/-- `uq_notification_deliveries_recipient_channel`. -/
def Delivery.conflicts (a b : Delivery) : Bool :=
  decide (a.notificationRecipientId = b.notificationRecipientId) && decide (a.channel = b.channel)

/-- `ck_notification_deliveries_attempt_bounds`. -/
def Delivery.attemptBounds (d : Delivery) : Bool :=
  decide (0 < d.maxAttempts) && decide (d.attemptCount ≤ d.maxAttempts)

/-- `uq_delivery_attempts_delivery_attempt_number`. -/
def DeliveryAttempt.conflicts (a b : DeliveryAttempt) : Bool :=
  decide (a.deliveryId = b.deliveryId) && decide (a.attemptNumber = b.attemptNumber)

/-- The primary key of `processed_events`. -/
def ProcessedEvent.conflicts (a b : ProcessedEvent) : Bool :=
  decide (a.eventId = b.eventId) && decide (a.consumerName = b.consumerName)

theorem Notification.conflicts_symm (a b : Notification) : a.conflicts b = b.conflicts a := by
  unfold Notification.conflicts
  by_cases h_key : a.idempotencyKey = b.idempotencyKey <;>
    by_cases h_hash : a.deduplicationHash = b.deduplicationHash <;>
    by_cases h_window : a.deduplicationWindowStart = b.deduplicationWindowStart <;>
    by_cases h_source : a.sourceService = b.sourceService <;>
    simp [h_key, h_hash, h_window, h_source, Ne.symm, Bool.and_comm]

theorem Recipient.conflicts_symm (a b : Recipient) : a.conflicts b = b.conflicts a := by
  simp [Recipient.conflicts, eq_comm]

theorem Delivery.conflicts_symm (a b : Delivery) : a.conflicts b = b.conflicts a := by
  simp [Delivery.conflicts, eq_comm]

theorem Recipient.conflicts_iff {a b : Recipient} :
    a.conflicts b = true ↔ a.notificationId = b.notificationId ∧ a.userId = b.userId := by
  simp [Recipient.conflicts]

theorem Delivery.conflicts_iff {a b : Delivery} :
    a.conflicts b = true ↔
      a.notificationRecipientId = b.notificationRecipientId ∧ a.channel = b.channel := by
  simp [Delivery.conflicts]

end NotificationBroker
