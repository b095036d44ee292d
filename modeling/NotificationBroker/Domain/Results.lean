import NotificationBroker.Domain.Enums
import NotificationBroker.Python.Text

/-!
# Results

What the service and worker calls return.
-/

namespace NotificationBroker

open Python

structure NotificationCreateResult where
  notificationId : UUID
  status : NotificationCreateResultStatus
  recipientCount : ℕ
  deliveryCount : ℕ
deriving DecidableEq

structure NotificationFanoutResult where
  notificationId : UUID
  recipientCount : ℕ
  deliveryCount : ℕ
  nextAttemptAt : Instant
deriving DecidableEq

structure RetryResult where
  notificationId : UUID
  status : ActionInvocationResult
  replayId : Option UUID
  replayedDeliveryCount : ℕ
  requestedAt : Instant
deriving DecidableEq

structure MarkWebNotificationReadResult where
  webNotificationId : UUID
  readAt : Instant
deriving DecidableEq

/-- What an adapter reports about one attempt to deliver. -/
structure DeliveryOutcome where
  status : DeliveryOutcomeStatus
  providerMessageId : Option String
  errorCode : Option String
  errorMessage : Option String
deriving DecidableEq

structure DeliveryWorkerResult where
  claimedCount : ℕ
  processedCount : ℕ
deriving DecidableEq

structure OutboxPublisherResult where
  claimedCount : ℕ
  publishedCount : ℕ
  failedRetryableCount : ℕ
  failedTerminalCount : ℕ
deriving DecidableEq

structure NotificationConsumerResult where
  receivedCount : ℕ
  deadLetteredCount : ℕ
  processedCount : ℕ
  duplicateCount : ℕ
  committedCount : ℕ
deriving DecidableEq

end NotificationBroker
