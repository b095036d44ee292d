import NotificationBroker.Db.Repositories.Notifications

/-!
# The retry service

`RetryService`: move the failed deliveries of a notification back into the queue,
with one outbox event and one audit row for the request.

The eligible rows are listed first and claimed by a conditional `UPDATE`
afterwards. The `UPDATE`, the outbox event, the audit row and the commit are one
action, `commitRetry`.
-/

namespace NotificationBroker

open Python

namespace RetryService

/-- `_replay_requested_event`. -/
def replayRequestedEvent (notificationId : UUID) (deliveryIds : List UUID) (replayId : UUID)
    (requestedAt : Instant) (id : UUID) : OutboxEvent where
  id := id
  topic := "notifications.requests"
  eventType := "notification.replay_requested"
  aggregateType := "notification_request"
  aggregateId := notificationId
  eventKey := replayId.str
  payload := .obj [("delivery_ids", .arr (deliveryIds.map fun deliveryId => .str deliveryId.str)),
    ("notification_id", .str notificationId.str),
    ("replay_id", .str replayId.str)]
  status := .pending
  attempts := 0
  nextAttemptAt := requestedAt
  leaseExpiresAt := none
  claimedBy := none
  claimToken := none
  publishedAt := none
  lastError := none
  createdAt := .ofInstant requestedAt
  updatedAt := requestedAt

/-- Who asked for a retry, and through which web notification. -/
structure Requester where
  requestedByType : RequestedByType
  requestedById : String
  webDeliveryId : Option UUID

/-- The audit row of `_record_retry`. -/
def invocation (requester : Requester) (notificationId : UUID) (replayId : Option UUID)
    (replayedDeliveryCount : ℕ) (requestedAt : Instant) (id : UUID) : ActionInvocation where
  id := id
  notificationId := notificationId
  webDeliveryId := requester.webDeliveryId
  requestedByType := requester.requestedByType
  requestedById := requester.requestedById
  result := if replayId.isSome then .queued else .noEligible
  replayId := replayId
  replayedDeliveryCount := replayedDeliveryCount
  createdAt := requestedAt

/-- The statements of `_record_retry` and the commit, for the deliveries listed
as eligible: the replay identifier, if any row was moved, and the moved rows. -/
def commitRetry (requester : Requester) (notificationId : UUID) (eligible : List UUID)
    (requestedAt : Instant) : Program (Option UUID × ℕ) :=
  perform fun p i w =>
    match i with
    | .retry skipped candidateReplayId eventId invocationId =>
      if w.AllFresh [candidateReplayId, eventId, invocationId] then
        -- the rows that the `UPDATE` returns
        let replayed := markDeliveriesReplayRequested w.deliveries.committed eligible skipped
        let replayId := if replayed = [] then none else some candidateReplayId
        some ((replayId, replayed.length),
          { w.issue p [candidateReplayId, eventId, invocationId] with
            deliveries := w.deliveries.modify fun d =>
              if d.replayable eligible skipped then d.requestReplay candidateReplayId requestedAt
              else d
            -- without a row there is no event, and the audit row says so
            outbox := w.outbox ++ if replayed = [] then [] else
              [replayRequestedEvent notificationId replayed candidateReplayId requestedAt eventId]
            invocations := w.invocations ++
              [invocation requester notificationId replayId replayed.length requestedAt
                invocationId] })
      else none
    | _ => none

/-- `_record_retry`. -/
def recordRetry (requester : Requester) (notificationId : UUID) (eligible : List Delivery)
    (requestedAt : Instant) : Program RetryResult := do
  let (replayId, replayedDeliveryCount) ←
    commitRetry requester notificationId (eligible.map Delivery.id) requestedAt
  return ⟨notificationId, if replayId.isSome then .queued else .noEligible, replayId,
    replayedDeliveryCount, requestedAt⟩

/-- The part `retry_notification` and `retry_notification_for_service` share:
`permitted` is the ownership check the latter makes. -/
def retryAll (permitted : Notification → Except PyError Unit) (notificationId : UUID)
    (requester : Requester) : Program RetryResult := do
  let requestedAt ← awareUtcNow
  unitOfWork do
    match ← query fun p w => getNotification (w.notifications.visible p) notificationId with
    | none => throw (.valueError "notification does not exist")
    | some notification => do
      compute (permitted notification)
      -- the rows are read here and updated below: they may have changed in between
      let eligible ← query fun p w =>
        listFailedRetryableDeliveries (w.deliveries.visible p) notification.id
      recordRetry requester notification.id eligible requestedAt

/-- `retry_notification`. -/
def retryNotification (notificationId : UUID) (requestedByType : RequestedByType)
    (requestedById : String) : Program RetryResult :=
  retryAll (fun _ => .ok ()) notificationId ⟨requestedByType, requestedById, none⟩

/-- `retry_notification_for_service`. -/
def retryNotificationForService (notificationId : UUID) (requestedById : String)
    (canRetryAny : Bool) : Program RetryResult :=
  retryAll (fun notification =>
      if ¬ canRetryAny ∧ notification.sourceService ≠ requestedById then
        .error (.permissionError "service cannot retry notification")
      else .ok ())
    notificationId ⟨.service, requestedById, none⟩

/-- `retry_user_notification`. -/
def retryUserNotification (webNotificationId userId : UUID) : Program RetryResult := do
  let requestedAt ← awareUtcNow
  unitOfWork do
    match ← query fun p w =>
        getVisibleWebDeliveryForUser (w.deliveries.visible p) webNotificationId userId with
    -- not there, not visible, or of another user
    | none => throw (.valueError "web notification does not exist")
    | some webDelivery =>
      match ← query fun p w =>
          getNotification (w.notifications.visible p) webDelivery.notificationId with
      | none => throw (.valueError "notification does not exist")
      | some notification => do
        let eligible ← query fun p w =>
          listUserRetryableSiblingDeliveries (w.deliveries.visible p) webDelivery
        recordRetry ⟨.user, userId.str, some webDelivery.id⟩ notification.id eligible requestedAt

end RetryService

end NotificationBroker
