import NotificationBroker.System.Calls

/-!
# What one action can do

The abstract view of the system: the effects an atomic action of a process `p`
can have on the world, each with what is known when it happens. The programs are
shown to have no other effects in `System.Conformance`; everything else about
whole runs is proved from this list.

* `Effect d p w w'` are the effects a call can have while it is running.
* `Finish d p w w'` are the two commits that a call makes last: that of a new
  notification and that of a retry.

The side conditions speak of the state `w` in which the effect happens, although
the process learned most of them earlier: that other processes cannot invalidate
them is part of what conformance shows.
-/

namespace NotificationBroker

open Interleave Python
open ReadCommitted (Table Verdict)

namespace World

/-- The delivery that `p` has in hand, if any. -/
def workingOf (w : World) (p : Pid) : List Working := w.working.filter fun x => x.pid = p

/-- The fan-out transaction that `p` has open, if any. -/
def fanoutsOf (w : World) (p : Pid) : List Fanout := w.fanouts.filter fun x => x.pid = p

/-- What `p` has read from the clock. -/
def readings (w : World) (p : Pid) : List Datetime :=
  w.history.filterMap fun event =>
    match event with
    | .clockRead q value => if q = p then some value else none
    | _ => none

/-- `p` has read the clock at `now`. -/
def HasRead (w : World) (p : Pid) (now : Instant) : Prop :=
  ∃ value ∈ w.readings p, value.instant = now

end World

/-- `row` is a row the creation call of `p` builds, for some new identifier. -/
def Deployment.Requests (d : Deployment) (p : Pid) (w : World) (row : Notification) : Prop :=
  ∃ service sourceService request idempotencyKey value identity,
    d.calls p = .createNotification service sourceService request idempotencyKey ∧
    value ∈ w.readings p ∧
    service.identity d.sha256 sourceService request idempotencyKey value.instant = .ok identity ∧
    row = NotificationCreationService.newNotification sourceService request identity
      (payloadFingerprint d.sha256 request) value.instant row.id

open NotificationFanoutService DeliveryWorker in
/-- The effects of a running call. -/
inductive Effect (d : Deployment) (p : Pid) (w : World) : World → Prop
  /-- A query, or a statement that fails or is skipped. -/
  | nothing : Effect d p w w
  | readClock (value : Datetime) : Effect d p w (w.record (.clockRead p value))
  | rollback : Effect d p w (w.rollback p)
  | insertNotification (row : Notification) (h_row : d.Requests p w row) (h_fresh : w.Fresh row.id)
      (h_free : w.notifications.verdict Notification.conflicts p row = .free) :
      Effect d p w { w.issue p [row.id] with notifications := w.notifications.insert p row }
  | claimEvents (now leaseExpiresAt : Instant) (workerId : String) (tokens : List UUID)
      (claims : List ClaimedOutboxEvent) (h_tokens : w.AllFresh tokens)
      (h_claims : claims.map ClaimedOutboxEvent.claimToken = tokens)
      (h_due : ∀ c ∈ claims, ∃ e ∈ w.outbox, e.publishable now ∧ c = .ofRow e c.claimToken)
      (h_call : (d.calls p).part = .publisher) (h_reading : w.HasRead p now) :
      Effect d p w { w.issue p tokens with
        outbox := w.outbox.map (OutboxEvent.applyClaims claims now leaseExpiresAt workerId) }
  | publish (claim : ClaimedOutboxEvent) (accepted : Bool) :
      Effect d p w { w with
        accepted := w.accepted ++ if accepted then [OutboxPublisher.kafkaRecord claim] else [] }
  | finalizeEvent (publisher : OutboxPublisher) (claim : ClaimedOutboxEvent) (now : Instant)
      (errorMessage : Option String) (e : OutboxEvent)
      (h_publisher : ∃ limit, d.calls p = .publishDueEvents publisher limit)
      (h_claim : ∃ e ∈ w.outbox, claim = .ofRow e claim.claimToken)
      (h_mem : e ∈ w.outbox) (h_held : e.heldBy claim.eventId claim.claimToken)
      (h_accepted : errorMessage = none → OutboxPublisher.kafkaRecord claim ∈ w.accepted)
      (h_reading : w.HasRead p now) :
      Effect d p w
        { w.record (.eventFinalized p claim.eventId claim.claimToken
            (some (publisher.finalized now errorMessage e).status)) with
          outbox := w.outbox.map fun r =>
            if r.heldBy claim.eventId claim.claimToken then
              publisher.finalized now errorMessage r
            else r }
  | missEvent (claim : ClaimedOutboxEvent)
      (h_none : ∀ e ∈ w.outbox, e.heldBy claim.eventId claim.claimToken = false) :
      Effect d p w (w.record (.eventFinalized p claim.eventId claim.claimToken none))
  | markProcessed (row : ProcessedEvent) :
      Effect d p w { w with processed := w.processed ++ [row] }
  | openFanout (n : Notification) (h_own : w.fanoutsOf p = [])
      (h_mem : n ∈ w.notifications.visible p) (h_call : (d.calls p).part = .consumer) :
      Effect d p w { w with fanouts := w.fanouts ++ [⟨p, n, none, none, none⟩] }
  | resolveAudience (x : Fanout) (userIds : List UUID) (audience : AudienceSelection)
      (h_own : w.fanoutsOf p = [x])
      (h_new : x.userIds = none ∧ x.recipientCount = none ∧ x.deliveryCount = none)
      (h_audience : audienceSelection x.notification = .ok audience)
      (h_resolved : w.directory.resolve audience = .ok userIds) :
      Effect d p w (note p (fun x => { x with userIds := some userIds }) w)
  | insertRecipient (x : Fanout) (userIds : List UUID) (row : Recipient)
      (h_own : w.fanoutsOf p = [x]) (h_users : x.userIds = some userIds)
      (h_uncounted : x.recipientCount = none ∧ x.deliveryCount = none)
      (h_notification : row.notificationId = x.notification.id) (h_user : row.userId ∈ userIds)
      (h_fresh : w.Fresh row.id)
      (h_free : w.recipients.verdict Recipient.conflicts p row = .free) :
      Effect d p w { w.issue p [row.id] with recipients := w.recipients.insert p row }
  | countRecipients (x : Fanout) (h_own : w.fanoutsOf p = [x])
      (h_uncounted : x.recipientCount = none ∧ x.deliveryCount = none) :
      Effect d p w (note p (fun y => { y with recipientCount := some (dictLen
        (listRecipientIdsByUser (w.recipients.visible p) x.notification.id)) }) w)
  | insertDelivery (x : Fanout) (userIds : List UUID) (channels : List Channel)
      (recipient : Recipient) (channel : Channel) (nextAttemptAt : Instant) (row : Delivery)
      (h_own : w.fanoutsOf p = [x]) (h_users : x.userIds = some userIds)
      (h_channels : x.notification.channels.mapM parseChannel = .ok channels)
      (h_uncounted : x.deliveryCount = none)
      (h_recipient : recipient ∈ w.recipients.visible p)
      (h_notification : recipient.notificationId = x.notification.id)
      (h_user : recipient.userId ∈ userIds) (h_channel : channel ∈ channels)
      (h_row : row = deliveryValues recipient.notificationId recipient.userId recipient.id channel
        nextAttemptAt row.id)
      (h_fresh : w.Fresh row.id)
      (h_free : w.deliveries.verdict Delivery.conflicts p row = .free) :
      Effect d p w { w.issue p [row.id] with deliveries := w.deliveries.insert p row }
  | countDeliveries (x : Fanout) (pairs : List (UUID × Channel)) (h_own : w.fanoutsOf p = [x])
      (h_uncounted : x.deliveryCount = none)
      (h_pairs : listDeliveryPairs (w.deliveries.visible p) x.notification.id = .ok pairs) :
      Effect d p w (note p (fun y => { y with deliveryCount := some pairs.length }) w)
  | commitFanout (x : Fanout) (service : NotificationFanoutService) (userIds : List UUID)
      (channels : List Channel) (recipientCount deliveryCount : ℕ)
      (h_service : ∃ consumerName message, d.calls p = .consume service consumerName message)
      (h_own : w.fanoutsOf p = [x]) (h_users : x.userIds = some userIds)
      (h_counts : x.recipientCount = some recipientCount ∧ x.deliveryCount = some deliveryCount)
      (h_channels : x.notification.channels.mapM parseChannel = .ok channels)
      (h_limits : service.withinLimits userIds channels = .ok ())
      (h_recipients : ∀ userId ∈ userIds, ∃ r ∈ w.recipients.visible p,
        r.notificationId = x.notification.id ∧ r.userId = userId)
      (h_deliveries : ∀ userId ∈ userIds, ∀ channel ∈ channels, ∃ r ∈ w.deliveries.visible p,
        r.notificationId = x.notification.id ∧ r.userId = userId ∧ r.channel = channel.value) :
      Effect d p w { w.record (.fanoutCommitted p x.notification.id) with
        notifications :=
          w.notifications.modify (storeCounts x.notification recipientCount deliveryCount)
        recipients := w.recipients.commit p
        deliveries := w.deliveries.commit p
        fanouts := w.fanouts.filter fun y => y.pid ≠ p }
  | claimDeliveries (now leaseExpiresAt : Instant) (workerId : String)
      (channels : Option (List Channel)) (tokens : List UUID) (claims : List ClaimedDelivery)
      (h_tokens : w.AllFresh tokens)
      (h_claims : claims.map ClaimedDelivery.claimToken = tokens)
      (h_due : ∀ c ∈ claims, ∃ r ∈ w.deliveries.committed,
        r.id = c.deliveryId ∧ r.due now channels)
      (h_call : (d.calls p).part = .worker) (h_reading : w.HasRead p now)
      (h_lease : ∃ worker limit, d.calls p = .processDueDeliveries worker limit ∧
        now + worker.leaseDuration = leaseExpiresAt) :
      Effect d p w { (w.issue p tokens).record (.deliveriesClaimed p now channels) with
        deliveries := w.deliveries.modify
          (Delivery.applyClaims claims now leaseExpiresAt workerId) }
  | loadContext (claim : ClaimedDelivery) (delivery : Delivery) (h_own : w.workingOf p = [])
      (h_token : (claim.claimToken, p) ∈ w.issued) (h_mem : delivery ∈ w.deliveries.committed)
      (h_held : delivery.heldBy claim) :
      Effect d p w { w.record (.contextLoaded p claim (some delivery)) with
        working := w.working ++ [⟨p, claim, w.clock, .loaded⟩] }
  | missContext (claim : ClaimedDelivery)
      (h_none : ∀ r ∈ w.deliveries.committed, r.heldBy claim = false) :
      Effect d p w (w.record (.contextLoaded p claim none))
  | beginSend (x : Working) (delivery : Delivery) (h_own : w.workingOf p = [x])
      (h_stage : x.stage = .loaded)
      (h_loaded : .contextLoaded p x.claim (some delivery) ∈ w.history) :
      Effect d p w ((advance p .sending w).record (.adapterCalled p x.claim delivery))
  | endSend (x : Working) (h_own : w.workingOf p = [x]) (h_stage : x.stage = .sending) :
      Effect d p w (advance p .sent w)
  | finalizeDelivery (x : Working) (outcome : DeliveryOutcome) (now retryDelay : ℤ)
      (delivery : Delivery) (attemptId : UUID) (h_own : w.workingOf p = [x])
      (h_stage : x.stage ≠ .sending) (h_token : (x.claim.claimToken, p) ∈ w.issued)
      (h_mem : delivery ∈ w.deliveries.committed) (h_held : delivery.heldBy x.claim)
      (h_bounds : (recordOutcome outcome now retryDelay delivery).attemptBounds)
      (h_unique : w.attempts.any (deliveryAttempt outcome now delivery attemptId).conflicts = false)
      (h_fresh : w.Fresh attemptId) (h_call : (d.calls p).part = .worker)
      (h_delay : ∃ worker limit, d.calls p = .processDueDeliveries worker limit ∧
        worker.retryDelay = retryDelay)
      (h_reading : w.HasRead p now) :
      Effect d p w
        { ((putDown p w).issue p [attemptId]).record (.deliveryFinalized p x.claim true) with
          deliveries := w.deliveries.modify fun r =>
            if r.heldBy x.claim then recordOutcome outcome now retryDelay r else r
          attempts := w.attempts ++ [deliveryAttempt outcome now delivery attemptId] }
  | missDelivery (claim : ClaimedDelivery)
      (h_none : ∀ r ∈ w.deliveries.committed, r.heldBy claim = false) :
      Effect d p w ((putDown p w).record (.deliveryFinalized p claim false))
  /-- A finalization the database rejects. -/
  | dropDelivery (x : Working) (outcome : DeliveryOutcome) (now retryDelay : ℤ)
      (delivery : Delivery) (attemptId : UUID)
      (h_mem : delivery ∈ w.deliveries.committed) (h_held : delivery.heldBy x.claim)
      (h_rejected : ¬ ((recordOutcome outcome now retryDelay delivery).attemptBounds ∧
        ¬ w.attempts.any (deliveryAttempt outcome now delivery attemptId).conflicts)) :
      Effect d p w (putDown p w)
  | markRead (deliveryId : UUID) (readAt : Instant)
      (h_visible : ∀ r ∈ w.deliveries.committed, r.id = deliveryId →
        r.status = .delivered ∧ r.channel = Channel.web.value)
      (h_call : (d.calls p).part = .reader) :
      Effect d p w { w.record (.readMarked p deliveryId) with
        deliveries := w.deliveries.modify fun r =>
          if r.id = deliveryId then r.markRead readAt else r }

open RetryService in
/-- The commits that end a call. -/
inductive Finish (d : Deployment) (p : Pid) (w : World) : World → Prop
  | commitNotification (row : Notification) (now : Instant) (eventId : UUID)
      (h_own : w.notifications.own p = [row]) (h_issued : (row.id, p) ∈ w.issued)
      (h_row : d.Requests p w row) (h_fresh : w.Fresh eventId) :
      Finish d p w { w.issue p [eventId] with
        notifications := w.notifications.commit p
        outbox := w.outbox ++
          [NotificationCreationService.notificationRequestedEvent row now eventId] }
  | commitRetry (requester : Requester) (notificationId : UUID) (eligible skipped : List UUID)
      (requestedAt : Instant) (replayId eventId invocationId : UUID)
      (h_fresh : w.AllFresh [replayId, eventId, invocationId])
      (h_scope : ∀ r ∈ w.deliveries.committed, r.id ∈ eligible →
        r.notificationId = notificationId)
      (h_call : (d.calls p).part = .retry) :
      Finish d p w { w.issue p [replayId, eventId, invocationId] with
        deliveries := w.deliveries.modify fun r =>
          if r.replayable eligible skipped then r.requestReplay replayId requestedAt else r
        outbox := w.outbox ++
          if markDeliveriesReplayRequested w.deliveries.committed eligible skipped = [] then []
          else [replayRequestedEvent notificationId
            (markDeliveriesReplayRequested w.deliveries.committed eligible skipped) replayId
            requestedAt eventId]
        invocations := w.invocations ++
          [invocation requester notificationId
            (if markDeliveriesReplayRequested w.deliveries.committed eligible skipped = [] then none
              else some replayId)
            (markDeliveriesReplayRequested w.deliveries.committed eligible skipped).length
            requestedAt invocationId] }

end NotificationBroker
