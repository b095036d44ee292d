import NotificationBroker.Properties.AcceptedRecords

/-!
# Everything arrives

The pipeline from a request to its deliveries has three stages that know nothing of each other:
the outbox, the topic and the deliveries. `everything_arrives` puts together what each of them
promises to the next. When no stage has anything left to do, then everyone in the audience of a
notification has a delivered row for every channel, however often calls have crashed, events have
been sent again and records have been handled again on the way.

The pieces are a requested event for every committed notification (`Created`), the record of every
published event (`PublishedAccepted`), a committed fan-out for every processed event
(`Deployment.Run.processed_origin`) and the rows of every committed fan-out (`FanoutsComplete`).
-/

namespace NotificationBroker

open Interleave Python
open ReadCommitted (Table)
open KafkaNotificationConsumer (decoded)

/-- The consumers handle records of the topic. -/
def Deployment.ReadsTopic (d : Deployment) (floatOf : List Char → PyFloat) (w : World) : Prop :=
  ∀ p service consumerName message, d.calls p = .consume service consumerName message →
    ∃ record ∈ w.accepted, decoded floatOf record.encoded = .valid message

/-- No stage of the pipeline has anything left to do, and none has given up. -/
structure Quiescent (floatOf : List Char → PyFloat) (consumerName : String) (w : World) : Prop where
  published : ∀ e ∈ w.outbox, e.status = .published
  consumed : ∀ record ∈ w.accepted, ∀ message, decoded floatOf record.encoded = .valid message →
    w.ProcessedBy consumerName message.eventId
  delivered : ∀ r ∈ w.deliveries.committed, r.status = .delivered

/-- Everyone of them has one delivery on each channel of the notification, and it is delivered. -/
def ArrivedFor (w : World) (n : Notification) (userIds : List UUID) : Prop :=
  ∀ userId ∈ userIds, ∀ channel ∈ n.channels,
    ∃! r, r ∈ w.deliveriesOf n.id ∧ r.pair = (userId, channel) ∧ r.status = .delivered

section Runs

variable {d : Deployment} {clock : Instant} {directory : Directory} {ls : Schedule} {c : State}
  {floatOf : List Char → PyFloat} {consumerName : String}

/-- A committed notification has an event in the outbox. -/
theorem Deployment.Run.requested_event (h : d.Run clock directory ls c) {n : Notification}
    (hn : n ∈ c.world.notifications.committed) :
    ∃ e ∈ c.world.outbox, namedNotification e.payload.sorted = some n.id := by
  have h_mem : n.requestedMessage ∈ c.world.eventsOf "notification.requested" :=
    h.created.events ▸ List.mem_map_of_mem hn
  obtain ⟨e, he, h_some⟩ := List.mem_filterMap.mp h_mem
  refine ⟨e, he, ?_⟩
  split at h_some
  · rw [(Prod.mk.inj (Prod.mk.inj (Option.some.inj h_some)).2).2]
    exact namedNotification_requested n.id n.sourceService
  · exact absurd h_some (by simp)

/-- A record that has been processed has been fanned out. -/
theorem Deployment.Run.event_fannedOut (h : d.Run clock directory ls c)
    (h_range : ∀ e ∈ c.world.outbox, Datetime.InRange e.createdAt.instant)
    (h_topic : d.ReadsTopic floatOf c.world) {e : OutboxEvent} (he : e ∈ c.world.outbox)
    (h_processed : c.world.ProcessedBy consumerName e.id) :
    ∃ p id, namedNotification e.payload.sorted = some id ∧
      .fanoutCommitted p id ∈ c.world.history := by
  obtain ⟨row, h_row, h_id, -⟩ := h_processed
  obtain ⟨p, service, message, id, h_call, h_event, h_names, h_committed⟩ :=
    h.processed_origin h_row
  -- the consumer's record is the record of this event
  obtain ⟨record, h_record, h_valid⟩ := h_topic p service row.consumerName message h_call
  obtain ⟨e', he', rfl⟩ := h.accepted_origin h_record
  obtain ⟨message', h_decoded, h_tells⟩ := (h.outbox_written e' he').decoded (h_range e' he')
  obtain rfl := Polled.valid.inj (h_decoded.symm.trans h_valid)
  obtain rfl : e' = e :=
    h.sound.event_eq he' he (h_tells.eventId.symm.trans (h_event.trans h_id))
  exact ⟨p, id, h_tells.payload ▸ h_names, h_committed⟩

/-- **Everything arrives.** In every state of every run in which all events are published, all
records are processed and all deliveries are delivered: everyone who was in the audience of a
notification at some moment since its creation has one delivery on each of its channels, and it
is delivered. -/
theorem everything_arrives (h : d.Run clock directory ls c)
    (h_range : ∀ e ∈ c.world.outbox, Datetime.InRange e.createdAt.instant)
    (h_topic : d.ReadsTopic floatOf c.world) (h_done : Quiescent floatOf consumerName c.world) :
    ∀ n ∈ c.world.notifications.committed, ∃ userIds,
      (∃ ls₀ ls₁ c₀, ls = ls₀ ++ ls₁ ∧ d.Run clock directory ls₀ c₀ ∧
        (∃ n₀ ∈ c₀.world.notifications.committed, n₀.id = n.id) ∧
        c₀.world.directory.audienceOf n = .ok userIds) ∧
      ArrivedFor c.world n userIds := by
  intro n hn
  -- its event has been accepted by the broker, and can be decoded
  obtain ⟨e, he, h_names⟩ := h.requested_event hn
  obtain ⟨message, h_decoded, h_tells⟩ := (h.outbox_written e he).decoded (h_range e he)
  have h_record := h.publishedAccepted e he (h_done.published e he)
  -- the record has been consumed, and so fanned out to an audience of the past
  have h_processed := h_done.consumed _ h_record message h_decoded
  rw [h_tells.eventId] at h_processed
  obtain ⟨p, id, h_names', h_committed⟩ := h.event_fannedOut h_range h_topic he h_processed
  obtain rfl := Option.some.inj (h_names.symm.trans h_names')
  obtain ⟨n', userIds, h_id, ⟨w, h_w, h_n, h_audience⟩, h_rows⟩ := h.fanoutsComplete p n.id
    h_committed
  obtain rfl := h.sound.committed_notification_eq h_rows.committed hn h_id
  obtain ⟨ls₀, ls₁, c₀, h_split, h_run, rfl⟩ := Deployment.mem_states h_w
  refine ⟨userIds, ⟨ls₀, ls₁, c₀, h_split, h_run, h_n, h_audience⟩, fun userId h_user channel
    h_channel => ?_⟩
  -- each of the deliveries has been made, and there is one for a user and a channel
  obtain ⟨r, hr, h_pair⟩ := h_rows.deliveries userId h_user channel h_channel
  refine ⟨r, ⟨hr, h_pair, h_done.delivered r (List.mem_of_mem_filter hr)⟩, ?_⟩
  rintro r' ⟨hr', h_pair', -⟩
  exact List.inj_on_of_nodup_map (h.sound.deliveriesOf_nodup _) hr' hr (h_pair'.trans h_pair.symm)

end Runs

/-- What a publisher remembers of the event of a request. -/
def arrivingClaim : ClaimedOutboxEvent where
  eventId := 11
  claimToken := 31
  topic := "notifications.requests"
  eventType := "notification.requested"
  eventKey := UUID.str 10
  payload := .obj [("notification_id", .str (UUID.str 10)), ("source_service", .str "orders")]
  occurredAt := .ofInstant 0

/-- What the decoder makes of its record. -/
def arrivingMessage : NotificationKafkaMessage where
  key := arrivingClaim.eventKey
  eventId := arrivingClaim.eventId
  eventType := arrivingClaim.eventType
  occurredAt := .ofInstant arrivingClaim.occurredAt.instant
  payload := arrivingClaim.payload.sorted
  rawMessage := (OutboxPublisher.kafkaRecord arrivingClaim).encoded

theorem decoded_arriving :
    decoded (fun _ => .nan) (OutboxPublisher.kafkaRecord arrivingClaim).encoded =
      .valid arrivingMessage := by
  have h_proper : arrivingClaim.payload.Proper fun _ => .nan :=
    ⟨(by decide : ["notification_id", "source_service"].Nodup), trivial, trivial, trivial⟩
  rw [decoded, decodeMessage_kafkaRecord (by decide) ⟨_, rfl⟩ h_proper (by decide)]
  rfl

/-- A request for two users on two channels, and one poll of each worker. -/
def arrivingDeployment : Deployment := .ofCalls id [
  .createNotification ⟨3600000000⟩ "orders" (.toAll [.web, .email] postInit_web_email) none,
  .publishDueEvents twicePublisher 10,
  .consume {} "consumer" arrivingMessage,
  .processDueDeliveries ⟨[.web, .email], none, "worker", 60000000, 30000000⟩ 10]

/-- What the adapters answer. -/
def arrivingOutcome : DeliveryOutcome := ⟨.delivered, none, none, none⟩

/-- One stage after the other. -/
def arrivingSchedule : Schedule := [
  .run 0 (.time (.ofInstant 0)), .run 0 .go, .run 0 (.fresh 10), .run 0 (.fresh 11),
  .run 1 (.time (.ofInstant 5)), .run 1 (.claim [] [31]), .run 1 .ack, .run 1 .go,
  .run 2 .go, .run 2 (.time (.ofInstant 6)), .run 2 .go, .run 2 .go, .run 2 .go,
  .run 2 (.fresh 21), .run 2 (.fresh 22), .run 2 .go, .run 2 .go,
  .run 2 (.fresh 23), .run 2 (.fresh 24), .run 2 (.fresh 25), .run 2 (.fresh 26),
  .run 2 .go, .run 2 .go, .run 2 (.time (.ofInstant 7)), .run 2 .go,
  .run 3 (.time (.ofInstant 8)), .run 3 (.claim [] [41, 42, 43, 44]),
  .run 3 .go, .run 3 .go, .run 3 (.adapter (.ok arrivingOutcome)), .run 3 (.fresh 51),
  .run 3 .go, .run 3 .go, .run 3 (.adapter (.ok arrivingOutcome)), .run 3 (.fresh 52),
  .run 3 .go, .run 3 .go, .run 3 (.adapter (.ok arrivingOutcome)), .run 3 (.fresh 53),
  .run 3 .go, .run 3 .go, .run 3 (.adapter (.ok arrivingOutcome)), .run 3 (.fresh 54)]

theorem arriving_readsTopic {w : World}
    (h : w.accepted = [OutboxPublisher.kafkaRecord arrivingClaim]) :
    arrivingDeployment.ReadsTopic (fun _ => .nan) w := by
  intro p service consumerName message h_call
  match p with
  | 2 =>
    obtain ⟨-, -, rfl⟩ := Call.consume.inj h_call
    exact ⟨_, h ▸ List.mem_singleton_self _, decoded_arriving⟩
  | 0 | 1 | 3 | n + 4 => exact absurd h_call (by simp [arrivingDeployment, Deployment.ofCalls])

theorem everything_arrives_pipeline :
    ∃ c, arrivingDeployment.Run 0 (.ofUsers [1, 2] (by decide)) arrivingSchedule c ∧
      c.world.deliveries.committed.length = 4 ∧
      ∃ n ∈ c.world.notifications.committed, ∃ userIds, ArrivedFor c.world n userIds := by
  obtain ⟨c, h_run, h_c⟩ := arrivingDeployment.exists_run 0 (.ofUsers [1, 2] (by decide))
    arrivingSchedule (fun c => decide (
      (c.world.deliveries.committed.length = 4 ∧ c.world.notifications.committed ≠ [] ∧
        ∀ e ∈ c.world.outbox, Datetime.InRange e.createdAt.instant) ∧
      c.world.accepted = [OutboxPublisher.kafkaRecord arrivingClaim] ∧
      (∀ e ∈ c.world.outbox, e.status = .published) ∧
      (∃ row ∈ c.world.processed, row.eventId = 11 ∧ row.consumerName = "consumer") ∧
      ∀ r ∈ c.world.deliveries.committed, r.status = .delivered)) (by decide +kernel)
  obtain ⟨⟨h_length, h_some, h_range⟩, h_accepted, h_published, h_processed, h_delivered⟩ :=
    of_decide_eq_true h_c
  -- the only record is the one that has been consumed
  have h_consumed : ∀ record ∈ c.world.accepted, ∀ message,
      decoded (fun _ => .nan) record.encoded = .valid message →
      c.world.ProcessedBy "consumer" message.eventId := by
    intro record h_record message h_message
    rw [h_accepted, List.mem_singleton] at h_record
    subst h_record
    obtain rfl := Polled.valid.inj (decoded_arriving.symm.trans h_message)
    exact h_processed
  obtain ⟨n, hn⟩ := List.exists_mem_of_ne_nil _ h_some
  obtain ⟨userIds, -, h_arrived⟩ := everything_arrives h_run h_range
    (arriving_readsTopic h_accepted) ⟨h_published, h_consumed, h_delivered⟩ n hn
  exact ⟨c, h_run, h_length, n, hn, userIds, h_arrived⟩

end NotificationBroker
