import NotificationBroker.Properties.NotStranded
import NotificationBroker.Workers.KafkaEnvelope

/-!
# Events survive the wire

The publisher and the consumer share no code. What the one writes the other has to
accept all the same: `outboxEvents_decoded` reads the bytes of every event that a
creation or a retry can write and finds the event in them.

The payload comes back with the fields of its objects sorted (`Json.sorted`), which is
the same value to Python, and the time of the event as the UTC reading of its instant.
-/

namespace NotificationBroker

open Interleave Python

variable {floatOf : List Char → PyFloat}

namespace OutboxEvent

/-- An event as creations and retries write them, whatever object its payload is. -/
structure Written (floatOf : List Char → PyFloat) (e : OutboxEvent) : Prop where
  eventType : e.eventType = "notification.requested" ∨
    e.eventType = "notification.replay_requested"
  payload : ∃ fields, e.payload = .obj fields
  proper : e.payload.Proper floatOf

variable {e e' : OutboxEvent}

theorem SameMessage.written (h : e.SameMessage e') (h_written : e.Written floatOf) :
    e'.Written floatOf := by
  have h_type : e'.eventType = e.eventType := congrArg ClaimedOutboxEvent.eventType (h.message 0)
  have h_payload : e'.payload = e.payload := congrArg ClaimedOutboxEvent.payload (h.message 0)
  obtain ⟨h₁, h₂, h₃⟩ := h_written
  rw [← h_type] at h₁
  rw [← h_payload] at h₂ h₃
  exact ⟨h₁, h₂, h₃⟩

theorem properItems_str {α : Type} (text : α → String) (items : List α) :
    Json.ProperItems floatOf (items.map fun item => .str (text item)) := by
  induction items with
  | nil => trivial
  | cons item items ih => exact ⟨trivial, ih⟩

theorem Inserted.written (h : e.Inserted) : e.Written floatOf := by
  cases h with
  | requested row now id =>
    exact ⟨.inl rfl, ⟨_, rfl⟩, (by decide : ["notification_id", "source_service"].Nodup), trivial,
      trivial, trivial⟩
  | replayRequested notificationId deliveryIds replayId requestedAt id =>
    exact ⟨.inr rfl, ⟨_, rfl⟩,
      (by decide : ["delivery_ids", "notification_id", "replay_id"].Nodup),
      properItems_str UUID.str deliveryIds, trivial, trivial, trivial⟩

end OutboxEvent

theorem Deployment.Run.outbox_written {d : Deployment} {clock : Instant} {directory : Directory}
    {ls : Schedule} {c : State} (h : d.Run clock directory ls c) :
    ∀ e ∈ c.world.outbox, e.Written floatOf := by
  refine h.always (P := fun w => ∀ e ∈ w.outbox, e.Written floatOf) (by simp [World.initial])
    fun w w' hS hP hM e' he' => ?_
  rcases hM.outbox_origin hS he' with ⟨e, he, maxAttempts, h_step⟩ | h_inserted
  · exact h_step.sameMessage.written (hP e he)
  · exact h_inserted.written

/-! ### The round trip -/

section Decode

open KafkaNotificationConsumer
open OutboxPublisher (eventEnvelope kafkaRecord)

variable {claim : ClaimedOutboxEvent}

theorem nodup_envelopeKeys :
    ["schema_version", "event_id", "event_type", "occurred_at", "data"].Nodup := by decide

/-- The decoder's view of the envelope, under each of its keys. -/
theorem get?_eventEnvelope (claim : ClaimedOutboxEvent) (key : String) :
    (eventEnvelope claim).sorted.get? key = ((eventEnvelope claim).get? key).map Json.sorted := by
  unfold eventEnvelope
  refine Json.get?_sorted ?_ key
  exact nodup_envelopeKeys

theorem eventEnvelope_proper (h : claim.payload.Proper floatOf) :
    (eventEnvelope claim).Proper floatOf :=
  ⟨nodup_envelopeKeys, trivial, trivial, trivial, trivial, h, trivial⟩

theorem decodePayload_kafkaRecord (h : claim.payload.Proper floatOf) :
    decodePayload floatOf (kafkaRecord claim).encoded.value = .ok (eventEnvelope claim).sorted := by
  have h_loads := Json.loads_text (eventEnvelope_proper h)
  have h_value : (decodeUtf8 (kafkaRecord claim).encoded.value).bind (Json.loads floatOf) =
      some (eventEnvelope claim).sorted := by
    rw [KafkaRecord.encoded, decodeUtf8_encodeUtf8, Option.bind_some]
    exact h_loads
  rw [decodePayload, h_value]
  rfl

theorem decodeEventId_eventEnvelope (claim : ClaimedOutboxEvent) :
    decodeEventId (eventEnvelope claim).sorted = .ok claim.eventId := by
  have h_get : (eventEnvelope claim).sorted.get? "event_id" = some (.str claim.eventId.str) :=
    get?_eventEnvelope claim "event_id"
  rw [decodeEventId, h_get]
  dsimp only
  rw [UUID.parse_str]

theorem decodeEventType_eventEnvelope (h : claim.eventType ∈ supportedEventTypes) :
    decodeEventType (eventEnvelope claim).sorted = .ok claim.eventType := by
  have h_get : (eventEnvelope claim).sorted.get? "event_type" = some (.str claim.eventType) :=
    get?_eventEnvelope claim "event_type"
  rw [decodeEventType, h_get]
  dsimp only
  rw [if_pos h]

theorem decodeOccurredAt_eventEnvelope (h : Datetime.InRange claim.occurredAt.instant) :
    decodeOccurredAt (eventEnvelope claim).sorted =
      .ok (.ofInstant claim.occurredAt.instant) := by
  have h_get : (eventEnvelope claim).sorted.get? "occurred_at" =
      some (.str (Datetime.ofInstant claim.occurredAt.instant).isoformat) :=
    get?_eventEnvelope claim "occurred_at"
  rw [decodeOccurredAt, h_get]
  dsimp only
  rw [Datetime.fromisoformat_isoformat h]
  rfl

theorem decodeData_eventEnvelope (h : ∃ fields, claim.payload = .obj fields) :
    decodeData (eventEnvelope claim).sorted = .ok claim.payload.sorted := by
  obtain ⟨fields, h_fields⟩ := h
  have h_get : (eventEnvelope claim).sorted.get? "data" = some claim.payload.sorted :=
    get?_eventEnvelope claim "data"
  rw [decodeData, h_get, h_fields]
  rfl

/-- **The decoder accepts what the publisher sends.** -/
theorem decodeMessage_kafkaRecord (h_type : claim.eventType ∈ supportedEventTypes)
    (h_payload : ∃ fields, claim.payload = .obj fields) (h_proper : claim.payload.Proper floatOf)
    (h_range : Datetime.InRange claim.occurredAt.instant) :
    decodeMessage floatOf (kafkaRecord claim).encoded =
      .ok ⟨claim.eventKey, claim.eventId, claim.eventType, .ofInstant claim.occurredAt.instant,
        claim.payload.sorted, (kafkaRecord claim).encoded⟩ := by
  -- the checks in the order of the decoder: version, identifier, type, time, data, key
  have h_version : checkSchemaVersion (eventEnvelope claim).sorted = .ok () := by
    have h_get : (eventEnvelope claim).sorted.get? "schema_version" = some (.int 1) :=
      get?_eventEnvelope claim "schema_version"
    rw [checkSchemaVersion, h_get]
    rfl
  have h_key : decodeKey (kafkaRecord claim).encoded.key claim.eventId = .ok claim.eventKey := by
    rw [KafkaRecord.encoded, decodeKey, decodeUtf8_encodeUtf8]
    rfl
  simp only [decodeMessage, decodePayload_kafkaRecord h_proper, h_version,
    decodeEventId_eventEnvelope, decodeEventType_eventEnvelope h_type,
    decodeOccurredAt_eventEnvelope h_range, decodeData_eventEnvelope h_payload, h_key, bind,
    Except.bind]
  rfl

/-- The message tells of the event. -/
structure NotificationKafkaMessage.TellsOf (message : NotificationKafkaMessage)
    (e : OutboxEvent) : Prop where
  eventId : message.eventId = e.id
  eventType : message.eventType = e.eventType
  key : message.key = e.eventKey
  payload : message.payload = e.payload.sorted
  occurredAt : message.occurredAt.instant = e.createdAt.instant

/-- **Events survive the wire**: whatever a creation or a retry has written, with any
object as its payload and at any time `datetime` has, the consumer decodes from the bytes
its publisher sends, and never takes it for an invalid record. In every run, that is every
event in the outbox. -/
theorem outboxEvents_decoded (floatOf : List Char → PyFloat) :
    (∀ (e : OutboxEvent) (token : UUID), e.Written floatOf →
      Datetime.InRange e.createdAt.instant →
      ∃ message, decoded floatOf (kafkaRecord (.ofRow e token)).encoded = .valid message ∧
        message.TellsOf e) ∧
    ∀ {d : Deployment} {clock : Instant} {directory : Directory} {ls : Schedule} {c : State},
      d.Run clock directory ls c → ∀ e ∈ c.world.outbox, e.Written floatOf := by
  refine ⟨fun e token h h_range => ?_, fun h_run => h_run.outbox_written⟩
  have h_type : e.eventType ∈ supportedEventTypes := by
    rcases h.eventType with h_eq | h_eq <;> simp [supportedEventTypes, h_eq]
  have h_claim : (ClaimedOutboxEvent.ofRow e token).eventType ∈ supportedEventTypes := h_type
  have h_message := decodeMessage_kafkaRecord h_claim h.payload h.proper h_range
  refine ⟨_, by rw [decoded, h_message], rfl, rfl, rfl, rfl, ?_⟩
  exact Datetime.instant_ofInstant _

/-- A replay of 2026 with quotes and a float in its payload, stored without a time zone. -/
def replayEvent : OutboxEvent :=
  { RetryService.replayRequestedEvent 5 [] 6 0 7 with
    payload := .obj [("ratio", .float (.finite false 15 (-1) (.inl (by decide)))),
      ("note", .str "\"\x7dé\n")]
    createdAt := ⟨1792800000250000, none⟩ }

/-- `float`, on the one number of that payload. -/
def floatOfRatio (text : List Char) : PyFloat :=
  if text = ['1', '.', '5'] then .finite false 15 (-1) (.inl (by decide)) else .nan

theorem replayEvent_decoded :
    (∃ message, decoded floatOfRatio (kafkaRecord (.ofRow replayEvent 8)).encoded =
      .valid message ∧ message.TellsOf replayEvent) ∧
    ∃ c, publishingDeployment.Run 0 (.ofUsers [1] (by decide)) publishingSchedule c ∧
      c.world.outbox.length = 1 ∧ ∀ e ∈ c.world.outbox, e.Written floatOfRatio := by
  obtain ⟨h_decoded, h_outbox⟩ := outboxEvents_decoded floatOfRatio
  obtain ⟨c, h_run, h_rows⟩ := publishingDeployment.exists_run 0 (.ofUsers [1] (by decide))
    publishingSchedule (fun c => decide (c.world.outbox.length = 1)) (by decide +kernel)
  have h_ratio : floatOfRatio (decimalText false 15 (-1)) =
      .finite false 15 (-1) (.inl (by decide)) := by decide
  have h_written : replayEvent.Written floatOfRatio :=
    ⟨.inr rfl, ⟨_, rfl⟩, (by decide : ["ratio", "note"].Nodup), h_ratio, trivial, trivial⟩
  exact ⟨h_decoded replayEvent 8 h_written (by decide), c, h_run, of_decide_eq_true h_rows,
    h_outbox h_run⟩

end Decode

end NotificationBroker
