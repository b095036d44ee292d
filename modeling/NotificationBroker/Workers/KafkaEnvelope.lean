import NotificationBroker.Python.IsoFormat
import NotificationBroker.Python.JsonRoundTrip
import NotificationBroker.Python.Utf8
import NotificationBroker.Workers.NotificationConsumer
import NotificationBroker.Workers.OutboxPublisher

/-!
# Envelopes on the wire

The bytes `KafkaEventPublisher.publish` sends for an event, and
`KafkaNotificationConsumer`, which decodes them. The two are written separately: the
decoder checks the envelope field by field, each failed check with an error code of its
own, and knows nothing of the publisher.

What `float` makes of a number is the parameter `floatOf`, as for `Json.loads`.
-/

namespace NotificationBroker

open Python

/-- What `KafkaEventPublisher.publish` hands to the producer. -/
def KafkaRecord.encoded (record : KafkaRecord) : KafkaRawMessage :=
  ⟨some (encodeUtf8 record.key), encodeUtf8 record.value⟩

/-! ### The decoder -/

structure EnvelopeDecodeError where
  code : String
  message : String
deriving DecidableEq

namespace KafkaNotificationConsumer

/-- `_supported_event_types`. -/
def supportedEventTypes : List String := ["notification.requested", "notification.replay_requested"]

/-- `value == 1`: an integer, a boolean and a float can equal one. -/
def equalsOne : Option Json → Bool
  | some (.int n) => n = 1
  | some (.bool b) => b
  | some (.float (.finite negative mantissa exponent _)) =>
    ¬ negative ∧ mantissa = 1 ∧ exponent = 0
  | _ => false

/-- `_decode_payload`. -/
def decodePayload (floatOf : List Char → PyFloat) (value : List UInt8) :
    Except EnvelopeDecodeError Json :=
  match (decodeUtf8 value).bind (Json.loads floatOf) with
  | none => .error ⟨"invalid_json", "Kafka notification payload must be valid JSON"⟩
  | some (.obj fields) => .ok (.obj fields)
  | some _ => .error ⟨"invalid_envelope", "Kafka notification envelope must be an object"⟩

def checkSchemaVersion (envelope : Json) : Except EnvelopeDecodeError Unit :=
  if equalsOne (envelope.get? "schema_version") then .ok ()
  else .error ⟨"unsupported_schema_version", "Kafka notification schema_version must be 1"⟩

def decodeEventId (envelope : Json) : Except EnvelopeDecodeError UUID :=
  let invalid : EnvelopeDecodeError :=
    ⟨"invalid_event_id", "Kafka notification event_id must be a UUID"⟩
  match envelope.get? "event_id" with
  | some (.str rawEventId) =>
    match UUID.parse rawEventId with
    | some eventId => .ok eventId
    | none => .error invalid
  | _ => .error invalid

def decodeEventType (envelope : Json) : Except EnvelopeDecodeError String :=
  let unsupported : EnvelopeDecodeError :=
    ⟨"unsupported_event_type", "Kafka notification event_type is unsupported"⟩
  match envelope.get? "event_type" with
  | some (.str eventType) =>
    if eventType ∈ supportedEventTypes then .ok eventType else .error unsupported
  | _ => .error unsupported

def decodeOccurredAt (envelope : Json) : Except EnvelopeDecodeError Datetime :=
  let naive : EnvelopeDecodeError :=
    ⟨"invalid_occurred_at", "Kafka notification occurred_at must include a timezone"⟩
  match envelope.get? "occurred_at" with
  | some (.str rawOccurredAt) =>
    match Datetime.fromisoformat rawOccurredAt with
    | none => .error ⟨"invalid_occurred_at", "Kafka notification occurred_at must be ISO-8601"⟩
    | some occurredAt => if occurredAt.utcoffset = none then .error naive else .ok occurredAt
  -- what is no string has no timezone either
  | _ => .error naive

def decodeData (envelope : Json) : Except EnvelopeDecodeError Json :=
  match envelope.get? "data" with
  | some (.obj fields) => .ok (.obj fields)
  | _ => .error ⟨"invalid_data", "Kafka notification data must be an object"⟩

/-- `_decode_key`. -/
def decodeKey (key : Option (List UInt8)) (eventId : UUID) : Except EnvelopeDecodeError String :=
  match key with
  -- a record without a key is taken under its event's identifier
  | none => .ok eventId.str
  | some bytes =>
    match decodeUtf8 bytes with
    | some text => .ok text
    | none => .error ⟨"invalid_key", "Kafka notification key must be UTF-8"⟩

/-- `_decode_message`. -/
def decodeMessage (floatOf : List Char → PyFloat) (rawMessage : KafkaRawMessage) :
    Except EnvelopeDecodeError NotificationKafkaMessage := do
  let envelope ← decodePayload floatOf rawMessage.value
  checkSchemaVersion envelope
  let eventId ← decodeEventId envelope
  let eventType ← decodeEventType envelope
  let occurredAt ← decodeOccurredAt envelope
  let data ← decodeData envelope
  let key ← decodeKey rawMessage.key eventId
  return ⟨key, eventId, eventType, occurredAt, data, rawMessage⟩

/-- What `consume_one` returns for a record. -/
def decoded (floatOf : List Char → PyFloat) (rawMessage : KafkaRawMessage) : Polled :=
  match decodeMessage floatOf rawMessage with
  | .ok message => .valid message
  | .error e => .invalid ⟨rawMessage, e.code, e.message⟩

end KafkaNotificationConsumer

end NotificationBroker
