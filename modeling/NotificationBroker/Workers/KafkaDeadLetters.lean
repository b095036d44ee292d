import NotificationBroker.Python.Base64
import NotificationBroker.Python.JsonRoundTrip
import NotificationBroker.Python.Utf8
import NotificationBroker.Workers.NotificationConsumer

/-!
# Dead letters

`KafkaDeadLetterPublisher.publish`: the record that is written for a message that could not be
decoded, with the message's key and the beginning of its value in Base64.

`sha256(data).hexdigest()` is the parameter `sha256Hex`.
-/

namespace NotificationBroker

open Python

/-- What `publish` hands to the producer. -/
structure DeadLetter where
  topic : String
  key : List UInt8
  value : List UInt8
deriving DecidableEq

structure KafkaDeadLetterPublisher where
  topic : String
  maxOriginalValueBytes : ℕ

namespace KafkaDeadLetterPublisher

variable (publisher : KafkaDeadLetterPublisher)

/-- `raw.key or sha256(raw.value).hexdigest().encode("ascii")`. -/
def encodedKey (sha256Hex : List UInt8 → String) (raw : KafkaRawMessage) : List UInt8 :=
  match raw.key with
  | some (b :: key) => b :: key
  -- `or` takes an empty key for a missing one
  | _ => encodeUtf8 (sha256Hex raw.value)

/-- `b64encode(raw.key).decode("ascii") if raw.key else None`. -/
def keyBase64 (raw : KafkaRawMessage) : Json :=
  match raw.key with
  | some (b :: key) => .str (String.ofList (Base64.b64encode (b :: key)))
  | _ => .null

/-- `raw.value[: self._max_original_value_bytes]`. -/
def boundedValue (raw : KafkaRawMessage) : List UInt8 :=
  raw.value.take publisher.maxOriginalValueBytes

/-- `"original"` of the payload. -/
def originalPayload (raw : KafkaRawMessage) : Json :=
  .obj [("key_base64", keyBase64 raw),
    ("value_base64", .str (String.ofList (Base64.b64encode (publisher.boundedValue raw)))),
    ("value_truncated", .bool ((publisher.boundedValue raw).length < raw.value.length))]

/-- The payload. -/
def payload (message : InvalidNotificationKafkaMessage) : Json :=
  .obj [("schema_version", .int 1),
    ("error", .obj [("code", .str message.errorCode), ("message", .str message.errorMessage)]),
    ("original", publisher.originalPayload message.rawMessage)]

/-- `publish`. -/
def publish (sha256Hex : List UInt8 → String) (message : InvalidNotificationKafkaMessage) :
    DeadLetter where
  topic := publisher.topic
  key := encodedKey sha256Hex message.rawMessage
  value := encodeUtf8 (publisher.payload message).text

end KafkaDeadLetterPublisher

end NotificationBroker
