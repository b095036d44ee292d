import NotificationBroker.Python.JsonLimits
import NotificationBroker.Workers.KafkaEnvelope

/-!
# Records of any content

`KafkaNotificationConsumer.consume_one` for records that the publisher has not written. The
exceptions of `json.loads` are told apart here, since the consumer catches one of them:
`json.loads` is the parameter `loads`.

With a reader that has no limits this is the consumer of the envelopes
(`consumeOne_unlimited`), and with CPython's limits it is, as long as it returns
(`consumeOne_within`).
-/

namespace NotificationBroker

open Python

/-- The raw record that a result of `consume_one` carries. -/
def Polled.rawMessage : Polled → KafkaRawMessage
  | .valid message => message.rawMessage
  | .invalid message => message.rawMessage

/-- `json.loads`. -/
abbrev JsonLoads := String → Except LoadsError Json

namespace KafkaNotificationConsumer

/-- An exception that `_decode_message` raises. -/
inductive DecodeException
  | envelope (e : EnvelopeDecodeError)
  | loads (e : LoadsError)

/-- `_decode_payload`: `UnicodeDecodeError` and `JSONDecodeError` are caught. -/
def decodePayloadBy (loads : JsonLoads) (value : List UInt8) : Except DecodeException Json :=
  let invalidJson : EnvelopeDecodeError :=
    ⟨"invalid_json", "Kafka notification payload must be valid JSON"⟩
  match decodeUtf8 value with
  | none => .error (.envelope invalidJson)
  | some text =>
    match loads text with
    | .error .jsonDecodeError => .error (.envelope invalidJson)
    | .error e => .error (.loads e)
    | .ok (.obj fields) => .ok (.obj fields)
    | .ok _ =>
      .error (.envelope ⟨"invalid_envelope", "Kafka notification envelope must be an object"⟩)

/-- The part of `_decode_message` behind `_decode_payload`. -/
def decodeEnvelope (rawMessage : KafkaRawMessage) (envelope : Json) :
    Except EnvelopeDecodeError NotificationKafkaMessage := do
  checkSchemaVersion envelope
  let eventId ← decodeEventId envelope
  let eventType ← decodeEventType envelope
  let occurredAt ← decodeOccurredAt envelope
  let data ← decodeData envelope
  let key ← decodeKey rawMessage.key eventId
  return ⟨key, eventId, eventType, occurredAt, data, rawMessage⟩

/-- `_decode_message`. -/
def decodeMessageBy (loads : JsonLoads) (rawMessage : KafkaRawMessage) :
    Except DecodeException NotificationKafkaMessage := do
  let envelope ← decodePayloadBy loads rawMessage.value
  (decodeEnvelope rawMessage envelope).mapError .envelope

/-- `consume_one` for a record: what it returns, or the exception it lets through. -/
def consumeOne (loads : JsonLoads) (rawMessage : KafkaRawMessage) : Except LoadsError Polled :=
  match decodeMessageBy loads rawMessage with
  | .ok message => .ok (.valid message)
  | .error (.envelope e) => .ok (.invalid ⟨rawMessage, e.code, e.message⟩)
  | .error (.loads e) => .error e

/-! ### One reader and another -/

variable {floatOf : List Char → PyFloat} {loads : JsonLoads} {rawMessage : KafkaRawMessage}

/-- What the consumer makes of an envelope that has been read. -/
def polledOf (rawMessage : KafkaRawMessage) (envelope : Json) : Polled :=
  match decodeEnvelope rawMessage envelope with
  | .ok message => .valid message
  | .error e => .invalid ⟨rawMessage, e.code, e.message⟩

/-- `consume_one`, by what `json.loads` makes of the value. -/
theorem consumeOne_eq (loads : JsonLoads) (rawMessage : KafkaRawMessage) :
    consumeOne loads rawMessage =
      match (decodeUtf8 rawMessage.value).map loads with
      | none | some (.error .jsonDecodeError) => .ok (.invalid ⟨rawMessage, "invalid_json",
          "Kafka notification payload must be valid JSON"⟩)
      | some (.error e) => .error e
      | some (.ok (.obj fields)) => .ok (polledOf rawMessage (.obj fields))
      | some (.ok _) => .ok (.invalid ⟨rawMessage, "invalid_envelope",
          "Kafka notification envelope must be an object"⟩) := by
  unfold consumeOne decodeMessageBy decodePayloadBy polledOf
  -- bytes that are no text are reported like a text that is no JSON
  cases decodeUtf8 rawMessage.value with
  | none => rfl
  | some text =>
    rw [Option.map_some]
    cases h_loads : loads text with
    | error e => cases e <;> (dsimp only; rw [h_loads]; rfl)
    | ok value =>
      cases value with
      | obj fields =>
        dsimp only
        rw [h_loads]
        -- an object is read field by field
        change (match (decodeEnvelope rawMessage (.obj fields)).mapError
            DecodeException.envelope with
          | .ok message => Except.ok (Polled.valid message)
          | .error (.envelope e) => .ok (.invalid ⟨rawMessage, e.code, e.message⟩)
          | .error (.loads e) => .error e) = _
        cases decodeEnvelope rawMessage (.obj fields) <;> rfl
      | _ => dsimp only; rw [h_loads]; rfl

/-- `consume_one` with a reader without limits, likewise. -/
theorem decoded_eq (floatOf : List Char → PyFloat) (rawMessage : KafkaRawMessage) :
    decoded floatOf rawMessage =
      match (decodeUtf8 rawMessage.value).bind (Json.loads floatOf) with
      | none => .invalid ⟨rawMessage, "invalid_json",
          "Kafka notification payload must be valid JSON"⟩
      | some (.obj fields) => polledOf rawMessage (.obj fields)
      | some _ => .invalid ⟨rawMessage, "invalid_envelope",
          "Kafka notification envelope must be an object"⟩ := by
  unfold decoded decodeMessage decodePayload polledOf
  cases (decodeUtf8 rawMessage.value).bind (Json.loads floatOf) with
  | none => rfl
  | some value => cases value <;> rfl

/-- A reader that agrees with `Json.loads` makes no difference, if the consumer returns. -/
theorem consumeOne_agrees (h : ∀ text, Agrees (loads text) (Json.loads floatOf text))
    {polled : Polled} (h_polled : consumeOne loads rawMessage = .ok polled) :
    polled = decoded floatOf rawMessage := by
  rw [consumeOne_eq] at h_polled
  rw [decoded_eq]
  cases h_text : decodeUtf8 rawMessage.value with
  | none =>
    rw [h_text] at h_polled
    exact (Except.ok.inj h_polled).symm
  | some text =>
    have h_agrees := h text
    rw [h_text, Option.map_some] at h_polled
    rw [Option.bind_some]
    cases h_loads : loads text with
    | ok value =>
      rw [h_loads] at h_polled h_agrees
      -- what the reader returns is what `Json.loads` returns
      have h_value : Json.loads floatOf text = some value := h_agrees
      rw [h_value]
      cases value <;> exact (Except.ok.inj h_polled).symm
    | error e =>
      rw [h_loads] at h_polled h_agrees
      cases e with
      | jsonDecodeError =>
        -- it raises `JSONDecodeError` where `Json.loads` reads nothing
        have h_none : Json.loads floatOf text = none := h_agrees
        rw [h_none]
        exact (Except.ok.inj h_polled).symm
      | valueError | recursionError => exact absurd h_polled (by simp)

/-- With CPython's limits, as long as the consumer returns, it is that of the envelopes. -/
theorem consumeOne_within {limits : JsonLimits} {polled : Polled}
    (h : consumeOne (Json.loadsWithin floatOf limits) rawMessage = .ok polled) :
    polled = decoded floatOf rawMessage :=
  consumeOne_agrees (Json.loadsWithin_agrees floatOf limits) h

/-- With a reader that has no limits, it always returns. -/
theorem consumeOne_unlimited (floatOf : List Char → PyFloat) (rawMessage : KafkaRawMessage) :
    consumeOne (fun text => orDecodeError (Json.loads floatOf text)) rawMessage =
      .ok (decoded floatOf rawMessage) := by
  cases h_polled : consumeOne (fun text => orDecodeError (Json.loads floatOf text))
      rawMessage with
  | ok polled =>
    rw [consumeOne_agrees (fun text => agrees_orDecodeError _) h_polled]
  | error e =>
    -- without limits `json.loads` raises nothing but what the loop catches
    rw [consumeOne_eq] at h_polled
    cases h_text : decodeUtf8 rawMessage.value with
    | none => rw [h_text] at h_polled; exact absurd h_polled (by simp)
    | some text =>
      rw [h_text, Option.map_some] at h_polled
      cases h_read : Json.loads floatOf text with
      | none => rw [h_read] at h_polled; exact absurd h_polled (by simp [orDecodeError])
      | some value =>
        rw [h_read] at h_polled
        cases value <;> exact absurd h_polled (by simp [orDecodeError])

end KafkaNotificationConsumer

end NotificationBroker
