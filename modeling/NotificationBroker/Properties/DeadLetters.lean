import NotificationBroker.Workers.KafkaDeadLetters

/-!
# What a dead letter says of the original

A dead letter is written so that the message can be replayed. `original` reads it back, and
`publish_restores_iff` says when it finds what has been there: always, but for a key that is
empty. Such a key is written like one that is absent (`publish_empty_key`), and no reader can tell
the two apart.

The round trip goes through JSON (`Json.loads_text`) and Base64 (`b64decode_b64encode`).
-/

namespace NotificationBroker

open Python

/-- The original of a dead letter: its key, the part of its value that is kept, and whether a
part is missing. -/
structure DeadLetterOriginal where
  key : Option (List UInt8)
  value : List UInt8
  truncated : Bool
deriving DecidableEq

namespace DeadLetter

/-- A Base64 text. -/
def readBytes : Json → Option (List UInt8)
  | .str text => Base64.b64decode text.toList
  | _ => none

/-- A Base64 text, or null. -/
def readKey : Json → Option (Option (List UInt8))
  | .null => some none
  | value => (readBytes value).map some

/-- A boolean. -/
def readBool : Json → Option Bool
  | .bool b => some b
  | _ => none

/-- The original, as the JSON of the dead letter has it. -/
def original (floatOf : List Char → PyFloat) (letter : DeadLetter) : Option DeadLetterOriginal := do
  let payload ← (decodeUtf8 letter.value).bind (Json.loads floatOf)
  let original ← payload.get? "original"
  let key ← (original.get? "key_base64").bind readKey
  let value ← (original.get? "value_base64").bind readBytes
  let truncated ← (original.get? "value_truncated").bind readBool
  return ⟨key, value, truncated⟩

end DeadLetter

namespace KafkaDeadLetterPublisher

variable {publisher : KafkaDeadLetterPublisher} {floatOf : List Char → PyFloat}
  {sha256Hex : List UInt8 → String} {message : InvalidNotificationKafkaMessage}

/-! ### Reading back -/

theorem nodup_payloadKeys : ["schema_version", "error", "original"].Nodup := by decide

theorem nodup_originalKeys : ["key_base64", "value_base64", "value_truncated"].Nodup := by decide

theorem payload_proper (publisher : KafkaDeadLetterPublisher)
    (message : InvalidNotificationKafkaMessage) : (publisher.payload message).Proper floatOf := by
  have h_key : (keyBase64 message.rawMessage).Proper floatOf := by
    unfold keyBase64
    split
    · trivial
    · trivial
  have h_original : (publisher.originalPayload message.rawMessage).Proper floatOf :=
    ⟨nodup_originalKeys, h_key, trivial, trivial, trivial⟩
  exact ⟨nodup_payloadKeys, trivial,
    ⟨(by decide : ["code", "message"].Nodup), trivial, trivial, trivial⟩, h_original, trivial⟩

/-- The reader's view of the payload. -/
theorem loads_publish (publisher : KafkaDeadLetterPublisher) :
    (decodeUtf8 (publisher.publish sha256Hex message).value).bind (Json.loads floatOf) =
      some (publisher.payload message).sorted := by
  rw [publish, decodeUtf8_encodeUtf8, Option.bind_some]
  exact Json.loads_text (payload_proper publisher message)

theorem get?_original (publisher : KafkaDeadLetterPublisher) :
    (publisher.payload message).sorted.get? "original" =
      some (publisher.originalPayload message.rawMessage).sorted := by
  have h_get : (publisher.payload message).sorted.get? "original" =
      ((publisher.payload message).get? "original").map Json.sorted := by
    unfold payload
    refine Json.get?_sorted ?_ "original"
    exact nodup_payloadKeys
  rw [h_get]
  rfl

theorem get?_originalPayload (publisher : KafkaDeadLetterPublisher) (raw : KafkaRawMessage)
    (key : String) : (publisher.originalPayload raw).sorted.get? key =
      ((publisher.originalPayload raw).get? key).map Json.sorted := by
  unfold originalPayload
  refine Json.get?_sorted ?_ key
  exact nodup_originalKeys

/-- The key as it can be read back: one that is empty is lost. -/
def keptKey : Option (List UInt8) → Option (List UInt8)
  | some (b :: key) => some (b :: key)
  | _ => none

theorem readKey_keyBase64 (raw : KafkaRawMessage) :
    DeadLetter.readKey (keyBase64 raw).sorted = some (keptKey raw.key) := by
  unfold keyBase64 keptKey
  cases raw.key with
  | none => rfl
  | some key =>
    cases key with
    | nil => rfl
    | cons b key =>
      calc DeadLetter.readKey (.str (String.ofList (Base64.b64encode (b :: key))))
        _ = (Base64.b64decode (String.ofList (Base64.b64encode (b :: key))).toList).map some := rfl
        _ = some (some (b :: key)) := by
          rw [String.toList_ofList, Base64.b64decode_b64encode, Option.map_some]

/-- **What is read back**, whatever the original has been. -/
theorem original_publish (publisher : KafkaDeadLetterPublisher)
    (sha256Hex : List UInt8 → String) (floatOf : List Char → PyFloat)
    (message : InvalidNotificationKafkaMessage) :
    DeadLetter.original floatOf (publisher.publish sha256Hex message) =
      some ⟨keptKey message.rawMessage.key, publisher.boundedValue message.rawMessage,
        decide ((publisher.boundedValue message.rawMessage).length <
          message.rawMessage.value.length)⟩ := by
  -- each of the three fields is read from the document as it was written to it
  have h_key : ((publisher.originalPayload message.rawMessage).sorted.get? "key_base64").bind
      DeadLetter.readKey = some (keptKey message.rawMessage.key) := by
    rw [get?_originalPayload]
    exact readKey_keyBase64 message.rawMessage
  have h_value : ((publisher.originalPayload message.rawMessage).sorted.get? "value_base64").bind
      DeadLetter.readBytes = some (publisher.boundedValue message.rawMessage) := by
    rw [get?_originalPayload]
    change Base64.b64decode (String.ofList _).toList = _
    rw [String.toList_ofList, Base64.b64decode_b64encode]
  have h_truncated : ((publisher.originalPayload message.rawMessage).sorted.get?
      "value_truncated").bind DeadLetter.readBool =
        some (decide ((publisher.boundedValue message.rawMessage).length <
          message.rawMessage.value.length)) := by
    rw [get?_originalPayload]
    rfl
  unfold DeadLetter.original
  simp only [Option.bind_eq_bind, loads_publish, get?_original, h_key, h_value, h_truncated,
    Option.bind_some]
  rfl

/-! ### The empty key -/

/-- **An empty key is written like none.** -/
theorem publish_empty_key (publisher : KafkaDeadLetterPublisher) (value : List UInt8)
    (errorCode errorMessage : String) :
    publisher.publish sha256Hex ⟨⟨some [], value⟩, errorCode, errorMessage⟩ =
      publisher.publish sha256Hex ⟨⟨none, value⟩, errorCode, errorMessage⟩ := rfl

theorem encodedKey_eq {raw : KafkaRawMessage} {key : List UInt8} (h_key : raw.key = some key)
    (h_ne : key ≠ []) : encodedKey sha256Hex raw = key := by
  cases key with
  | nil => exact absurd rfl h_ne
  | cons b key => rw [encodedKey, h_key]

theorem keptKey_eq_iff {key : Option (List UInt8)} : keptKey key = key ↔ key ≠ some [] := by
  cases key with
  | none => simp [keptKey]
  | some key => cases key <;> simp [keptKey]

theorem take_min_length (value : List UInt8) (limit : ℕ) :
    value.take (min value.length limit) = value.take limit := by
  by_cases h : limit ≤ value.length
  · rw [Nat.min_eq_right h]
  · have h_short := Nat.le_of_not_le h
    rw [Nat.min_eq_left h_short, List.take_length, List.take_of_length_le h_short]

theorem take_ne_iff {value : List UInt8} {limit : ℕ} :
    value.take limit ≠ value ↔ (value.take limit).length < value.length := by
  rw [Ne, List.take_eq_self_iff, List.length_take]
  omega

/-- The dead letter tells the original: its JSON yields the key, the value up to the limit and
whether anything is missing, and its own key is that of the original, if there is one. -/
structure Restores (publisher : KafkaDeadLetterPublisher) (sha256Hex : List UInt8 → String)
    (floatOf : List Char → PyFloat) (message : InvalidNotificationKafkaMessage) : Prop where
  original : ∃ kept, kept = message.rawMessage.value.take
      (min message.rawMessage.value.length publisher.maxOriginalValueBytes) ∧
    DeadLetter.original floatOf (publisher.publish sha256Hex message) =
      some ⟨message.rawMessage.key, kept, decide (kept ≠ message.rawMessage.value)⟩
  key : ∀ key, message.rawMessage.key = some key →
    (publisher.publish sha256Hex message).key = key

/-- **A dead letter tells the original, unless its key is empty.** -/
theorem publish_restores_iff (publisher : KafkaDeadLetterPublisher)
    (sha256Hex : List UInt8 → String) (floatOf : List Char → PyFloat)
    (message : InvalidNotificationKafkaMessage) :
    Restores publisher sha256Hex floatOf message ↔ message.rawMessage.key ≠ some [] := by
  have h_read := original_publish publisher sha256Hex floatOf message
  constructor
  · -- an empty key is written as `null`, and comes back as no key
    rintro ⟨⟨kept, -, h_original⟩, -⟩
    have h_fields := Option.some.inj (h_read.symm.trans h_original)
    exact keptKey_eq_iff.mp (congrArg DeadLetterOriginal.key h_fields)
  · intro h_key
    refine ⟨⟨publisher.boundedValue message.rawMessage, (take_min_length _ _).symm, ?_⟩,
      fun key h_some => ?_⟩
    · -- the flag says that the value has been cut
      have h_truncated : decide ((publisher.boundedValue message.rawMessage).length <
          message.rawMessage.value.length) =
            decide (publisher.boundedValue message.rawMessage ≠ message.rawMessage.value) :=
        decide_eq_decide.mpr take_ne_iff.symm
      rw [h_read, keptKey_eq_iff.mpr h_key, h_truncated]
    · exact encodedKey_eq h_some fun h_nil => h_key (h_nil ▸ h_some)

/-- The publisher with its default limit. -/
def defaultPublisher : KafkaDeadLetterPublisher := ⟨"notifications.requests.dlq", 65536⟩

/-- The digests of two values. -/
def sampleSha256Hex (value : List UInt8) : String :=
  if value = [] then "e3b0c44298fc1c149afbf4c8996fb92427ae41e4649b934ca495991b7852b855"
  else "021fb596db81e6d02bf3d2586ee3981fe519f275c0ac9ca76bbcf2ebb4097d96"

/-- A record with an empty key is read back without one, and its key in Kafka is not the empty
one. No reader finds the keys of all messages. -/
theorem publish_empty_key_not_restored :
    ¬ Restores defaultPublisher sampleSha256Hex (fun _ => .nan)
        ⟨⟨some [], [123]⟩, "invalid_json", "Kafka notification payload must be valid JSON"⟩ ∧
      ¬ ∃ original : DeadLetter → Option (List UInt8), ∀ message,
        original (defaultPublisher.publish sampleSha256Hex message) = message.rawMessage.key := by
  constructor
  · rintro ⟨-, h_key⟩
    exact absurd (h_key [] rfl) (by decide)
  · rintro ⟨original, h_original⟩
    -- one dead letter for two messages whose keys differ
    have h_empty := h_original ⟨⟨some [], []⟩, "invalid_json", ""⟩
    have h_none := h_original ⟨⟨none, []⟩, "invalid_json", ""⟩
    rw [publish_empty_key, h_none] at h_empty
    exact absurd h_empty (by simp)

end KafkaDeadLetterPublisher

end NotificationBroker
