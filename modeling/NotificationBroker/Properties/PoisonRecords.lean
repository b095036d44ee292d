import NotificationBroker.Framework.Raising
import NotificationBroker.Workers.KafkaRecords

/-!
# Poison records

A record that cannot be decoded is to become a dead letter. Two defects are in the way. The
consumer catches the `JSONDecodeError` of `json.loads` and not its two other exceptions
(`consumeOne_returns_iff`), and it compares the schema version with `!= 1`, which `True` is not
(`reported_iff`).

The checks of an envelope are a list of codes with what they check, and the code that is
reported is that of the first check that fails.
-/

namespace NotificationBroker

open Python

namespace KafkaNotificationConsumer

/-! ### Exceptions -/

theorem decodeEnvelope_rawMessage {rawMessage : KafkaRawMessage} {envelope : Json}
    {message : NotificationKafkaMessage} (h : decodeEnvelope rawMessage envelope = .ok message) :
    message.rawMessage = rawMessage := by
  unfold decodeEnvelope at h
  simp only [Raising.bind_eq_ok] at h
  obtain ⟨_, _, eventId, _, eventType, _, occurredAt, _, data, _, key, _, h⟩ := h
  exact congrArg NotificationKafkaMessage.rawMessage (Except.ok.inj h).symm

theorem polledOf_rawMessage (rawMessage : KafkaRawMessage) (envelope : Json) :
    (polledOf rawMessage envelope).rawMessage = rawMessage := by
  unfold polledOf
  cases h : decodeEnvelope rawMessage envelope with
  | ok message => exact decodeEnvelope_rawMessage h
  | error e => rfl

/-- `json.loads` gives up on the value: it is text, and the exception is not a
`JSONDecodeError`. -/
def GivesUp (loads : JsonLoads) (rawMessage : KafkaRawMessage) : Prop :=
  ∃ text, decodeUtf8 rawMessage.value = some text ∧
    (loads text = .error .valueError ∨ loads text = .error .recursionError)

/-- **Poison records.** `consume_one` returns a message that carries the record, valid or
invalid, if and only if `json.loads` does not give up on the value with a plain `ValueError`
or a `RecursionError`. -/
theorem consumeOne_returns_iff (loads : JsonLoads) (rawMessage : KafkaRawMessage) :
    (∃ polled, consumeOne loads rawMessage = .ok polled ∧ polled.rawMessage = rawMessage) ↔
      ¬ GivesUp loads rawMessage := by
  rw [consumeOne_eq]
  unfold GivesUp
  cases h_text : decodeUtf8 rawMessage.value with
  | none => exact ⟨fun _ ⟨_, h, _⟩ => absurd h (by simp), fun _ => ⟨_, rfl, rfl⟩⟩
  | some text =>
    simp only [Option.map_some, Option.some.injEq, exists_eq_left']
    cases h_loads : loads text with
    | ok value =>
      refine ⟨fun _ h => by simp at h, fun _ => ?_⟩
      cases value with
      | obj fields => exact ⟨_, rfl, polledOf_rawMessage rawMessage _⟩
      | _ => exact ⟨_, rfl, rfl⟩
    | error e =>
      -- of the three exceptions one is caught
      cases e with
      | jsonDecodeError => exact ⟨fun _ h => by simp at h, fun _ => ⟨_, rfl, rfl⟩⟩
      | valueError => exact ⟨fun ⟨_, h, _⟩ => by simp at h, fun h => absurd (.inl rfl) h⟩
      | recursionError => exact ⟨fun ⟨_, h, _⟩ => by simp at h, fun h => absurd (.inr rfl) h⟩

theorem consumeOne_valueError {loads : JsonLoads} {text : String}
    (h : loads text = .error .valueError) :
    ¬ ∃ polled, consumeOne loads ⟨none, encodeUtf8 text⟩ = .ok polled := by
  rintro ⟨polled, h_polled⟩
  rw [consumeOne_eq, decodeUtf8_encodeUtf8, Option.map_some, h] at h_polled
  exact absurd h_polled (by simp)

/-- A value of 4,301 digits is not returned as an invalid message. -/
theorem consumeOne_raises :
    ¬ ∃ polled, consumeOne (Json.loadsWithin (fun _ => .nan) ⟨4300, 1000⟩)
      ⟨none, encodeUtf8 (String.ofList (List.replicate 4301 '1'))⟩ = .ok polled := by
  have h_loads : Json.loadsWithin (fun _ => .nan) ⟨4300, 1000⟩
      (String.ofList (List.replicate 4301 '1')) = .error .valueError := by
    refine Json.loadsWithin_integer (fun c h_c => ?_) ⟨'1', List.replicate 4300 '1', rfl, by decide⟩
      (by rw [List.length_replicate]; decide)
    rw [List.eq_of_mem_replicate h_c]
    decide
  exact consumeOne_valueError h_loads

/-! ### Checks -/

/-- A check of an envelope: the code that is reported if it fails, and whether it holds. -/
abbrev Check := String × Bool

/-- The code of the first check that fails. -/
def firstFailing (checks : List Check) : Option String :=
  (checks.find? fun check => !check.2).map Prod.fst

/-- The code that is reported. -/
def reportedCode {α : Type} : Except EnvelopeDecodeError α → Option String
  | .ok _ => none
  | .error e => some e.code

/-- A step of the decoder performs a check. -/
def Performs {α : Type} (result : Except EnvelopeDecodeError α) (check : Check) : Prop :=
  match result with
  | .ok _ => check.2 = true
  | .error e => check.2 = false ∧ e.code = check.1

theorem Performs.bind {α β : Type} {result : Except EnvelopeDecodeError α} {check : Check}
    {f : α → Except EnvelopeDecodeError β} {checks : List Check} (h : Performs result check)
    (h_rest : ∀ a, reportedCode (f a) = firstFailing checks) :
    reportedCode (result >>= f) = firstFailing (check :: checks) := by
  cases result with
  | ok a =>
    have h_holds : check.2 = true := h
    rw [firstFailing, List.find?_cons_of_neg (by simp [h_holds])]
    exact h_rest a
  | error e =>
    obtain ⟨h_fails, h_code⟩ : check.2 = false ∧ e.code = check.1 := h
    rw [firstFailing, List.find?_cons_of_pos (by simp [h_fails])]
    exact congrArg some h_code

theorem mem_of_firstFailing {checks : List Check} {code : String}
    (h : firstFailing checks = some code) : code ∈ checks.map Prod.fst := by
  obtain ⟨check, h_find, rfl⟩ := Option.map_eq_some_iff.mp h
  exact List.mem_map_of_mem (List.mem_of_find?_eq_some h_find)

/-- A JSON number equal to one. -/
def isNumberOne : Option Json → Bool
  | some (.int n) => n = 1
  | some (.float (.finite negative mantissa exponent _)) =>
    ¬ negative ∧ mantissa = 1 ∧ exponent = 0
  | _ => false

def isObject : Option Json → Bool
  | some (.obj _) => true
  | _ => false

/-- A string that `UUID()` parses. -/
def isEventId : Option Json → Bool
  | some (.str text) => (UUID.parse text).isSome
  | _ => false

def isEventType : Option Json → Bool
  | some (.str text) => text ∈ supportedEventTypes
  | _ => false

/-- A string that `datetime.fromisoformat` parses to a time with an offset. -/
def isAwareTime : Option Json → Bool
  | some (.str text) =>
    match Datetime.fromisoformat text with
    | some time => time.utcoffset.isSome
    | none => false
  | _ => false

/-- The key is null or UTF-8. -/
def isKey : Option (List UInt8) → Bool
  | none => true
  | some bytes => (decodeUtf8 bytes).isSome

/-- The checks behind that of the schema version. -/
def laterChecks (envelope : Json) (key : Option (List UInt8)) : List Check :=
  [("invalid_event_id", isEventId (envelope.get? "event_id")),
    ("unsupported_event_type", isEventType (envelope.get? "event_type")),
    ("invalid_occurred_at", isAwareTime (envelope.get? "occurred_at")),
    ("invalid_data", isObject (envelope.get? "data")), ("invalid_key", isKey key)]

/-- The checks an envelope has to pass. -/
def envelopeChecks (value : Json) (key : Option (List UInt8)) : List Check :=
  ("invalid_envelope", isObject (some value)) ::
    ("unsupported_schema_version", isNumberOne (value.get? "schema_version")) ::
    laterChecks value key

/-- A check of a field that has to be a string. -/
theorem performs_text {α : Type} {field : Option Json} {e : EnvelopeDecodeError}
    {decode : String → Except EnvelopeDecodeError α} {holds : String → Bool}
    (h : ∀ text, Performs (decode text) (e.code, holds text)) :
    Performs (match field with
      | some (.str text) => decode text
      | _ => .error e) (e.code, match field with
      | some (.str text) => holds text
      | _ => false) := by
  match field with
  | some (.str text) => exact h text
  | none | some .null | some (.bool _) | some (.int _) | some (.float _) | some (.arr _)
  | some (.obj _) => exact ⟨rfl, rfl⟩

theorem decodeEventId_performs (envelope : Json) :
    Performs (decodeEventId envelope)
      ("invalid_event_id", isEventId (envelope.get? "event_id")) := by
  refine performs_text fun text => ?_
  cases UUID.parse text with
  | some eventId => rfl
  | none => exact ⟨rfl, rfl⟩

theorem decodeEventType_performs (envelope : Json) :
    Performs (decodeEventType envelope)
      ("unsupported_event_type", isEventType (envelope.get? "event_type")) := by
  refine performs_text fun text => ?_
  by_cases h : text ∈ supportedEventTypes
  · rw [if_pos h]
    exact decide_eq_true h
  · rw [if_neg h]
    exact ⟨decide_eq_false h, rfl⟩

theorem decodeOccurredAt_performs (envelope : Json) :
    Performs (decodeOccurredAt envelope)
      ("invalid_occurred_at", isAwareTime (envelope.get? "occurred_at")) := by
  refine performs_text fun text => ?_
  cases Datetime.fromisoformat text with
  | none => exact ⟨rfl, rfl⟩
  | some time =>
    cases h_offset : time.utcoffset with
    | none => simp [Performs, h_offset]
    | some offset => simp [Performs, h_offset]

theorem decodeData_performs (envelope : Json) :
    Performs (decodeData envelope) ("invalid_data", isObject (envelope.get? "data")) := by
  unfold decodeData isObject
  match envelope.get? "data" with
  | some (.obj _) => rfl
  | none | some .null | some (.bool _) | some (.int _) | some (.float _) | some (.arr _)
  | some (.str _) => exact ⟨rfl, rfl⟩

theorem decodeKey_performs (key : Option (List UInt8)) (eventId : UUID) :
    Performs (decodeKey key eventId) ("invalid_key", isKey key) := by
  unfold decodeKey isKey
  cases key with
  | none => rfl
  | some bytes =>
    dsimp only
    cases decodeUtf8 bytes with
    | some text => rfl
    | none => exact ⟨rfl, rfl⟩

/-- **The decoder performs the checks**, with `== 1` for the schema version. -/
theorem decodeEnvelope_code (rawMessage : KafkaRawMessage) (envelope : Json) :
    reportedCode (decodeEnvelope rawMessage envelope) =
      firstFailing (("unsupported_schema_version", equalsOne (envelope.get? "schema_version")) ::
        laterChecks envelope rawMessage.key) := by
  unfold decodeEnvelope laterChecks
  refine Performs.bind ?_ fun _ => (decodeEventId_performs envelope).bind fun eventId =>
    (decodeEventType_performs envelope).bind fun _ =>
    (decodeOccurredAt_performs envelope).bind fun _ => (decodeData_performs envelope).bind fun _ =>
    (decodeKey_performs rawMessage.key eventId).bind fun _ => rfl
  unfold checkSchemaVersion
  split
  next h => exact h
  next h => exact ⟨Bool.eq_false_iff.mpr h, rfl⟩

/-- What `== 1` adds to the numbers. -/
theorem equalsOne_eq (value : Option Json) (h : value ≠ some (.bool true)) :
    equalsOne value = isNumberOne value := by
  match value with
  | some (.bool true) => exact absurd rfl h
  | none | some .null | some (.bool false) | some (.int _) | some (.arr _) | some (.str _)
  | some (.obj _) | some (.float .nan) | some (.float (.inf _))
  | some (.float (.finite _ _ _ _)) => rfl

/-- The code a result reports, none if the record is accepted. -/
def errorCode? : Polled → Option String
  | .valid _ => none
  | .invalid message => some message.errorCode

theorem errorCode?_polledOf (rawMessage : KafkaRawMessage) (envelope : Json) :
    errorCode? (polledOf rawMessage envelope) =
      reportedCode (decodeEnvelope rawMessage envelope) := by
  unfold polledOf
  cases decodeEnvelope rawMessage envelope <;> rfl

/-- **Accepted records.** The value is text that `json.loads` parses. The record is accepted
if and only if it passes all checks, and otherwise the code of the first check that fails is
reported, if and only if the schema version is not `true`. -/
theorem reported_iff {loads : JsonLoads} {rawMessage : KafkaRawMessage} {text : String}
    {value : Json} (h_text : decodeUtf8 rawMessage.value = some text)
    (h_loads : loads text = .ok value) :
    (∃ polled, consumeOne loads rawMessage = .ok polled ∧
      errorCode? polled = firstFailing (envelopeChecks value rawMessage.key)) ↔
    value.get? "schema_version" ≠ some (.bool true) := by
  rw [consumeOne_eq, h_text, Option.map_some, h_loads]
  cases value with
  | obj fields =>
    simp only [Except.ok.injEq, exists_eq_left', errorCode?_polledOf, decodeEnvelope_code]
    change _ = firstFailing (("unsupported_schema_version",
      isNumberOne ((Json.obj fields).get? "schema_version")) ::
        laterChecks (.obj fields) rawMessage.key) ↔ _
    by_cases h_true : (Json.obj fields).get? "schema_version" = some (.bool true)
    · refine ⟨fun h => ?_, fun h => absurd h_true h⟩
      -- the check passes, and none of those behind it has the code that is to be reported
      rw [h_true] at h
      have h_later : firstFailing (laterChecks (.obj fields) rawMessage.key) =
          some "unsupported_schema_version" := h
      exact absurd (mem_of_firstFailing h_later) (by simp [laterChecks])
    · rw [equalsOne_eq _ h_true]
      exact ⟨fun _ => h_true, fun _ => rfl⟩
  | _ => exact ⟨fun _ h => absurd h (by simp [Json.get?]), fun _ => ⟨_, rfl, rfl⟩⟩

/-! ### Records -/

/-- An envelope with the given schema version. -/
def envelopeOfVersion (version : Json) : Json :=
  .obj [("data", .obj []), ("event_id", .str "00000000-0000-0000-0000-000000000001"),
    ("event_type", .str "notification.requested"),
    ("occurred_at", .str "2026-06-27T12:00:00+00:00"), ("schema_version", version)]

def recordOfVersion (version : Json) : KafkaRawMessage :=
  ⟨none, encodeUtf8 (envelopeOfVersion version).text⟩

theorem recordOfVersion_text (version : Json) :
    decodeUtf8 (recordOfVersion version).value = some (envelopeOfVersion version).text := by
  unfold recordOfVersion
  generalize envelopeOfVersion version = envelope
  exact decodeUtf8_encodeUtf8 envelope.text

/-- A reader without limits. -/
def loadsAll (text : String) : Except LoadsError Json :=
  orDecodeError (Json.loads (fun _ => .nan) text)

theorem loadsAll_envelope {version : Json} (h : version.Proper fun _ => .nan)
    (h_sorted : version.sorted = version) :
    loadsAll (envelopeOfVersion version).text = .ok (envelopeOfVersion version) := by
  have h_proper : (envelopeOfVersion version).Proper fun _ => .nan :=
    ⟨(by decide : ["data", "event_id", "event_type", "occurred_at", "schema_version"].Nodup),
      ⟨List.nodup_nil, trivial⟩, trivial, trivial, trivial, h, trivial⟩
  have h_same : (envelopeOfVersion version).sorted = envelopeOfVersion version := by
    simp [envelopeOfVersion, Json.sorted, Json.sortedFields, sortKeys, h_sorted]
  rw [loadsAll, Json.loads_text h_proper, h_same]
  rfl

/-- The schema version of the envelope. -/
theorem get?_schemaVersion (version : Json) :
    (envelopeOfVersion version).get? "schema_version" = some version := by
  simp [envelopeOfVersion, Json.get?, List.lookup_cons]

/-- The checks behind that of the schema version hold. -/
theorem laterChecks_envelope (version : Json) :
    firstFailing (laterChecks (envelopeOfVersion version) none) = none := by
  have h_id : (UUID.parse "00000000-0000-0000-0000-000000000001").isSome = true := by
    decide +kernel
  have h_time : isAwareTime (some (.str "2026-06-27T12:00:00+00:00")) = true := by decide +kernel
  simp [firstFailing, laterChecks, envelopeOfVersion, Json.get?, List.lookup_cons, isEventId, h_id,
    isEventType, supportedEventTypes, h_time, isObject, isKey]

/-- The schema version of this record is `true`, and it is accepted. -/
theorem accepts_true :
    ∃ polled, consumeOne loadsAll (recordOfVersion (.bool true)) = .ok polled ∧
      errorCode? polled = none ∧
      firstFailing (envelopeChecks (envelopeOfVersion (.bool true)) none) =
        some "unsupported_schema_version" := by
  refine ⟨polledOf (recordOfVersion (.bool true)) (envelopeOfVersion (.bool true)), ?_, ?_, ?_⟩
  · have h_loads : loadsAll (envelopeOfVersion (.bool true)).text =
        .ok (envelopeOfVersion (.bool true)) := loadsAll_envelope trivial rfl
    rw [consumeOne_eq, recordOfVersion_text, Option.map_some, h_loads]
    rfl
  · rw [errorCode?_polledOf, decodeEnvelope_code, get?_schemaVersion]
    exact laterChecks_envelope (.bool true)
  · rw [envelopeChecks, get?_schemaVersion]
    rfl

/-- The schema version of this record is two. -/
theorem reported_two :
    ∃ polled, consumeOne loadsAll (recordOfVersion (.int 2)) = .ok polled ∧
      errorCode? polled = some "unsupported_schema_version" := by
  have h_get := get?_schemaVersion (.int 2)
  obtain ⟨polled, h_polled, h_code⟩ :=
    (reported_iff (recordOfVersion_text (.int 2)) (loadsAll_envelope trivial rfl)).mpr (by
      rw [h_get]
      simp)
  refine ⟨polled, h_polled, h_code.trans ?_⟩
  rw [envelopeChecks, h_get]
  rfl

end KafkaNotificationConsumer

end NotificationBroker
