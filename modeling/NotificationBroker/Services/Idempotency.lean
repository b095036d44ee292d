import NotificationBroker.Domain.ValueObjects
import NotificationBroker.Python.Calendar
import NotificationBroker.Python.JsonRoundTrip

/-!
# Payload fingerprints and deduplication hashes

The functions of `services/intake/idempotency.py`. The digest `sha256` of a text
(its UTF-8 bytes hashed and written in hexadecimal) is a parameter.

The hashes are taken of canonical texts. The canonical values are already sorted the way
`json.dumps` sorts them, so that the round trip of the texts (`Json.sorted_eq_of_text_eq`)
makes two requests with one hash agree in every field the hash covers
(`payloadFields_inj`, `deduplicationPayload_inj`).
-/

namespace NotificationBroker

open Python

/-- `dict(sorted(labels))` of labels with distinct keys, as a JSON object. -/
def labelsObject (labels : List (String × String)) : Json :=
  .obj ((sortKeys labels).map fun label => (label.1, .str label.2))

/-- `canonical_audience`. An audience of type `labels` has labels by its own
validity, so that the `ValueError` of the source does not arise. -/
def canonicalAudience (audience : AudienceSelection) : Json :=
  match audience.type with
  | .all => .obj [("type", .str AudienceType.all.value)]
  -- the keys are in order already
  | .group =>
    .obj [("group", (audience.group.map Json.str).getD .null),
      ("type", .str AudienceType.group.value)]
  | .labels =>
    .obj [("labels", labelsObject (audience.labels.getD [])),
      ("type", .str AudienceType.labels.value)]

/-- `sorted(channel.value for channel in channels)`. -/
def sortedChannels (channels : List Channel) : Json :=
  .arr (((channels.map Channel.value).insertionSort (· ≤ ·)).map .str)

/-- The fields both hashes cover. -/
def payloadFields (request : NotificationCreationInput) : List (String × Json) :=
  [("audience", canonicalAudience request.audience),
    ("channels", sortedChannels request.channels),
    ("message", .str request.message),
    ("severity", .str request.severity.value)]

/-- `canonical_creation_payload`. -/
def canonicalCreationPayload (request : NotificationCreationInput) (sourceService : String) :
    List (String × Json) :=
  payloadFields request ++ [("source_service", .str sourceService)]

/-- `_hash_payload`. -/
def hashPayload (sha256 : String → String) (payload : List (String × Json)) : String :=
  sha256 (Json.obj payload).text

/-- `payload_fingerprint`. -/
def payloadFingerprint (sha256 : String → String) (request : NotificationCreationInput) : String :=
  hashPayload sha256 (payloadFields request)

/-- `deduplication_window_start`: the start of the window of whole seconds that
`now` falls into. The seconds since the epoch are truncated towards zero; those of
`int(utc_now.timestamp())` are the ones of the exact reading, which a double gives until the
year 2514. A start before the year 1 is none that `datetime.fromtimestamp` accepts. -/
def deduplicationWindowStart (now window : ℤ) : Except PyError Instant :=
  if window ≤ 0 ∨ window % 1000000 ≠ 0 then
    .error (.valueError "window must be a positive whole-second duration")
  else
    -- `int` truncates towards zero, and `%` rounds down
    let epochSeconds := now.tdiv 1000000
    let windowSeconds := window / 1000000
    let start := (epochSeconds - epochSeconds % windowSeconds) * 1000000
    if Datetime.InRange start then .ok start
    else .error (.valueError ("year must be in 1..9999, not " ++
      toString (Datetime.civil (start / 86400000000)).1))

/-- The fields of the fallback hash for a window that starts at `windowStart`. -/
def deduplicationPayload (request : NotificationCreationInput) (sourceService : String)
    (windowStart : Instant) : List (String × Json) :=
  canonicalCreationPayload request sourceService ++
    [("deduplication_window_start", .str (Datetime.ofInstant windowStart).isoformat)]

/-- `fallback_deduplication_hash`. -/
def fallbackDeduplicationHash (sha256 : String → String) (request : NotificationCreationInput)
    (sourceService : String) (now window : ℤ) : Except PyError String := do
  let windowStart ← deduplicationWindowStart now window
  return hashPayload sha256 (deduplicationPayload request sourceService windowStart)

/-! ### Canonical values are sorted -/

theorem sortedItems_str (texts : List String) :
    Json.sortedItems (texts.map .str) = texts.map .str := by
  rw [Json.sortedItems_eq_map, List.map_map]
  rfl

theorem properItems_str {floatOf : List Char → PyFloat} (texts : List String) :
    Json.ProperItems floatOf (texts.map .str) := by
  induction texts with
  | nil => trivial
  | cons text texts ih => exact ⟨trivial, ih⟩

theorem labelsObject_sorted (labels : List (String × String)) :
    (labelsObject labels).sorted = labelsObject labels := by
  have h_sorted : ∀ fields : List (String × String),
      Json.sortedFields (fields.map fun label => (label.1, .str label.2)) =
        fields.map fun label => (label.1, .str label.2) := by
    intro fields
    rw [Json.sortedFields_eq_map, List.map_map]
    rfl
  rw [labelsObject, Json.sorted, h_sorted, sortKeys_map Json.str, sortKeys_sortKeys]

theorem labelsObject_proper {floatOf : List Char → PyFloat} {labels : List (String × String)}
    (h : (labels.map Prod.fst).Nodup) : (labelsObject labels).Proper floatOf := by
  refine ⟨?_, ?_⟩
  · rw [List.map_map]
    exact ((sortKeys_perm labels).map Prod.fst).nodup_iff.mpr h
  · generalize sortKeys labels = fields
    induction fields with
    | nil => trivial
    | cons field fields ih => exact ⟨trivial, ih⟩

theorem canonicalAudience_sorted (audience : AudienceSelection) :
    (canonicalAudience audience).sorted = canonicalAudience audience := by
  obtain ⟨type, group, labels, h_valid⟩ := audience
  cases type with
  | all => rfl
  | group =>
    cases group <;>
      simp [canonicalAudience, Json.sorted, Json.sortedFields, sortKeys]
  | labels =>
    simp [canonicalAudience, Json.sorted, Json.sortedFields, labelsObject_sorted, sortKeys]

theorem canonicalAudience_proper {floatOf : List Char → PyFloat} (audience : AudienceSelection) :
    (canonicalAudience audience).Proper floatOf := by
  obtain ⟨type, group, labels, h_valid⟩ := audience
  cases type with
  | all => exact ⟨List.nodup_singleton _, trivial, trivial⟩
  | group =>
    cases group <;>
      exact ⟨(by decide : ["group", "type"].Nodup), trivial, trivial, trivial⟩
  | labels =>
    cases labels with
    | none =>
      exact ⟨(by decide : ["labels", "type"].Nodup), labelsObject_proper List.nodup_nil, trivial,
        trivial⟩
    -- the labels of an audience have distinct keys, since it was checked
    | some labels =>
      have h_labels : (labels.map Prod.fst).Nodup := by
        cases group with
        | none => exact (validateLabels_ok h_valid).2
        | some name => exact absurd h_valid (by simp [AudienceSelection.postInit])
      exact ⟨(by decide : ["labels", "type"].Nodup), labelsObject_proper h_labels, trivial,
        trivial⟩

theorem sortedChannels_sorted (channels : List Channel) :
    (sortedChannels channels).sorted = sortedChannels channels := by
  rw [sortedChannels, Json.sorted, sortedItems_str]

/-! ### What the texts determine -/

theorem payloadFields_proper {floatOf : List Char → PyFloat}
    (request : NotificationCreationInput) : (Json.obj (payloadFields request)).Proper floatOf :=
  ⟨(by decide : ["audience", "channels", "message", "severity"].Nodup),
    canonicalAudience_proper request.audience, properItems_str _, trivial, trivial, trivial⟩

theorem deduplicationPayload_proper {floatOf : List Char → PyFloat}
    (request : NotificationCreationInput) (sourceService : String) (windowStart : Instant) :
    (Json.obj (deduplicationPayload request sourceService windowStart)).Proper floatOf :=
  ⟨(by decide : ["audience", "channels", "message", "severity", "source_service",
    "deduplication_window_start"].Nodup), canonicalAudience_proper request.audience,
    properItems_str _, trivial, trivial, trivial, trivial, trivial⟩

section Injective

variable {request request' : NotificationCreationInput} {sourceService sourceService' : String}
  {windowStart windowStart' : Instant}

/-- Fields under one key of two objects with one text are the same. -/
theorem field_eq_of_text_eq {fields fields' : List (String × Json)}
    (h : ∀ floatOf, (Json.obj fields).Proper floatOf)
    (h' : ∀ floatOf, (Json.obj fields').Proper floatOf)
    (h_text : (Json.obj fields).text = (Json.obj fields').text) (key : String) :
    (fields.lookup key).map Json.sorted = (fields'.lookup key).map Json.sorted := by
  have h_sorted := Json.sorted_eq_of_text_eq (h fun _ => .nan) (h' fun _ => .nan) h_text
  have h_get := congrArg (Json.get? key) h_sorted
  rwa [Json.get?_sorted (h fun _ => .nan).1, Json.get?_sorted (h' fun _ => .nan).1] at h_get

/-- The keys of the fingerprint's payload. -/
def payloadKeys : List String := ["audience", "channels", "message", "severity"]

theorem payloadFields_eq
    (h : ∀ key ∈ payloadKeys, ((payloadFields request).lookup key).map Json.sorted =
      ((payloadFields request').lookup key).map Json.sorted) :
    payloadFields request = payloadFields request' := by
  have h_audience : some (canonicalAudience request.audience).sorted =
    some (canonicalAudience request'.audience).sorted := h "audience" (by decide)
  have h_channels : some (sortedChannels request.channels).sorted =
    some (sortedChannels request'.channels).sorted := h "channels" (by decide)
  have h_message : some (Json.str request.message) = some (.str request'.message) :=
    h "message" (by decide)
  have h_severity : some (Json.str request.severity.value) = some (.str request'.severity.value) :=
    h "severity" (by decide)
  rw [canonicalAudience_sorted, canonicalAudience_sorted] at h_audience
  rw [sortedChannels_sorted, sortedChannels_sorted] at h_channels
  rw [payloadFields, payloadFields, Option.some.inj h_audience, Option.some.inj h_channels,
    Option.some.inj h_message, Option.some.inj h_severity]

/-- **The text of the payload determines its fields.** -/
theorem payloadFields_inj
    (h : (Json.obj (payloadFields request)).text = (Json.obj (payloadFields request')).text) :
    payloadFields request = payloadFields request' :=
  payloadFields_eq fun key _ => field_eq_of_text_eq (fun _ => payloadFields_proper request)
    (fun _ => payloadFields_proper request') h key

/-- **The text of the fallback payload determines its fields.** -/
theorem deduplicationPayload_inj
    (h : (Json.obj (deduplicationPayload request sourceService windowStart)).text =
      (Json.obj (deduplicationPayload request' sourceService' windowStart')).text) :
    payloadFields request = payloadFields request' ∧ sourceService = sourceService' ∧
      (Datetime.ofInstant windowStart).isoformat = (Datetime.ofInstant windowStart').isoformat := by
  have h_field := field_eq_of_text_eq
    (fun _ => deduplicationPayload_proper request sourceService windowStart)
    (fun _ => deduplicationPayload_proper request' sourceService' windowStart') h
  refine ⟨payloadFields_eq fun key h_key => ?_, ?_, ?_⟩
  · -- the fallback payload has the fields of the fingerprint's payload, and two more
    have h_lookup : ∀ (r : NotificationCreationInput) (source : String) (start : Instant),
        (deduplicationPayload r source start).lookup key = (payloadFields r).lookup key := by
      intro r source start
      simp only [payloadKeys, List.mem_cons, List.not_mem_nil, or_false] at h_key
      rcases h_key with rfl | rfl | rfl | rfl <;> rfl
    rw [← h_lookup request sourceService windowStart, ← h_lookup request' sourceService'
      windowStart']
    exact h_field key
  · have h_source : some (Json.str sourceService) = some (.str sourceService') :=
      h_field "source_service"
    exact Json.str.inj (Option.some.inj h_source)
  · have h_start : some (Json.str (Datetime.ofInstant windowStart).isoformat) =
      some (.str (Datetime.ofInstant windowStart').isoformat) :=
        h_field "deduplication_window_start"
    exact Json.str.inj (Option.some.inj h_start)

/-- **The fallback hash determines the fingerprint**: it covers every field the fingerprint
covers. -/
theorem payloadFingerprint_of_deduplicationHash {sha256 : String → String}
    (h_inj : Function.Injective sha256)
    (h : hashPayload sha256 (deduplicationPayload request sourceService windowStart) =
      hashPayload sha256 (deduplicationPayload request' sourceService' windowStart')) :
    payloadFingerprint sha256 request = payloadFingerprint sha256 request' := by
  rw [payloadFingerprint, payloadFingerprint, (deduplicationPayload_inj (h_inj h)).1]

end Injective

/-- A window start that cannot be computed is a `ValueError`. -/
theorem deduplicationWindowStart_error {now window : ℤ} {e : PyError}
    (h : deduplicationWindowStart now window = .error e) : ∃ message, e = .valueError message := by
  unfold deduplicationWindowStart at h
  dsimp only at h
  split at h
  · exact ⟨_, (Except.error.inj h).symm⟩
  · split at h
    · exact absurd h (by simp)
    · exact ⟨_, (Except.error.inj h).symm⟩

end NotificationBroker
