import NotificationBroker.Core.Cursors

/-!
# Cursors come back, and only issued ones

A cursor is decoded from its own text (`decode_encode`), whatever its offset. And a text that
carries no forged signature is refused with a bad request or is decoded to a cursor that was
issued (`decode_issued`): the signature covers the canonical text of the payload, and a payload
with the canonical text of a cursor's payload has the fields of that cursor.
-/

namespace NotificationBroker

open Python

/-! ### The texts of a cursor need no escapes -/

theorem plain_of_isDigit {c : Char} (h : c.isDigit = true) :
    (32 ≤ c.toNat ∧ c.toNat < 127) ∧ c ≠ '"' ∧ c ≠ '\\' := by
  have h_c := Char.isDigit_iff_toNat.mp h
  have h_zero : '0'.toNat = 48 := rfl
  have h_nine : '9'.toNat = 57 := rfl
  refine ⟨by omega, ?_, ?_⟩
  · rintro rfl
    exact absurd h (by decide)
  · rintro rfl
    exact absurd h (by decide)

theorem plain_clockText {seconds micros : ℕ} {c : Char}
    (h : c ∈ Datetime.clockText seconds micros) :
    (32 ≤ c.toNat ∧ c.toNat < 127) ∧ c ≠ '"' ∧ c ≠ '\\' := by
  rcases Datetime.mem_clockText h with h_digit | rfl | rfl
  · exact plain_of_isDigit h_digit
  · decide
  · decide

theorem plain_offsetText {offset : ℤ} {c : Char} (h : c ∈ Datetime.offsetText offset) :
    (32 ≤ c.toNat ∧ c.toNat < 127) ∧ c ≠ '"' ∧ c ≠ '\\' := by
  have h_sign : ∀ d : Char, d = (if offset < 0 then '-' else '+') →
      (32 ≤ d.toNat ∧ d.toNat < 127) ∧ d ≠ '"' ∧ d ≠ '\\' := by
    rintro d rfl
    split <;> decide
  unfold Datetime.offsetText at h
  dsimp only at h
  split at h
  · simp only [List.cons_append, List.mem_cons, List.mem_append] at h
    rcases h with h | h | rfl | h
    · exact h_sign c h
    · exact plain_of_isDigit (Datetime.isDigit_padded c h)
    · decide
    · exact plain_of_isDigit (Datetime.isDigit_padded c h)
  · rcases List.mem_cons.mp h with h | h
    · exact h_sign c h
    · exact plain_clockText h

theorem plainText_isoformat (value : Datetime) : PlainText value.isoformat := by
  intro c h
  rw [Datetime.isoformat, String.toList_ofList] at h
  simp only [List.mem_append, List.mem_cons] at h
  rcases h with (((h | rfl | h) | rfl | h) | rfl | h) | h
  · exact plain_of_isDigit (Datetime.isDigit_padded c h)
  · decide
  · exact plain_of_isDigit (Datetime.isDigit_padded c h)
  · decide
  · exact plain_of_isDigit (Datetime.isDigit_padded c h)
  · decide
  · exact plain_clockText h
  · cases h_zone : value.utcoffset with
    | none =>
      rw [h_zone] at h
      exact absurd h List.not_mem_nil
    | some offset =>
      rw [h_zone] at h
      exact plain_offsetText h

theorem plain_hexText {width n : ℕ} {c : Char} (h : c ∈ UUID.hexText width n) :
    (32 ≤ c.toNat ∧ c.toNat < 127) ∧ c ≠ '"' ∧ c ≠ '\\' := by
  obtain ⟨d, h_d, rfl⟩ := UUID.mem_hexText h
  have h_digits : ∀ d < 16, (32 ≤ (Nat.digitChar d).toNat ∧ (Nat.digitChar d).toNat < 127) ∧
      Nat.digitChar d ≠ '"' ∧ Nat.digitChar d ≠ '\\' := by
    decide
  exact h_digits d h_d

theorem plainText_uuid (id : UUID) : PlainText id.str := by
  intro c h
  rw [UUID.str, String.toList_ofList] at h
  rcases UUID.mem_hyphenate h with rfl | h
  · decide
  · exact plain_hexText h

namespace WebNotificationCursorCodec

variable {hmacSha256 : List UInt8 → List UInt8 → List UInt8} {floatOf : List Char → PyFloat}
  {codec : WebNotificationCursorCodec}

theorem plainText_sign (body : List UInt8) : PlainText (codec.sign hmacSha256 body) := by
  intro c h
  rw [sign, String.toList_ofList] at h
  obtain ⟨byte, -, h⟩ := List.mem_flatMap.mp h
  exact plain_hexText h

theorem bare_payload (cursor : WebNotificationCursor) : ∀ c ∈ (payload cursor).dumps, Bare c := by
  refine Json.bare_obj fun field h_field => ?_
  rcases List.mem_pair.mp h_field with rfl | rfl
  · exact ⟨by simp [PlainText], bare_quote (plainText_isoformat cursor.deliveredAt)⟩
  · exact ⟨by simp [PlainText], bare_quote (plainText_uuid cursor.deliveryId)⟩

theorem bare_envelope (cursor : WebNotificationCursor) :
    ∀ c ∈ (codec.envelope hmacSha256 cursor).dumps, Bare c := by
  refine Json.bare_obj fun field h_field => ?_
  rcases List.mem_pair.mp h_field with rfl | rfl
  · exact ⟨by simp [PlainText], bare_payload cursor⟩
  · exact ⟨by simp [PlainText], bare_quote (plainText_sign _)⟩

/-! ### Decoding an issued cursor -/

/-- The text of a cursor is that of its envelope. -/
theorem base64urlDecode_encode (cursor : WebNotificationCursor) :
    base64urlDecode (codec.encode hmacSha256 cursor) =
      .ok (codec.envelope hmacSha256 cursor).text := by
  have h_text : String.ofList (codec.envelope hmacSha256 cursor).asciiDumps =
      (codec.envelope hmacSha256 cursor).text := by
    rw [Json.asciiDumps_of_bare (bare_envelope cursor)]
    rfl
  rw [base64urlDecode, encode, String.toList_ofList, String.length_ofList, Base64.decode_stripped,
    Option.bind_some, jsonBytes, h_text, decodeUtf8_encodeUtf8]

/-- What is presented with an issued cursor is its payload and its signature. -/
theorem presented_encode (cursor : WebNotificationCursor) :
    presented floatOf (codec.encode hmacSha256 cursor) =
      .ok (payload cursor, .str (codec.sign hmacSha256 (jsonBytes (payload cursor)))) := by
  have h_proper : (codec.envelope hmacSha256 cursor).Proper floatOf := by
    simp [envelope, payload, Json.Proper, Json.ProperFields]
  have h_sorted : (codec.envelope hmacSha256 cursor).sorted = codec.envelope hmacSha256 cursor := by
    simp [envelope, payload, Json.sorted, Json.sortedFields, sortKeys]
  rw [presented, base64urlDecode_encode]
  simp only [bind, Except.bind]
  rw [Json.loads_text h_proper, h_sorted]
  rfl

theorem compareDigest_self {s : String} (h : PlainText s) :
    compareDigest (.str s) s = .ok true := by
  have h_ascii : (s.toList.all fun c => decide (c.toNat < 128)) = true :=
    List.all_eq_true.mpr fun c h_c => decide_eq_true (by have := (h c h_c).1; omega)
  simp [compareDigest, h_ascii]

theorem datetimeOf_isoformat {value : Datetime} (h : value.Valid) :
    datetimeOf (.str value.isoformat) = .ok ⟨value, h⟩ := by
  have h_read := Datetime.fromisoformat_isoformat_of_valid h
  unfold datetimeOf
  dsimp only
  split
  next d h_d =>
    obtain rfl := Option.some.inj (h_read.symm.trans h_d)
    rfl
  next h_none => exact absurd (h_read.symm.trans h_none) (by simp)

/-- **A payload with the canonical text of a cursor's payload has the cursor's fields.** -/
theorem cursorOf_of_jsonBytes {v : Json} {cursor : WebNotificationCursor}
    (h : jsonBytes v = jsonBytes (payload cursor)) : cursorOf v = .ok cursor := by
  have h_dumps : v.dumps = (payload cursor).dumps := by
    refine Json.dumps_of_asciiDumps ?_ fun h_mem => (bare_payload cursor _ h_mem).2 rfl
    rw [← Json.asciiDumps_of_bare (bare_payload cursor)]
    exact String.ofList_injective (encodeUtf8_injective h)
  have h_strings : v.dumps = (Json.obj (Json.strings
      [("delivered_at", cursor.deliveredAt.isoformat),
        ("delivery_id", cursor.deliveryId.str)])).dumps := h_dumps
  obtain ⟨fields, rfl, h_fields⟩ := Json.eq_strings_of_dumps h_strings
  have h_sorted : sortKeys fields = [("delivered_at", .str cursor.deliveredAt.isoformat),
      ("delivery_id", .str cursor.deliveryId.str)] := by
    rw [h_fields]
    simp [Json.strings, sortKeys]
  -- the fields may have come in either order
  have h_perm := sortKeys_perm fields
  rw [h_sorted] at h_perm
  have h_at := lookup_perm h_perm (by simp) "delivered_at"
  have h_id := lookup_perm h_perm (by simp) "delivery_id"
  have h_deliveredAt : subscript (.obj fields) "delivered_at" =
      .ok (.str cursor.deliveredAt.isoformat) := by
    rw [subscript, ← h_at]
    rfl
  have h_deliveryId : subscript (.obj fields) "delivery_id" = .ok (.str cursor.deliveryId.str) := by
    rw [subscript, ← h_id]
    rfl
  rw [cursorOf, h_deliveredAt, h_deliveryId]
  simp only [bind, Except.bind, datetimeOf_isoformat cursor.valid, uuidOf, UUID.parse_str]
  rfl

/-- **A cursor is decoded from its own text.** -/
theorem decode_encode (cursor : WebNotificationCursor) :
    codec.decode hmacSha256 floatOf (codec.encode hmacSha256 cursor) = .ok cursor := by
  have h_body : codec.decodeBody hmacSha256 floatOf (codec.encode hmacSha256 cursor) =
      .ok cursor := by
    rw [decodeBody, presented_encode]
    simp only [bind, Except.bind, compareDigest_self (plainText_sign _), if_true]
    exact cursorOf_of_jsonBytes rfl
  rw [decode, h_body]

/-! ### Decoding any text -/

theorem subscript_error {value : Json} {key : String} {e : DecodeException}
    (h : subscript value key = .error e) : e ≠ .attributeError := by
  unfold subscript at h
  split at h
  · split at h
    · exact absurd h (by simp)
    · obtain rfl := Except.error.inj h
      decide
  · obtain rfl := Except.error.inj h
    decide

/-- What is presented is read without a lookup of methods. -/
theorem presented_error {cursor : String} {e : DecodeException}
    (h : presented floatOf cursor = .error e) : e ≠ .attributeError := by
  unfold presented at h
  cases h_text : base64urlDecode cursor with
  | error e' =>
    rw [h_text] at h
    obtain rfl := Except.error.inj h
    -- text that is not base64url raises a decode error, which is a `ValueError`
    unfold base64urlDecode at h_text
    split at h_text
    · exact absurd h_text (by simp)
    · obtain rfl := Except.error.inj h_text
      decide
  | ok text =>
    rw [h_text] at h
    simp only [bind, Except.bind] at h
    cases h_envelope : Json.loads floatOf text with
    | none =>
      rw [h_envelope] at h
      obtain rfl := Except.error.inj h
      -- `json.loads` raises `JSONDecodeError`
      decide
    | some envelope =>
      rw [h_envelope] at h
      dsimp only at h
      cases h_payload : subscript envelope "payload" with
      | error e' =>
        rw [h_payload] at h
        obtain rfl := Except.error.inj h
        -- subscripting raises `KeyError` or `TypeError`
        exact subscript_error h_payload
      | ok payload =>
        rw [h_payload] at h
        dsimp only at h
        cases h_signature : subscript envelope "signature" with
        | error e' =>
          rw [h_signature] at h
          obtain rfl := Except.error.inj h
          exact subscript_error h_signature
        | ok signature =>
          rw [h_signature] at h
          exact absurd h (by simp [pure, Except.pure])

/-- A comparison succeeds with the other string only. -/
theorem compareDigest_cases (signature : Json) (tag : String) :
    signature = .str tag ∨ compareDigest signature tag = .ok false ∨
      compareDigest signature tag = .error .typeError := by
  cases signature with
  | str s =>
    by_cases h_eq : s = tag
    · exact .inl (h_eq ▸ rfl)
    · refine .inr ?_
      simp only [compareDigest, h_eq, decide_false]
      split
      · exact .inl rfl
      · exact .inr rfl
  | _ => exact .inr (.inr rfl)

/-- A tag verifies for a body only if `_sign` produced it for that body: if the tag that is
presented with a payload is the signature of its canonical text, this text is the one of the
payload of an issued cursor. -/
def Unforged (hmacSha256 : List UInt8 → List UInt8 → List UInt8) (floatOf : List Char → PyFloat)
    (codec : WebNotificationCursorCodec) (issued : Set WebNotificationCursor) (cursor : String) :
    Prop :=
  ∀ body tag, presented floatOf cursor = .ok (body, .str tag) →
    tag = codec.sign hmacSha256 (jsonBytes body) →
      ∃ c ∈ issued, jsonBytes body = jsonBytes (payload c)

/-- **A text that is not forged is refused, or is decoded to an issued cursor.** -/
theorem decode_issued {issued : Set WebNotificationCursor} {cursor : String}
    (h : Unforged hmacSha256 floatOf codec issued cursor) :
    codec.decode hmacSha256 floatOf cursor = .error (.http ⟨400, "invalid cursor"⟩) ∨
      ∃ c ∈ issued, codec.decode hmacSha256 floatOf cursor = .ok c := by
  cases h_presented : presented floatOf cursor with
  | error e =>
    have h_body : codec.decodeBody hmacSha256 floatOf cursor = .error e := by
      rw [decodeBody, h_presented]
      rfl
    -- the exceptions raised so far are all among those that `decode` translates
    have h_class := presented_error h_presented
    refine .inl ?_
    rw [decode, h_body]
    cases e with
    | attributeError => exact absurd rfl h_class
    | _ => rfl
  | ok presented =>
    obtain ⟨body, signature⟩ := presented
    have h_body : codec.decodeBody hmacSha256 floatOf cursor =
        (compareDigest signature (codec.sign hmacSha256 (jsonBytes body))).bind fun verified =>
          if verified then cursorOf body else .error .valueError := by
      rw [decodeBody, h_presented]
      rfl
    rcases compareDigest_cases signature (codec.sign hmacSha256 (jsonBytes body)) with
      rfl | h_compare | h_compare
    · -- the signature matches: the body was signed, so it is that of an issued cursor
      obtain ⟨c, h_c, h_bytes⟩ := h body _ h_presented rfl
      rw [compareDigest_self (plainText_sign _)] at h_body
      refine .inr ⟨c, h_c, ?_⟩
      rw [decode, h_body, Except.bind, if_pos rfl, cursorOf_of_jsonBytes h_bytes]
    · -- another signature, or one that cannot be compared
      rw [h_compare] at h_body
      exact .inl (by rw [decode, h_body]; rfl)
    · rw [h_compare] at h_body
      exact .inl (by rw [decode, h_body]; rfl)

/-- **Cursors come back, and only issued ones**: the text of a cursor is decoded to it, and any
text that carries no forged tag is refused with a bad request or is decoded to a cursor that was
issued under the same secret. The bound on the length of the query parameter plays no part. -/
theorem decode_exact (hmacSha256 : List UInt8 → List UInt8 → List UInt8)
    (floatOf : List Char → PyFloat) (codec : WebNotificationCursorCodec) :
    (∀ cursor, codec.decode hmacSha256 floatOf (codec.encode hmacSha256 cursor) = .ok cursor) ∧
      ∀ issued cursor, Unforged hmacSha256 floatOf codec issued cursor →
        codec.decode hmacSha256 floatOf cursor = .error (.http ⟨400, "invalid cursor"⟩) ∨
          ∃ c ∈ issued, codec.decode hmacSha256 floatOf cursor = .ok c :=
  ⟨decode_encode, fun _ _ => decode_issued⟩

/-- The first instant of 1970, and the delivery with the identifier 1. -/
def epochCursor : WebNotificationCursor :=
  ⟨Datetime.ofInstant 0, 1, Datetime.valid_ofInstant (by decide)⟩

/-- The digest of the cursor's payload under the key `"secret"`. -/
def epochDigest : List UInt8 :=
  [204, 75, 224, 114, 58, 184, 6, 16, 156, 97, 20, 179, 151, 183, 162, 177, 31, 87, 22, 43, 185,
    238, 86, 94, 159, 152, 230, 67, 109, 160, 94, 204]

theorem decode_exact_epoch :
    ((⟨"secret"⟩ : WebNotificationCursorCodec).decode (fun _ _ => epochDigest) (fun _ => .nan)
      ((⟨"secret"⟩ : WebNotificationCursorCodec).encode (fun _ _ => epochDigest) epochCursor) =
        .error (.http ⟨400, "invalid cursor"⟩) ∨
      ∃ c ∈ ({epochCursor} : Set WebNotificationCursor),
        (⟨"secret"⟩ : WebNotificationCursorCodec).decode (fun _ _ => epochDigest) (fun _ => .nan)
          ((⟨"secret"⟩ : WebNotificationCursorCodec).encode (fun _ _ => epochDigest) epochCursor) =
            .ok c) := by
  refine (decode_exact (fun _ _ => epochDigest) (fun _ => .nan) ⟨"secret"⟩).2 _ _ ?_
  intro body tag h_presented _
  rw [presented_encode] at h_presented
  obtain rfl := (Prod.ext_iff.mp (Except.ok.inj h_presented)).1
  exact ⟨epochCursor, rfl, rfl⟩

end WebNotificationCursorCodec

end NotificationBroker
