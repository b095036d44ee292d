import NotificationBroker.Core.Auth
import NotificationBroker.Domain.ReadModels
import NotificationBroker.Python.Base64
import NotificationBroker.Python.JsonAscii

/-!
# Cursors

`WebNotificationCursorCodec`. A cursor travels as the Base64 text of a JSON envelope: the
payload, and the signature of the payload's canonical text. The decoder signs the canonical
text of the payload it has parsed, not the bytes it has received.

HMAC-SHA256 is the parameter `hmacSha256`, of the key and the message. What `float` makes of
a number is the parameter `floatOf`, as for `Json.loads`.
-/

namespace NotificationBroker

open Python

/-! ### Exceptions -/

/-- The exceptions the decoder meets, by their class. A `JSONDecodeError`, a
`UnicodeDecodeError` and a `binascii.Error` are value errors. -/
inductive DecodeException
  | keyError
  | typeError
  | valueError
  | attributeError
deriving DecidableEq

/-- What `decode` raises. -/
inductive CursorError
  | http (e : HTTPException)
  | raised (e : DecodeException)
deriving DecidableEq

/-- `value[key]`: only a dictionary has keys that are strings. -/
def subscript (value : Json) (key : String) : Except DecodeException Json :=
  match value with
  | .obj fields =>
    match fields.lookup key with
    | some v => .ok v
    | none => .error .keyError
  | _ => .error .typeError

/-- `hmac.compare_digest(a, b)`: of two strings in ASCII. -/
def compareDigest (a : Json) (b : String) : Except DecodeException Bool :=
  let ascii (text : String) : Bool := text.toList.all fun c => c.toNat < 128
  -- anything but text in ASCII is a `TypeError`
  match a with
  | .str s => if ascii s ∧ ascii b then .ok (s = b) else .error .typeError
  | _ => .error .typeError

/-- `datetime.fromisoformat(value)`, with what makes the result one a `datetime` has. -/
def datetimeOf (value : Json) : Except DecodeException { d : Datetime // d.Valid } :=
  match value with
  | .str text =>
    match h : Datetime.fromisoformat text with
    | some d => .ok ⟨d, Datetime.fromisoformat_valid h⟩
    | none => .error .valueError
  | _ => .error .typeError

/-- `UUID(value)`: the constructor takes `None` for a missing argument, and looks for the
methods of a string on anything else. -/
def uuidOf (value : Json) : Except DecodeException UUID :=
  match value with
  | .str text =>
    match UUID.parse text with
    | some id => .ok id
    | none => .error .valueError
  | .null => .error .typeError
  | _ => .error .attributeError

/-! ### The codec -/

/-- `_json_bytes`. -/
def jsonBytes (value : Json) : List UInt8 := encodeUtf8 (String.ofList value.asciiDumps)

/-- The settings' secret, with which cursors are signed. -/
structure WebNotificationCursorCodec where
  secret : String
deriving DecidableEq

namespace WebNotificationCursorCodec

variable (hmacSha256 : List UInt8 → List UInt8 → List UInt8) (floatOf : List Char → PyFloat)
  (codec : WebNotificationCursorCodec)

/-- `_sign`: two hexadecimal digits for each byte. -/
def sign (body : List UInt8) : String :=
  String.ofList ((hmacSha256 (encodeUtf8 codec.secret) body).flatMap fun byte =>
    UUID.hexText 2 byte.toNat)

/-- The payload of a cursor. -/
def payload (cursor : WebNotificationCursor) : Json :=
  .obj [("delivered_at", .str cursor.deliveredAt.isoformat),
    ("delivery_id", .str cursor.deliveryId.str)]

/-- The payload with its signature. -/
def envelope (cursor : WebNotificationCursor) : Json :=
  .obj [("payload", payload cursor),
    ("signature", .str (codec.sign hmacSha256 (jsonBytes (payload cursor))))]

/-- `encode`. -/
def encode (cursor : WebNotificationCursor) : String :=
  String.ofList (Base64.stripPadding
    (Base64.encode (jsonBytes (codec.envelope hmacSha256 cursor))))

/-- `_base64url_decode`. -/
def base64urlDecode (value : String) : Except DecodeException String :=
  match (Base64.decode (value.toList ++ Base64.padding value.length)).bind decodeUtf8 with
  | some text => .ok text
  | none => .error .valueError

/-- `json.loads(self._base64url_decode(cursor))`, of which the payload and the signature are
taken. -/
def presented (cursor : String) : Except DecodeException (Json × Json) := do
  let text ← base64urlDecode cursor
  let envelope ← match Json.loads floatOf text with
    | some value => .ok value
    | none => .error .valueError
  let payload ← subscript envelope "payload"
  let signature ← subscript envelope "signature"
  return (payload, signature)

/-- The cursor of a payload. -/
def cursorOf (payload : Json) : Except DecodeException WebNotificationCursor := do
  let deliveredAt ← datetimeOf (← subscript payload "delivered_at")
  let deliveryId ← uuidOf (← subscript payload "delivery_id")
  return ⟨deliveredAt.val, deliveryId, deliveredAt.property⟩

/-- The body of `decode`. -/
def decodeBody (cursor : String) : Except DecodeException WebNotificationCursor := do
  let (payload, signature) ← presented floatOf cursor
  -- the payload is trusted only behind the comparison
  if ← compareDigest signature (codec.sign hmacSha256 (jsonBytes payload)) then cursorOf payload
  else .error .valueError

/-- `decode`. -/
def decode (cursor : String) : Except CursorError WebNotificationCursor :=
  match codec.decodeBody hmacSha256 floatOf cursor with
  | .ok c => .ok c
  -- the `except` clause names the three other exceptions
  | .error .attributeError => .error (.raised .attributeError)
  | .error _ => .error (.http ⟨400, "invalid cursor"⟩)

end WebNotificationCursorCodec

end NotificationBroker
