import NotificationBroker.Python.IntText
import NotificationBroker.Python.Utf8

/-!
# The limit on request bodies

`RequestBodyLimitMiddleware`: a request is answered with 413 if its `Content-Length` or its body
exceeds the limit, and otherwise the application is called, with a `receive` that replays the body
as one message.

What comes in on a connection is a list of messages; `receive` waits when there are none left.
-/

namespace NotificationBroker

open Python

/-- What `receive` returns. A message that does not concern the body is known by its type. -/
inductive AsgiMessage
  | request (body : Option (List UInt8)) (moreBody : Option Bool)
  | disconnect
  | other (type : String)
deriving DecidableEq

/-- A header, its name and its value. -/
abbrev AsgiHeader := List UInt8 × List UInt8

structure AsgiScope where
  type : String
  headers : Option (List AsgiHeader)

/-- The state of `replay_receive`. -/
structure ReplayReceive where
  disconnected : Bool
  body : List UInt8
  delivered : Bool
deriving DecidableEq

/-- `replay_receive`. -/
def ReplayReceive.receive (replay : ReplayReceive) : AsgiMessage × ReplayReceive :=
  if replay.disconnected then (.disconnect, replay)
  else if ¬ replay.delivered then
    (.request (some replay.body) (some false), { replay with delivered := true })
  else (.request (some []) (some false), replay)

/-- What the application reads, as often as it does. -/
def ReplayReceive.reads : ℕ → ReplayReceive → List AsgiMessage
  | 0, _ => []
  | n + 1, replay =>
    let (message, replay) := replay.receive
    message :: reads n replay

/-- The `receive` that the application is called with: the server's own, or a replay. -/
inductive AppReceive
  | server
  | replay (replay : ReplayReceive)
deriving DecidableEq

/-- A connection: the messages that are still to be received, the responses of the middleware
itself and the calls of the application. -/
structure AsgiConnection where
  incoming : List AsgiMessage
  responses : List (ℕ × String)
  appCalls : List AppReceive
deriving DecidableEq

/-- How the loop over the messages ends. -/
inductive BodyRead
  | ended (body : List UInt8) (disconnected : Bool)
  | tooLarge
deriving DecidableEq

structure RequestBodyLimitMiddleware where
  maxBodyBytes : ℕ
  positive : 0 < maxBodyBytes

namespace RequestBodyLimitMiddleware

variable (middleware : RequestBodyLimitMiddleware)

/-- `name.lower()` for `bytes`. -/
def lowerBytes (name : List UInt8) : List UInt8 :=
  name.map fun b => if 65 ≤ b ∧ b ≤ 90 then b + 32 else b

/-- The loop of `_content_length`. -/
def contentLengthOf : List AsgiHeader → Option ℤ
  | [] => none
  | (name, value) :: headers =>
    if lowerBytes name = encodeUtf8 "content-length" then intOfBytes value
    else contentLengthOf headers

/-- `_content_length`. -/
def contentLength (scope : AsgiScope) : Option ℤ := contentLengthOf (scope.headers.getD [])

/-- The loop over the messages; `none` waits. -/
def readBody (maxBodyBytes : ℕ) :
    List UInt8 → List AsgiMessage → Option (BodyRead × List AsgiMessage)
  | _, [] => none
  | body, .disconnect :: incoming => some (.ended body true, incoming)
  -- `continue`
  | body, .other _ :: incoming => readBody maxBodyBytes body incoming
  | body, .request chunk moreBody :: incoming =>
    let body := body ++ chunk.getD []
    -- compared chunk by chunk, so the loop holds one chunk more than the limit at most
    if maxBodyBytes < body.length then some (.tooLarge, incoming)
    else if moreBody.getD false then readBody maxBodyBytes body incoming
    else some (.ended body false, incoming)

/-- `_reject`. -/
def reject (connection : AsgiConnection) : AsgiConnection :=
  { connection with responses := connection.responses ++ [(413, "request body is too large")] }

/-- `await self._app(scope, receive, send)`. -/
def callApp (receive : AppReceive) (connection : AsgiConnection) : AsgiConnection :=
  { connection with appCalls := connection.appCalls ++ [receive] }

/-- `__call__`; `none` waits. -/
def call (scope : AsgiScope) (connection : AsgiConnection) : Option AsgiConnection :=
  if scope.type ≠ "http" then some (callApp .server connection)
  else if (contentLength scope).any fun n => decide ((middleware.maxBodyBytes : ℤ) < n) then
    some (reject connection)
  else
    (readBody middleware.maxBodyBytes [] connection.incoming).map fun
      | (.tooLarge, incoming) => reject { connection with incoming := incoming }
      | (.ended body disconnected, incoming) =>
        callApp (.replay ⟨disconnected, body, false⟩) { connection with incoming := incoming }

end RequestBodyLimitMiddleware

end NotificationBroker
