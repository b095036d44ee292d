import NotificationBroker.Db.Models
import NotificationBroker.Domain.Results
import NotificationBroker.Python.Smtp
import NotificationBroker.Workers.EmailTemplates

/-!
# The email adapter

`EmailDeliveryAdapter.deliver`: the message is built, a session sends it, and the exceptions
of the session become outcomes. The session with its server is a `Conversation` of
`Python.Smtp`.
-/

namespace NotificationBroker

open Python
open Python.Smtp (Conversation Connection Envelope Session SmtpError)

/-- A row of `users`, as the adapter reads it. -/
structure EmailUser where
  id : UUID
  email : String
  displayName : String

/-- An `EmailMessage`: its headers and its two bodies. -/
structure EmailMessage where
  sender : String
  recipient : String
  subject : String
  messageId : String
  plainBody : String
  htmlBody : String
deriving DecidableEq

/-- What the adapter uses of Python's library: `str.lower`, `email.utils.getaddresses` and the
text of an exception. -/
structure EmailLibrary where
  lower : String → String
  getaddresses : String → List String
  str : SmtpError → String

structure EmailDeliveryAdapter where
  fromAddress : String
  renderer : EmailTemplateRenderer
  library : EmailLibrary

/-- A character at which `str.splitlines` breaks. -/
def isLineBreak (c : Char) : Bool :=
  c.toNat ∈ [10, 11, 12, 13, 28, 29, 30, 0x85, 0x2028, 0x2029]

/-- `len(text.splitlines()) > 1`: something follows the first line break, which may be a
carriage return and a line feed. -/
def hasLines (text : List Char) : Bool :=
  match text.dropWhile (! isLineBreak ·) with
  | [] | [_] => false
  | ['\r', '\n'] => false
  | _ => true

namespace EmailDeliveryAdapter

variable (adapter : EmailDeliveryAdapter)

/-- The exceptions of `_message`. -/
inductive MessageError
  | emailTemplateError
  | valueError (message : String)
  | other (e : PyError)
deriving DecidableEq

/-- `_message_id`: the domain is what follows the last `@`. -/
def messageId (delivery : Delivery) : Except MessageError String :=
  let reversed := adapter.fromAddress.toList.reverse
  let domain := (reversed.takeWhile (· ≠ '@')).reverse
  if '@' ∉ reversed ∨ domain = [] ∨ domain.any (· ∈ ['\r', '\n', ' ', '<', '>']) then
    .error (.valueError "from address must contain a safe domain")
  else
    .ok ("<notification-" ++ delivery.id.str ++ "@" ++
      adapter.library.lower (String.ofList domain) ++ ">")

/-- `message[name] = value`. -/
def header (value : String) : Except MessageError String :=
  if hasLines value.toList then
    .error (.valueError "Header values may not contain linefeed or carriage return characters")
  else .ok value

/-- The context of the templates. -/
def context (delivery : Delivery) (notification : Notification) (user : EmailUser) :
    EmailContext where
  deliveryId := delivery.id.str
  notificationId := notification.id.str
  message := notification.message
  severity := notification.severity.value
  sourceService := notification.sourceService
  userId := user.id.str
  displayName := user.displayName
  email := user.email

/-- `_message`. -/
def message (delivery : Delivery) (notification : Notification) (user : EmailUser) :
    Except MessageError EmailMessage := do
  let rendered ← match adapter.renderer.render (context delivery notification user) with
    | .ok rendered => .ok rendered
    | .error (.emailTemplateError _) => .error .emailTemplateError
    | .error (.other (.valueError text)) => .error (.valueError text)
    | .error (.other e) => .error (.other e)
  -- a header with a line break raises `ValueError`
  let sender ← header adapter.fromAddress
  let recipient ← header user.email
  let subject ← header rendered.subject
  let messageId ← adapter.messageId delivery
  let messageId ← header messageId
  return ⟨sender, recipient, subject, messageId, rendered.plainBody, rendered.htmlBody⟩

/-- The addresses `send_message` reads off the headers. -/
def envelope (message : EmailMessage) : Envelope where
  fromAddr := (adapter.library.getaddresses message.sender).headD ""
  toAddrs := adapter.library.getaddresses message.recipient

/-- `_smtp_response_outcome`. -/
def smtpResponseOutcome (smtpCode : ℤ) (smtpError : String) : DeliveryOutcome where
  status := if 400 ≤ smtpCode ∧ smtpCode < 500 then .failedRetryable else .failedTerminal
  providerMessageId := none
  errorCode := some (toString smtpCode)
  errorMessage := some smtpError

/-- The `except` clauses around the session. -/
def failureOutcome : SmtpError → DeliveryOutcome
  -- a subclass with an SMTP code has its own clause
  | .response _ smtpCode smtpError => smtpResponseOutcome smtpCode smtpError
  | e => ⟨.failedRetryable, none, some e.className, some (adapter.library.str e)⟩

/-- `with self._smtp_factory() as smtp: smtp.send_message(message)`, from a connection that
has been made: an exception of `__exit__` replaces that of the body. -/
def sendAndQuit (message : EmailMessage) : Session Unit := do
  tryCatch (Smtp.sendMessage (adapter.envelope message)) fun e => do
    Smtp.exit
    throw e
  Smtp.exit

/-- The session. -/
def session (conversation : Conversation) (message : EmailMessage) : Session Unit := do
  Smtp.connect conversation
  adapter.sendAndQuit message

/-- `deliver`. -/
def deliver (conversation : Conversation) (delivery : Delivery) (notification : Notification)
    (user : EmailUser) : Except PyError DeliveryOutcome :=
  match adapter.message delivery notification user with
  | .error .emailTemplateError => .ok ⟨.failedTerminal, none, some "email_template_error",
      some "email template rendering failed"⟩
  | .error (.valueError _) => .ok ⟨.failedTerminal, none, some "email_message_error",
      some "email headers or identifiers are invalid"⟩
  -- what neither clause catches is left to the worker
  | .error (.other e) => .error e
  | .ok message =>
    match (Stateful.result (adapter.session conversation message) conversation.start).1 with
    | .ok () => .ok ⟨.delivered, some message.messageId, none, none⟩
    | .error e => .ok (adapter.failureOutcome e)

end EmailDeliveryAdapter

end NotificationBroker
