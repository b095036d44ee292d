import Mathlib.Data.Int.Notation
import NotificationBroker.Framework.Stateful

/-!
# `smtplib`

The session of `smtplib.SMTP` that sends one message: the connection with its greeting, the
commands of `send_message`, and `QUIT` when the `with` block is left. The other side is a list
of events, what the server answers to one command after the other and when the connection
fails. A connection keeps a transcript of the commands sent and of what came back.

A reply has a code and a text; that a server may send a line too long for `smtplib` is left
out. `SMTPResponseException` and its subclasses are one constructor of `SmtpError`, with the
class apart.
-/

namespace Python.Smtp

/-- What the server is asked for. -/
inductive Command
  /-- the connection, to be answered by a greeting -/
  | connect
  | ehlo
  | helo
  | mail
  | rcpt (address : String)
  | data
  /-- the text of the message, up to the final dot -/
  | message
  | rset
  | quit
deriving DecidableEq

/-- What comes back. -/
inductive Event
  | reply (code : ℤ) (text : String)
  /-- the connection is closed, reset or times out -/
  | failure (reason : String)
deriving DecidableEq

/-- A command and what came back. -/
structure Exchange where
  command : Command
  event : Event
deriving DecidableEq

/-- `SMTPResponseException` and its subclasses. -/
inductive ResponseClass
  | responseException
  | connectError
  | heloError
  | senderRefused
  | dataError
deriving DecidableEq

/-- The exceptions of a session. All are `OSError`s, and all but `osError` are
`SMTPException`s. -/
inductive SmtpError
  /-- an `SMTPResponseException` -/
  | response (type : ResponseClass) (smtpCode : ℤ) (smtpError : String)
  | recipientsRefused (recipients : List (String × ℤ × String))
  | serverDisconnected (message : String)
  | notSupported (message : String)
  /-- any other `OSError`, with the name of its class -/
  | osError (className message : String)
deriving DecidableEq

/-- `exc.__class__.__name__`. -/
def SmtpError.className : SmtpError → String
  | response .responseException _ _ => "SMTPResponseException"
  | response .connectError _ _ => "SMTPConnectError"
  | response .heloError _ _ => "SMTPHeloError"
  | response .senderRefused _ _ => "SMTPSenderRefused"
  | response .dataError _ _ => "SMTPDataError"
  | recipientsRefused _ => "SMTPRecipientsRefused"
  | serverDisconnected _ => "SMTPServerDisconnected"
  | notSupported _ => "SMTPNotSupportedError"
  | osError className _ => className

/-- A conversation: how the connection attempt goes, an `OSError` or a connection, and what
comes back over the connection. -/
structure Conversation where
  refused : Option (String × String)
  events : List Event

/-- A connection: what is still to come over it, and what was said. -/
structure Connection where
  isOpen : Bool
  events : List Event
  transcript : List Exchange

/-- A step of a session. -/
abbrev Session (α : Type) := ExceptT SmtpError (StateM Connection) α

/-- What a session needs to know of a message: the addresses of its sender and of its
recipients, and if all of them are ASCII. -/
structure Envelope where
  fromAddr : String
  toAddrs : List String

def Envelope.isAscii (envelope : Envelope) : Bool :=
  (envelope.fromAddr :: envelope.toAddrs).all fun address => address.toList.all (·.toNat < 128)

/-- `close`. -/
def close : Session Unit := Stateful.step fun c => (.ok (), { c with isOpen := false })

/-- `putcmd` and `getreply`. -/
def exchange (command : Command) : Session (ℤ × String) := Stateful.step fun c =>
  if c.isOpen then
    match c.events with
    | .reply code text :: rest =>
      (.ok (code, text), ⟨true, rest, c.transcript ++ [⟨command, .reply code text⟩]⟩)
    | .failure reason :: rest =>
      (.error (.serverDisconnected ("Connection unexpectedly closed: " ++ reason)),
        ⟨false, rest, c.transcript ++ [⟨command, .failure reason⟩]⟩)
    -- the server has gone
    | [] =>
      (.error (.serverDisconnected "Connection unexpectedly closed"),
        ⟨false, [], c.transcript ++ [⟨command, .failure "closed"⟩]⟩)
  else (.error (.serverDisconnected "please run connect() first"), c)

/-- `SMTP(host, port, timeout)`. -/
def connect (conversation : Conversation) : Session Unit :=
  match conversation.refused with
  | some (className, message) => throw (.osError className message)
  | none => do
    let (code, text) ← exchange .connect
    if code ≠ 220 then do
      close
      throw (.response .connectError code text)
    else return

/-- The names of the extensions in the answer to `EHLO`, one to a line after the first. -/
def features (text : String) : List String :=
  ((text.splitOn "\n").drop 1).map fun line =>
    (String.ofList (line.toList.takeWhile fun c => c.isAlphanum || c == '-')).toLower

/-- `ehlo`. -/
def ehlo : Session (ℤ × String) := do
  let (code, text) ← exchange .ehlo
  if code = -1 ∧ text = "" then do
    close
    throw (.serverDisconnected "Server not connected")
  else return (code, text)

/-- `ehlo_or_helo_if_needed`: the extensions the server has. -/
def ehloOrHelo : Session (List String) := do
  let (code, text) ← ehlo
  if 200 ≤ code ∧ code ≤ 299 then return if code = 250 then features text else []
  else do
    let (code, text) ← exchange .helo
    if 200 ≤ code ∧ code ≤ 299 then return []
    else throw (.response .heloError code text)

/-- `_rset`: the connection may be lost. -/
def rset : Session Unit :=
  tryCatch (do let _ ← exchange .rset) fun e =>
    match e with
    | .serverDisconnected _ => return
    | e => throw e

/-- What follows a refusal, and the exception for it. -/
def refuse (type : ResponseClass) (code : ℤ) (text : String) : Session Unit := do
  (if code = 421 then close else rset)
  throw (.response type code text)

/-- `senderrs[address] = (code, resp)`. -/
def setError (errors : List (String × ℤ × String)) (address : String) (code : ℤ) (text : String) :
    List (String × ℤ × String) :=
  if errors.any (·.1 = address) then
    errors.map fun error => if error.1 = address then (address, code, text) else error
  else errors ++ [(address, code, text)]

/-- The loop over the recipients: those that are refused. -/
def rcptAll (errors : List (String × ℤ × String)) :
    List String → Session (List (String × ℤ × String))
  | [] => return errors
  | each :: rest => do
    let (code, text) ← exchange (.rcpt each)
    let errors := if code ≠ 250 ∧ code ≠ 251 then setError errors each code text else errors
    -- the server is about to close the connection
    if code = 421 then do
      close
      throw (.recipientsRefused errors)
    else rcptAll errors rest

/-- `data`. -/
def data : Session (ℤ × String) := do
  let (code, text) ← exchange .data
  if code ≠ 354 then throw (.response .dataError code text)
  else exchange .message

/-- `sendmail`, for a session that has said hello. -/
def sendmail (toAddrs : List String) : Session Unit := do
  let (code, text) ← exchange .mail
  if code ≠ 250 then refuse .senderRefused code text
  else do
    let errors ← rcptAll [] toAddrs
    -- all recipients have been refused
    if errors.length = toAddrs.length then do
      rset
      throw (.recipientsRefused errors)
    else do
      let (code, text) ← data
      if code ≠ 250 then refuse .dataError code text else return

/-- `send_message`. -/
def sendMessage (envelope : Envelope) : Session Unit := do
  let extensions ← ehloOrHelo
  if ¬ envelope.isAscii ∧ "smtputf8" ∉ extensions then
    throw (.notSupported ("One or more source or delivery addresses require internationalized " ++
      "email support, but the server does not advertise the required SMTPUTF8 capability"))
  else sendmail envelope.toAddrs

/-- `QUIT`, when the `with` block is left: a lost connection is ignored. -/
def quit : Session Unit :=
  tryCatch (do
    let (code, text) ← exchange .quit
    if code ≠ 221 then throw (.response .responseException code text) else return) fun e =>
      match e with
      | .serverDisconnected _ => return
      | e => throw e

/-- `__exit__`. -/
def exit : Session Unit := do
  tryCatch quit fun e => do
    close
    throw e
  close

/-- The connection before anything is said. -/
def Conversation.start (conversation : Conversation) : Connection := ⟨true, conversation.events, []⟩

end Python.Smtp
