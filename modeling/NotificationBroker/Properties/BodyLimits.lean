import NotificationBroker.Core.HttpLimits

/-!
# What the application gets of a request

`call_exact` compares the middleware with the request as a whole: the messages up to the last chunk
of the body or a disconnect (`RequestMessages`), the bytes in them (`bodyOf`) and the first
`Content-Length` header. The request is refused exactly if one of the two exceeds the limit, and
otherwise the application is called once and reads the body in one message, or nothing but a
disconnect.

The loop compares the bytes of every prefix of the messages with the limit, and so it ends before
the last message if an earlier one exceeds it (`readBody_eq`, by induction on the messages).
-/

namespace NotificationBroker

open Python

namespace AsgiMessage

/-- The bytes of the body in a message. -/
def bytes : AsgiMessage → List UInt8
  | request body _ => body.getD []
  | _ => []

@[simp] theorem bytes_request (body : Option (List UInt8)) (moreBody : Option Bool) :
    (request body moreBody).bytes = body.getD [] := rfl

@[simp] theorem bytes_disconnect : disconnect.bytes = [] := rfl

@[simp] theorem bytes_other (type : String) : (other type).bytes = [] := rfl

/-- Nothing of the request follows: the last chunk of the body, or a disconnect. -/
def isLast : AsgiMessage → Bool
  | request _ moreBody => ! moreBody.getD false
  | disconnect => true
  | other _ => false

end AsgiMessage

/-- The messages of one request, up to the last chunk of the body or a disconnect. -/
structure RequestMessages where
  before : List AsgiMessage
  last : AsgiMessage
  before_open : ∀ m ∈ before, m.isLast = false
  last_ends : last.isLast = true

namespace RequestMessages

variable (request : RequestMessages)

/-- The messages in the order in which they are received. -/
def messages : List AsgiMessage := request.before ++ [request.last]

/-- The chunks of the body, one behind the other. -/
def bodyOf : List UInt8 := request.messages.flatMap AsgiMessage.bytes

/-- The client has gone before the body was complete. -/
def disconnected : Bool := decide (request.last = .disconnect)

end RequestMessages

/-- The first `Content-Length` header, if it is an integer. -/
def AsgiScope.contentLength (scope : AsgiScope) : Option ℤ :=
  ((scope.headers.getD []).find? fun header =>
    RequestBodyLimitMiddleware.lowerBytes header.1 = encodeUtf8 "content-length").bind
      fun header => intOfBytes header.2

namespace RequestBodyLimitMiddleware

variable {middleware : RequestBodyLimitMiddleware} {maxBodyBytes : ℕ}

/-- The request exceeds the limit, by its header or by its body. -/
def Exceeds (middleware : RequestBodyLimitMiddleware) (scope : AsgiScope)
    (request : RequestMessages) : Prop :=
  (∃ n, scope.contentLength = some n ∧ (middleware.maxBodyBytes : ℤ) < n) ∨
    middleware.maxBodyBytes < request.bodyOf.length

theorem contentLength_eq (scope : AsgiScope) : contentLength scope = scope.contentLength := by
  rw [contentLength, AsgiScope.contentLength]
  generalize scope.headers.getD [] = headers
  induction headers with
  | nil => rfl
  | cons header headers ih =>
    obtain ⟨name, value⟩ := header
    rw [contentLengthOf, List.find?_cons]
    by_cases h_name : lowerBytes name = encodeUtf8 "content-length"
    · simp only [h_name, if_true, decide_true, Option.bind_some]
    · simp only [h_name, if_false, decide_false]
      exact ih

/-! ### The loop -/

/-- The loop goes on behind a message that is not the last, unless the body is too large. -/
theorem readBody_cons {message : AsgiMessage} (h_open : message.isLast = false)
    (body : List UInt8) (h_body : body.length ≤ maxBodyBytes) (incoming : List AsgiMessage) :
    readBody maxBodyBytes body (message :: incoming) =
      if maxBodyBytes < (body ++ message.bytes).length then some (.tooLarge, incoming)
      else readBody maxBodyBytes (body ++ message.bytes) incoming := by
  cases message with
  | request chunk moreBody =>
    have h_more : moreBody.getD false = true := by simpa [AsgiMessage.isLast] using h_open
    simp only [readBody, AsgiMessage.bytes_request, h_more]
    rfl
  | disconnect => exact absurd h_open (by simp [AsgiMessage.isLast])
  | other type =>
    rw [readBody, AsgiMessage.bytes_other, List.append_nil, if_neg (Nat.not_lt.mpr h_body)]

/-- At the last message the loop ends. -/
theorem readBody_last {message : AsgiMessage} (h_last : message.isLast = true)
    (body : List UInt8) (h_body : body.length ≤ maxBodyBytes) (incoming : List AsgiMessage) :
    readBody maxBodyBytes body (message :: incoming) =
      if maxBodyBytes < (body ++ message.bytes).length then some (.tooLarge, incoming)
      else some (.ended (body ++ message.bytes) (decide (message = .disconnect)), incoming) := by
  cases message with
  | request chunk moreBody =>
    have h_more : moreBody.getD false = false := by simpa [AsgiMessage.isLast] using h_last
    simp only [readBody, AsgiMessage.bytes_request, h_more]
    rfl
  | disconnect =>
    rw [readBody, AsgiMessage.bytes_disconnect, List.append_nil, if_neg (Nat.not_lt.mpr h_body)]
    rfl
  | other type => exact absurd h_last (by simp [AsgiMessage.isLast])

/-- **The loop compares the whole body with the limit**, although it stops at the first chunk that
exceeds it. -/
theorem readBody_eq (before : List AsgiMessage) (h_open : ∀ m ∈ before, m.isLast = false)
    {last : AsgiMessage} (h_last : last.isLast = true) (rest : List AsgiMessage)
    (body : List UInt8) (h_body : body.length ≤ maxBodyBytes) :
    ∃ incoming, readBody maxBodyBytes body (before ++ last :: rest) =
      some (if maxBodyBytes <
          (body ++ (before ++ [last]).flatMap AsgiMessage.bytes).length then .tooLarge
        else .ended (body ++ (before ++ [last]).flatMap AsgiMessage.bytes)
          (decide (last = .disconnect)), incoming) := by
  induction before generalizing body with
  | nil =>
    rw [List.nil_append, List.nil_append, List.flatMap_singleton, readBody_last h_last body h_body]
    by_cases h_large : maxBodyBytes < (body ++ last.bytes).length
    · rw [if_pos h_large, if_pos h_large]
      exact ⟨rest, rfl⟩
    · rw [if_neg h_large, if_neg h_large]
      exact ⟨rest, rfl⟩
  | cons message before ih =>
    rw [List.forall_mem_cons] at h_open
    rw [List.cons_append, List.cons_append, List.flatMap_cons, ← List.append_assoc,
      readBody_cons h_open.1 body h_body]
    by_cases h_large : maxBodyBytes < (body ++ message.bytes).length
    · -- the rest of the body does not bring it back below the limit
      have h_whole : maxBodyBytes <
          (body ++ message.bytes ++ (before ++ [last]).flatMap AsgiMessage.bytes).length := by
        rw [List.length_append]
        omega
      rw [if_pos h_large, if_pos h_whole]
      exact ⟨_, rfl⟩
    · rw [if_neg h_large]
      exact ih h_open.2 (body ++ message.bytes) (Nat.not_lt.mp h_large)

end RequestBodyLimitMiddleware

/-! ### The replay -/

namespace ReplayReceive

/-- Behind the body, the application reads empty messages. -/
theorem reads_delivered (body : List UInt8) (n : ℕ) :
    reads n ⟨false, body, true⟩ = List.replicate n (.request (some []) (some false)) := by
  induction n with
  | zero => rfl
  | succ n ih => exact congrArg (_ :: ·) ih

/-- The body is one message. -/
theorem reads_body (body : List UInt8) (n : ℕ) :
    reads (n + 1) ⟨false, body, false⟩ = .request (some body) (some false) ::
      List.replicate n (.request (some []) (some false)) :=
  congrArg (_ :: ·) (reads_delivered body n)

theorem reads_disconnected (body : List UInt8) (delivered : Bool) (n : ℕ) :
    reads n ⟨true, body, delivered⟩ = List.replicate n .disconnect := by
  induction n with
  | zero => rfl
  | succ n ih => exact congrArg (_ :: ·) ih

theorem bytes_replicate {message : AsgiMessage} (h : message.bytes = []) (n : ℕ) :
    (List.replicate n message).flatMap AsgiMessage.bytes = [] := by
  refine List.flatMap_eq_nil_iff.mpr fun m h_m => ?_
  rw [List.eq_of_mem_replicate h_m, h]

/-- However often the application reads, it gets no more than the body. -/
theorem length_bytes_reads (replay : ReplayReceive) (n : ℕ) :
    ((reads n replay).flatMap AsgiMessage.bytes).length ≤ replay.body.length := by
  obtain ⟨disconnected, body, delivered⟩ := replay
  cases disconnected with
  | true =>
    -- a disconnect is all it gets
    rw [reads_disconnected, bytes_replicate rfl]
    exact Nat.zero_le _
  | false =>
    cases delivered with
    | true =>
      -- the body has been read already
      rw [reads_delivered, bytes_replicate rfl]
      exact Nat.zero_le _
    | false =>
      cases n with
      | zero => exact Nat.zero_le _
      | succ n =>
        -- the first message is the whole body
        rw [reads_body, List.flatMap_cons, bytes_replicate rfl, List.append_nil]
        exact Nat.le_refl _

end ReplayReceive

/-! ### A request -/

namespace RequestBodyLimitMiddleware

variable {middleware : RequestBodyLimitMiddleware} {scope : AsgiScope} {request : RequestMessages}

/-- What the application reads of a request: the body in one message, and then nothing more, or
that the client has gone. -/
def appReads (request : RequestMessages) : ℕ → List AsgiMessage
  | 0 => []
  | n + 1 =>
    if request.disconnected then List.replicate (n + 1) .disconnect
    else .request (some request.bodyOf) (some false) ::
      List.replicate n (.request (some []) (some false))

theorem reads_eq_appReads (request : RequestMessages) (n : ℕ) :
    ReplayReceive.reads n ⟨request.disconnected, request.bodyOf, false⟩ = appReads request n := by
  cases n with
  | zero => rfl
  | succ n =>
    rw [appReads]
    cases request.disconnected with
    | true => exact ReplayReceive.reads_disconnected request.bodyOf false (n + 1)
    | false => exact ReplayReceive.reads_body request.bodyOf n

theorem any_contentLength : ((contentLength scope).any fun n =>
    decide ((middleware.maxBodyBytes : ℤ) < n)) = true ↔
      ∃ n, scope.contentLength = some n ∧ (middleware.maxBodyBytes : ℤ) < n := by
  rw [contentLength_eq, Option.any_eq_true]
  simp only [decide_eq_true_eq]

theorem call_of_header {incoming : List AsgiMessage} (h_http : scope.type = "http")
    (h : ∃ n, scope.contentLength = some n ∧ (middleware.maxBodyBytes : ℤ) < n) :
    middleware.call scope ⟨incoming, [], []⟩ =
      some ⟨incoming, [(413, "request body is too large")], []⟩ := by
  rw [call, if_neg (fun h_type => h_type h_http), if_pos (any_contentLength.mpr h)]
  rfl

/-- What becomes of the connection once the loop has ended. -/
def connectionAfter (incoming : List AsgiMessage) : BodyRead → AsgiConnection
  | .tooLarge => ⟨incoming, [(413, "request body is too large")], []⟩
  | .ended body disconnected => ⟨incoming, [], [.replay ⟨disconnected, body, false⟩]⟩

theorem call_of_body {incoming incoming' : List AsgiMessage} {read : BodyRead}
    (h_http : scope.type = "http")
    (h : ¬ ∃ n, scope.contentLength = some n ∧ (middleware.maxBodyBytes : ℤ) < n)
    (h_read : readBody middleware.maxBodyBytes [] incoming = some (read, incoming')) :
    middleware.call scope ⟨incoming, [], []⟩ = some (connectionAfter incoming' read) := by
  rw [call, if_neg (fun h_type => h_type h_http), if_neg (mt any_contentLength.mp h), h_read]
  cases read with
  | tooLarge => rfl
  | ended body disconnected => rfl

theorem readBody_request (request : RequestMessages) (rest : List AsgiMessage) :
    ∃ incoming, readBody middleware.maxBodyBytes [] (request.messages ++ rest) =
      some (if middleware.maxBodyBytes < request.bodyOf.length then .tooLarge
        else .ended request.bodyOf request.disconnected, incoming) := by
  have h_messages : request.messages ++ rest = request.before ++ request.last :: rest := by
    rw [RequestMessages.messages, List.append_assoc, List.singleton_append]
  rw [h_messages]
  exact readBody_eq request.before request.before_open request.last_ends rest []
    (Nat.zero_le middleware.maxBodyBytes)

/-- **A request is refused, or the application is called with its body.** -/
theorem call_exact (middleware : RequestBodyLimitMiddleware) (scope : AsgiScope)
    (h_http : scope.type = "http") (request : RequestMessages) (rest : List AsgiMessage) :
    ∃ connection, middleware.call scope ⟨request.messages ++ rest, [], []⟩ = some connection ∧
      ((connection.responses = [(413, "request body is too large")] ∧ connection.appCalls = []) ↔
        middleware.Exceeds scope request) ∧
      (¬ middleware.Exceeds scope request → connection.responses = [] ∧
        ∃ replay, connection.appCalls = [.replay replay] ∧
          ∀ n, replay.reads n = appReads request n ∧
            ((replay.reads n).flatMap AsgiMessage.bytes).length ≤ middleware.maxBodyBytes) := by
  by_cases h_header : ∃ n, scope.contentLength = some n ∧ (middleware.maxBodyBytes : ℤ) < n
  · -- the declared length is refused before a message is read
    refine ⟨_, call_of_header h_http h_header, ?_, fun h => absurd (.inl h_header) h⟩
    exact iff_of_true ⟨rfl, rfl⟩ (.inl h_header)
  · obtain ⟨incoming, h_read⟩ := readBody_request request rest
    have h_call := call_of_body h_http h_header h_read
    by_cases h_large : middleware.maxBodyBytes < request.bodyOf.length
    · -- the loop stops at the chunk that exceeds the limit
      refine ⟨_, h_call, ?_, fun h => absurd (.inr h_large) h⟩
      rw [if_pos h_large]
      exact iff_of_true ⟨rfl, rfl⟩ (.inr h_large)
    · -- the application is called, on a replay of what the loop has read
      have h_not : ¬ middleware.Exceeds scope request := fun h => h.elim h_header h_large
      refine ⟨_, h_call, ?_, fun _ => ?_⟩
      · rw [if_neg h_large]
        exact iff_of_false (fun h => List.cons_ne_nil _ _ h.1.symm) h_not
      · rw [if_neg h_large]
        refine ⟨rfl, _, rfl, fun n => ⟨reads_eq_appReads request n, ?_⟩⟩
        exact Nat.le_trans (ReplayReceive.length_bytes_reads _ n) (Nat.not_lt.mp h_large)

/-- A body in two chunks, with another message between them, which just fits. -/
def chunkedRequest : RequestMessages where
  before := [.request (some [1, 2, 3]) (some true), .other "http.response.debug"]
  last := .request (some [4, 5]) none
  before_open := by decide
  last_ends := rfl

theorem call_exact_chunkedRequest :
    ∃ connection, call ⟨5, by decide⟩ ⟨"http", none⟩ ⟨chunkedRequest.messages ++ [], [], []⟩ =
        some connection ∧
      connection.responses = [] ∧ ∃ replay, connection.appCalls = [.replay replay] ∧
        replay.reads 2 = [.request (some [1, 2, 3, 4, 5]) (some false),
          .request (some []) (some false)] := by
  obtain ⟨connection, h_call, -, h_called⟩ :=
    call_exact ⟨5, by decide⟩ ⟨"http", none⟩ rfl chunkedRequest []
  have h_fits : ¬ Exceeds ⟨5, by decide⟩ ⟨"http", none⟩ chunkedRequest := by
    rintro (⟨n, h_n, -⟩ | h_large)
    · exact Option.some_ne_none n h_n.symm
    · exact absurd h_large (by decide)
  obtain ⟨h_responses, replay, h_app, h_reads⟩ := h_called h_fits
  exact ⟨connection, h_call, h_responses, replay, h_app, (h_reads 2).1⟩

end RequestBodyLimitMiddleware

end NotificationBroker
