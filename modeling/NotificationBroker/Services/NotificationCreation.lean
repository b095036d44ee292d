import NotificationBroker.Db.Repositories.Notifications
import NotificationBroker.Services.Idempotency

/-!
# The notification creation service

`NotificationCreationService.create_notification`: look the request up under its
identity, insert it if it is new, and look it up again if the insertion meets a
concurrent one through a unique index.
-/

namespace NotificationBroker

open Python

/-- What makes two requests the same: the explicit key of the source, or its
payload within a time window. -/
inductive NotificationIdentity
  | explicit (sourceService idempotencyKey : String)
  | fallback (sourceService deduplicationHash : String) (windowStart : Instant)
deriving DecidableEq

namespace NotificationIdentity

/-- The lookup of an identity. -/
def find (rows : List Notification) : NotificationIdentity → Option Notification
  | explicit sourceService idempotencyKey =>
    findByExplicitIdempotencyKey rows sourceService idempotencyKey
  | fallback sourceService deduplicationHash windowStart =>
    findByFallbackHash rows sourceService deduplicationHash windowStart

/-- `idempotency_key` of a new row. -/
def idempotencyKey : NotificationIdentity → Option String
  | explicit _ key => some key
  | fallback .. => none

/-- `deduplication_hash` of a new row. -/
def deduplicationHash : NotificationIdentity → Option String
  | explicit .. => none
  | fallback _ hash _ => some hash

/-- `deduplication_window_start` of a new row. -/
def windowStart : NotificationIdentity → Option Instant
  | explicit .. => none
  | fallback _ _ start => some start

/-- The rows a lookup of the identity finds. -/
def Matches (n : Notification) : NotificationIdentity → Prop
  | explicit sourceService key => n.sourceService = sourceService ∧ n.idempotencyKey = some key
  | fallback sourceService hash start => n.sourceService = sourceService ∧
      n.idempotencyKey = none ∧ n.deduplicationHash = some hash ∧
      n.deduplicationWindowStart = some start

theorem find_some {identity : NotificationIdentity} {rows : List Notification} {n : Notification}
    (h : identity.find rows = some n) : n ∈ rows ∧ identity.Matches n := by
  cases identity with
  | explicit sourceService key =>
    exact ⟨List.mem_of_find?_eq_some h, by simpa [Matches] using List.find?_some h⟩
  | fallback sourceService hash start =>
    exact ⟨List.mem_of_find?_eq_some h, by simpa [Matches] using List.find?_some h⟩

theorem find_none {identity : NotificationIdentity} {rows : List Notification}
    (h : identity.find rows = none) {n : Notification} (hn : n ∈ rows) : ¬ identity.Matches n := by
  cases identity with
  | explicit sourceService key =>
    exact fun h_match => absurd (List.find?_eq_none.mp h n hn) (by simpa [Matches] using h_match)
  | fallback sourceService hash start =>
    exact fun h_match => absurd (List.find?_eq_none.mp h n hn) (by simpa [Matches] using h_match)

/-- A row has one identity. -/
theorem Matches.unique {identity identity' : NotificationIdentity} {n : Notification}
    (h : identity.Matches n) (h' : identity'.Matches n) : identity = identity' := by
  cases identity <;> cases identity' <;> simp_all [Matches]

/-- Two rows with one identity conflict on a unique index. -/
theorem Matches.conflicts {identity : NotificationIdentity} {a b : Notification}
    (ha : identity.Matches a) (hb : identity.Matches b) : a.conflicts b = true := by
  cases identity with
  | explicit sourceService key =>
    simp [Notification.conflicts, ha.1, ha.2, hb.1, hb.2]
  | fallback sourceService hash start =>
    obtain ⟨h₁, h₂, h₃, h₄⟩ := ha
    obtain ⟨h₁', h₂', h₃', h₄'⟩ := hb
    simp [Notification.conflicts, h₁, h₂, h₃, h₄, h₁', h₂', h₃', h₄']

/-- A row that conflicts with one of the identity has that identity. -/
theorem Matches.of_conflicts {identity : NotificationIdentity} {a b : Notification}
    (ha : identity.Matches a) (h : a.conflicts b = true) : identity.Matches b := by
  cases identity with
  | explicit sourceService key =>
    simp only [Notification.conflicts, ha.1, ha.2, Option.isSome_some, Option.isNone_some,
      Bool.true_and, Bool.false_and, Bool.or_false, Bool.and_eq_true, decide_eq_true_eq] at h
    exact ⟨h.1.symm, h.2.symm⟩
  | fallback sourceService hash start =>
    obtain ⟨h₁, h₂, h₃, h₄⟩ := ha
    simp only [Notification.conflicts, h₁, h₂, h₃, h₄, Option.isSome_none, Option.isNone_none,
      Option.isSome_some, Bool.false_and, Bool.false_or, Bool.true_and, Bool.and_true,
      Bool.and_eq_true, decide_eq_true_eq] at h
    exact ⟨h.1.symm, Option.isNone_iff_eq_none.mp h.2.1.1, h.2.1.2.symm, h.2.2.symm⟩

end NotificationIdentity

structure NotificationCreationService where
  fallbackDeduplicationWindow : ℤ

namespace NotificationCreationService

/-- The identity under which a request is looked up. -/
def identity (service : NotificationCreationService) (sha256 : String → String)
    (sourceService : String) (request : NotificationCreationInput) (idempotencyKey : Option String)
    (now : Instant) : Except PyError NotificationIdentity :=
  match idempotencyKey with
  | some key => .ok (.explicit sourceService key)
  -- without a key: the source, the hash and the window
  | none => do
    let windowStart ← deduplicationWindowStart now service.fallbackDeduplicationWindow
    let deduplicationHash ← fallbackDeduplicationHash sha256 request sourceService now
      service.fallbackDeduplicationWindow
    return .fallback sourceService deduplicationHash windowStart

/-- The row of a new notification. -/
def newNotification (sourceService : String) (request : NotificationCreationInput)
    (identity : NotificationIdentity) (fingerprint : String) (now : Instant) (id : UUID) :
    Notification where
  id := id
  sourceService := sourceService
  message := request.message
  severity := request.severity
  audienceType := request.audience.type
  audience := canonicalAudience request.audience
  channels := request.channels.map Channel.value
  idempotencyKey := identity.idempotencyKey
  payloadFingerprint := fingerprint
  deduplicationHash := identity.deduplicationHash
  deduplicationWindowStart := identity.windowStart
  recipientCount := 0
  deliveryCount := 0
  createdAt := now

/-- The row has the identity it is looked up under. -/
theorem identity_matches {service : NotificationCreationService} {sha256 : String → String}
    {sourceService : String} {request : NotificationCreationInput} {idempotencyKey : Option String}
    {now : Instant} {identity : NotificationIdentity}
    (h : service.identity sha256 sourceService request idempotencyKey now = .ok identity)
    (fingerprint : String) (id : UUID) :
    identity.Matches (newNotification sourceService request identity fingerprint now id) := by
  cases idempotencyKey with
  | some key =>
    obtain rfl := Except.ok.inj h
    exact ⟨rfl, rfl⟩
  | none =>
    simp only [NotificationCreationService.identity, fallbackDeduplicationHash] at h
    cases h_start : deduplicationWindowStart now service.fallbackDeduplicationWindow with
    | error e => rw [h_start] at h; exact absurd h (by simp [bind, Except.bind])
    | ok start =>
      rw [h_start] at h
      obtain rfl := Except.ok.inj h
      exact ⟨rfl, rfl, rfl, rfl⟩

/-- Without a key the identity holds the request's hash. -/
theorem identity_none {service : NotificationCreationService} {sha256 : String → String}
    {sourceService : String} {request : NotificationCreationInput} {now : Instant}
    {identity : NotificationIdentity}
    (h : service.identity sha256 sourceService request none now = .ok identity) :
    ∃ start, identity = .fallback sourceService
      (hashPayload sha256 (deduplicationPayload request sourceService start)) start := by
  simp only [NotificationCreationService.identity, fallbackDeduplicationHash] at h
  cases h_start : deduplicationWindowStart now service.fallbackDeduplicationWindow with
  | error e => rw [h_start] at h; exact absurd h (by simp [bind, Except.bind])
  | ok start =>
    rw [h_start] at h
    exact ⟨start, (Except.ok.inj h).symm⟩

/-- Only an unusable window makes the identity fail. -/
theorem identity_error {service : NotificationCreationService} {sha256 : String → String}
    {sourceService : String} {request : NotificationCreationInput} {idempotencyKey : Option String}
    {now : Instant} {e : PyError}
    (h : service.identity sha256 sourceService request idempotencyKey now = .error e) :
    ∃ message, e = .valueError message := by
  cases idempotencyKey with
  | some key => exact absurd h (by simp [NotificationCreationService.identity])
  | none =>
    simp only [NotificationCreationService.identity, fallbackDeduplicationHash] at h
    cases h_start : deduplicationWindowStart now service.fallbackDeduplicationWindow with
    | error e' =>
      -- only the start of the window can fail
      rw [h_start] at h
      obtain rfl := Except.error.inj h
      exact deduplicationWindowStart_error h_start
    | ok start =>
      rw [h_start] at h
      exact absurd h (by simp [bind, Except.bind, pure, Except.pure])

/-- A row under an identity passes the check that it can be deduplicated. -/
theorem newNotification_deduplicationPresent (sourceService : String)
    (request : NotificationCreationInput) (identity : NotificationIdentity) (fingerprint : String)
    (now : Instant) (id : UUID) :
    (newNotification sourceService request identity fingerprint now id).deduplicationPresent := by
  cases identity <;> rfl

/-- `_notification_requested_event`. -/
def notificationRequestedEvent (notification : Notification) (now : Instant) (id : UUID) :
    OutboxEvent where
  id := id
  topic := "notifications.requests"
  eventType := "notification.requested"
  aggregateType := "notification_request"
  aggregateId := notification.id
  eventKey := notification.id.str
  payload := .obj [("notification_id", .str notification.id.str),
    ("source_service", .str notification.sourceService)]
  status := .pending
  attempts := 0
  nextAttemptAt := now
  leaseExpiresAt := none
  claimedBy := none
  claimToken := none
  publishedAt := none
  lastError := none
  createdAt := .ofInstant now
  updatedAt := now

/-- `uow.notifications.add(notification)` and `uow.session.flush()`: the inserted
row, or `none` for an `IntegrityError`. The insertion waits for a transaction
that is inserting a row with the same identity. -/
def flushNotification (row : UUID → Notification) : Program (Option Notification) :=
  perform fun p i w =>
    match i with
    | .fresh id =>
      if w.Fresh id then
        -- the check constraint on the columns of the identity
        if (row id).deduplicationPresent then
          match w.notifications.verdict Notification.conflicts p (row id) with
          | .duplicate => some (none, w)
          -- another transaction is inserting such a row: the statement waits until that one ends
          | .wait => none
          | .free => some (some (row id),
              { w.issue p [id] with notifications := w.notifications.insert p (row id) })
        else some (none, w)
      else none
    | _ => none

/-- `uow.outbox.add(event)` and `uow.commit()`. -/
def commitNotification (event : UUID → OutboxEvent) : Program Unit :=
  perform fun p i w =>
    match i with
    | .fresh id =>
      if w.Fresh id then
        some ((), { w.issue p [id] with
          notifications := w.notifications.commit p
          outbox := w.outbox ++ [event id] })
      else none
    | _ => none

/-- The answer for a request whose notification exists already. -/
def existingResult (fingerprint : String) (existing : Notification) :
    Except PyError NotificationCreateResult :=
  if existing.payloadFingerprint ≠ fingerprint then
    .error (.idempotencyConflict "idempotency key is already used for a different payload")
  else .ok ⟨existing.id, .existing, existing.recipientCount, existing.deliveryCount⟩

/-- `create_notification`. -/
def createNotification (service : NotificationCreationService) (sha256 : String → String)
    (sourceService : String) (request : NotificationCreationInput)
    (idempotencyKey : Option String) : Program NotificationCreateResult := do
  let now ← awareUtcNow
  let fingerprint := payloadFingerprint sha256 request
  unitOfWork do
    let identity ← compute (service.identity sha256 sourceService request idempotencyKey now)
    match ← query fun p w => identity.find (w.notifications.visible p) with
    | some existing => compute (existingResult fingerprint existing)
    | none =>
      match ← flushNotification
          (newNotification sourceService request identity fingerprint now) with
      | some notification => do
        commitNotification (notificationRequestedEvent notification now)
        return ⟨notification.id, .created, notification.recipientCount,
          notification.deliveryCount⟩
      | none => do
        -- refused by an index: another call has committed the row since the lookup
        rollback
        match ← query fun p w => identity.find (w.notifications.visible p) with
        | some existing => compute (existingResult fingerprint existing)
        | none => throw .integrityError

end NotificationCreationService

end NotificationBroker
