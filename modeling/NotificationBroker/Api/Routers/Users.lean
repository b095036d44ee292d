import NotificationBroker.Api.Server
import NotificationBroker.Core.Cursors
import NotificationBroker.Services.Retry
import NotificationBroker.Services.WebNotification

/-!
# The endpoints of users

`UserRoutes`: the list of a user's web notifications, page by page, the read mark, and the retry
of what has not been delivered on other channels. The framework checks the parameters of a
request before the endpoint is called.

The database session's time zone is UTC, so that a timestamp is loaded as a `datetime` with the
offset zero.
-/

namespace NotificationBroker

open Python

/-- A page, and the cursor behind it. -/
structure WebNotificationPage where
  rows : List WebNotificationRow
  nextCursor : Option String
deriving DecidableEq

namespace UserRoutes

variable (hmacSha256 : List UInt8 → List UInt8 → List UInt8) (floatOf : List Char → PyFloat)
  (codec : WebNotificationCursorCodec)

/-- The cursor of a row. -/
def cursorOfRow (row : WebNotificationRow) : WebNotificationCursor :=
  ⟨row.deliveredAt.datetime, row.id, Datetime.valid_ofInstant row.deliveredAt.property⟩

/-- `_next_cursor`. -/
def nextCursor (rows : List WebNotificationRow) (hasMore : Bool) : Option String :=
  if hasMore then
    -- a page that has more behind it is not empty
    match rows.getLast? with
    | none => none
    | some last => some (codec.encode hmacSha256 (cursorOfRow last))
  else none

/-- The place a cursor stands for. -/
def decodeCursor : Option String → Except EndpointError (Option (Instant × UUID))
  | none => .ok none
  | some cursor =>
    match codec.decode hmacSha256 floatOf cursor with
    | .ok decoded => .ok (some (decoded.deliveredAt.instant, decoded.deliveryId))
    | .error (.http e) => .error (.http e)
    -- not caught: the answer is that of the server
    | .error (.raised _) => .error (.raised (.external "AttributeError"))

/-- The page of the rows that `list_for_user` has returned for one row more. -/
def pageOfRows (limit : ℕ) (rows : List WebNotificationRow) : WebNotificationPage :=
  ⟨rows.take limit, nextCursor hmacSha256 codec (rows.take limit) (limit < rows.length)⟩

/-- The page that `list_notifications` answers with, from the rows its query sees: the steps of
`listNotifications` with the query read as one state's. -/
def page (deliveries : List Delivery) (notifications : List Notification) (userId : UUID)
    (status : WebNotificationStatus) (limit : ℕ) (cursor : Option String) :
    Except EndpointError WebNotificationPage := do
  let after ← decodeCursor hmacSha256 floatOf codec cursor
  match listWebNotificationsForUser deliveries notifications userId status (limit + 1) after with
  | .ok rows => .ok (pageOfRows hmacSha256 codec limit rows)
  | .error e => .error (.raised e)

/-- `_response_from_row`. -/
def responseFromRow (row : WebNotificationRow) : WebNotificationResponse where
  id := row.id
  notificationId := row.notificationId
  message := row.message
  severity := row.severity
  readAt := row.readAt.map fun t => t.datetime.isoformat
  deliveredAt := row.deliveredAt.datetime.isoformat
  createdAt := row.createdAt.datetime.isoformat

/-- The response with a page. -/
def listResponse (page : WebNotificationPage) : WebNotificationListResponse :=
  ⟨page.rows.map responseFromRow, page.nextCursor⟩

/-! ### The endpoints -/

/-- `_user_id_from_principal`. -/
def userIdFromPrincipal (principal : AuthenticatedPrincipal) : Except HTTPException UUID :=
  match UUID.parse principal.subject with
  | some userId => .ok userId
  | none => .error ⟨401, "invalid user subject"⟩

/-- The `except ValueError` around a service. -/
def hidden : PyError → EndpointError
  | .valueError _ => .http ⟨404, "web notification does not exist"⟩
  | e => .raised e

/-- `list_notifications`. -/
def listNotifications (principal : AuthenticatedPrincipal) (status : WebNotificationStatus)
    (limit : ℕ) (cursor : Option String) :
    ApiProgram (EndpointResponse WebNotificationListResponse) := do
  check (principal.requireType "user")
  check (principal.requireScope "notifications:read")
  let userId ← check (userIdFromPrincipal principal)
  let after ← answer (decodeCursor hmacSha256 floatOf codec cursor)
  let rows ← callService Server.worldPart .raised
    (WebNotificationService.listForUser userId status (limit + 1) after)
  return ⟨200, listResponse (pageOfRows hmacSha256 codec limit rows)⟩

/-- `mark_notification_read`. -/
def markNotificationRead (principal : AuthenticatedPrincipal) (webNotificationId : UUID) :
    ApiProgram (EndpointResponse MarkWebNotificationReadResponse) := do
  check (principal.requireType "user")
  check (principal.requireScope "notifications:read")
  let userId ← check (userIdFromPrincipal principal)
  let result ← callService Server.worldPart hidden
    (WebNotificationService.markRead userId webNotificationId)
  return ⟨200, ⟨result.webNotificationId, (Datetime.ofInstant result.readAt).isoformat⟩⟩

/-- `retry_notification_action`. -/
def retryNotificationAction (principal : AuthenticatedPrincipal) (webNotificationId : UUID) :
    ApiProgram (EndpointResponse RetryNotificationResponse) := do
  check (principal.requireType "user")
  check (principal.requireScope "notifications:read")
  let userId ← check (userIdFromPrincipal principal)
  let result ← callService Server.worldPart hidden
    (RetryService.retryUserNotification webNotificationId userId)
  return ⟨retryStatusCode result.status,
    ⟨result.replayId, result.status, result.replayedDeliveryCount⟩⟩

end UserRoutes

end NotificationBroker
