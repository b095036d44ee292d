import NotificationBroker.Core.Auth
import NotificationBroker.Domain.Errors
import NotificationBroker.Domain.ReadModels

/-!
# Responses

The bodies of the endpoints' answers. A call that does not answer with one answers with an
error, or lets an exception through, which the server answers with an internal error.
-/

namespace NotificationBroker

open Python

/-- How an endpoint fails. `limited` carries the header `Retry-After`. -/
inductive EndpointError
  | http (e : HTTPException)
  | limited (e : HTTPException) (retryAfter : String)
  | raised (e : PyError)
deriving DecidableEq

/-- The status code of the answer. -/
def EndpointError.statusCode : EndpointError → ℕ
  | http e => e.statusCode
  | limited e _ => e.statusCode
  | raised _ => 500

/-- An answer with a body. -/
structure EndpointResponse (α : Type) where
  statusCode : ℕ
  body : α
deriving DecidableEq

structure WebNotificationResponse where
  id : UUID
  notificationId : UUID
  message : String
  severity : Severity
  readAt : Option String
  deliveredAt : String
  createdAt : String
deriving DecidableEq

structure WebNotificationListResponse where
  items : List WebNotificationResponse
  nextCursor : Option String
deriving DecidableEq

structure MarkWebNotificationReadResponse where
  id : UUID
  readAt : String
deriving DecidableEq

structure RetryNotificationResponse where
  replayId : Option UUID
  status : ActionInvocationResult
  replayedDeliveryCount : ℕ
deriving DecidableEq

structure CreateNotificationResponse where
  notificationId : UUID
  status : String
  recipientCount : ℕ
  deliveryCount : ℕ
  deduplicated : Bool
deriving DecidableEq

end NotificationBroker
