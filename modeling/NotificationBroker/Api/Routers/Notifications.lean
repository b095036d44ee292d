import NotificationBroker.Api.NotificationRequests
import NotificationBroker.Api.Server
import NotificationBroker.Core.Auth
import NotificationBroker.Services.NotificationCreation
import NotificationBroker.Services.Retry

/-!
# The endpoints of services

`NotificationRoutes`: a service creates a notification, or retries the failed deliveries of one.
The bodies of requests have passed the schema before an endpoint is called.
-/

namespace NotificationBroker

open Python

namespace NotificationRoutes

/-- The `except ProducerQuotaExceeded` around the quota service. -/
def overQuota : PyError → EndpointError
  | .producerQuotaExceeded retryAfterSeconds =>
    .limited ⟨429, "producer request quota exceeded"⟩ (toString retryAfterSeconds)
  | e => .raised e

/-- The `except IdempotencyConflict` around the creation service. -/
def conflicting : PyError → EndpointError
  | .idempotencyConflict message => .http ⟨409, message⟩
  | e => .raised e

/-- The `except ValueError` and `except PermissionError` around the retry service. -/
def refusedRetry : PyError → EndpointError
  | .valueError _ => .http ⟨404, "notification does not exist"⟩
  | .permissionError _ => .http ⟨403, "service cannot retry notification"⟩
  | e => .raised e

/-- `create_notification`. -/
def createNotification (quotaService : ProducerQuotaService)
    (service : NotificationCreationService) (sha256 : String → String)
    (principal : AuthenticatedPrincipal) (request : CreateNotificationRequest) :
    ApiProgram (EndpointResponse CreateNotificationResponse) := do
  check (principal.requireType "service")
  check (principal.requireScope "notifications:write")
  callService Server.quotaPart overQuota (quotaService.consume principal.subject)
  let input ← answer (request.toDomain.mapError conflicting)
  let result ← callService Server.worldPart conflicting
    (service.createNotification sha256 principal.subject input request.idempotencyKey)
  return ⟨202, ⟨result.notificationId, "accepted", result.recipientCount, result.deliveryCount,
    decide (result.status = .existing)⟩⟩

/-- The scope check of `retry_notification`. -/
def requireRetryScope (principal : AuthenticatedPrincipal) : Except HTTPException Unit :=
  if "notifications:write" ∉ principal.scopes ∧ "notifications:retry:any" ∉ principal.scopes then
    .error ⟨403, "required scope is missing"⟩
  else .ok ()

/-- `retry_notification`. -/
def retryNotification (principal : AuthenticatedPrincipal) (notificationId : UUID) :
    ApiProgram (EndpointResponse RetryNotificationResponse) := do
  check (principal.requireType "service")
  check (requireRetryScope principal)
  let result ← callService Server.worldPart refusedRetry
    (RetryService.retryNotificationForService notificationId principal.subject
      (decide ("notifications:retry:any" ∈ principal.scopes)))
  return ⟨retryStatusCode result.status,
    ⟨result.replayId, result.status, result.replayedDeliveryCount⟩⟩

end NotificationRoutes

end NotificationBroker
