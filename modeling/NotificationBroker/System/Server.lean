import NotificationBroker.Api.Routers.Notifications
import NotificationBroker.Api.Routers.Users
import NotificationBroker.System.Calls

/-!
# The whole server

The endpoints as they are served, for any number of requests at once, beside the calls of the
workers. A request passes the checks of its endpoint, a creation also the producer's quota, and
then calls a service. `ServerDeployment.Run` interleaves all of it on the state of the server.
-/

namespace NotificationBroker

open Interleave Python

/-- The requests to the server, and the calls of its workers. Only a request creates
notifications, retries or reads. -/
inductive ServerCall
  | createNotification (service : NotificationCreationService) (principal : AuthenticatedPrincipal)
      (request : CreateNotificationRequest)
  | retryNotification (principal : AuthenticatedPrincipal) (notificationId : UUID)
  | listNotifications (codec : WebNotificationCursorCodec) (principal : AuthenticatedPrincipal)
      (status : WebNotificationStatus) (limit : ℕ) (cursor : Option String)
  | markNotificationRead (principal : AuthenticatedPrincipal) (webNotificationId : UUID)
  | retryNotificationAction (principal : AuthenticatedPrincipal) (webNotificationId : UUID)
  | background (call : Call) (h_worker : call.part ∈ [Part.publisher, .consumer, .worker])

/-- What the server answers with. -/
inductive ServerAnswer
  | created (response : EndpointResponse CreateNotificationResponse)
  | retried (response : EndpointResponse RetryNotificationResponse)
  | listed (response : EndpointResponse WebNotificationListResponse)
  | marked (response : EndpointResponse MarkWebNotificationReadResponse)
  | background (answer : Answer)
deriving DecidableEq

/-- The functions the server is given, the parameters of the quotas, and the request or call of
every process. -/
structure ServerDeployment where
  sha256 : String → String
  hmacSha256 : List UInt8 → List UInt8 → List UInt8
  floatOf : List Char → PyFloat
  quotaService : ProducerQuotaService
  calls : Pid → ServerCall

namespace ServerDeployment

variable (d : ServerDeployment)

/-- The program of a process. -/
def program : ServerCall → ApiProgram ServerAnswer
  | .createNotification service principal request => do
    let response ← NotificationRoutes.createNotification d.quotaService service d.sha256 principal
      request
    return .created response
  | .retryNotification principal notificationId => do
    let response ← NotificationRoutes.retryNotification principal notificationId
    return .retried response
  | .listNotifications codec principal status limit cursor => do
    let response ← UserRoutes.listNotifications d.hmacSha256 d.floatOf codec principal status limit
      cursor
    return .listed response
  | .markNotificationRead principal webNotificationId => do
    let response ← UserRoutes.markNotificationRead principal webNotificationId
    return .marked response
  | .retryNotificationAction principal webNotificationId => do
    let response ← UserRoutes.retryNotificationAction principal webNotificationId
    return .retried response
  | .background call _ => do
    let answer ← callService Server.worldPart .raised (call.program d.sha256)
    return .background answer

/-- Empty tables, and every process about to start. -/
def start (clock : Instant) (directory : Directory) :
    Config Pid Choice Server (Except EndpointError ServerAnswer) where
  world := ⟨World.initial clock directory, .initial⟩
  prog p := some (d.program (d.calls p))

end ServerDeployment

/-- The environment acts on the world. When a process dies, both of its sessions are rolled
back. -/
def serverMachine : Machine Pid EnvMove Server where
  env e s := (e.apply s.world).map fun w => { s with world := w }
  abort p s := ⟨s.world.crash p, s.quotas.rollback p⟩

/-- A state of the running server. -/
abbrev ServerState := Config Pid Choice Server (Except EndpointError ServerAnswer)

/-- The schedule `ls` leads from the start to the state `c`. -/
def ServerDeployment.Run (d : ServerDeployment) (clock : Instant) (directory : Directory)
    (ls : Schedule) (c : ServerState) : Prop :=
  serverMachine.run (d.start clock directory) ls = some c

end NotificationBroker
