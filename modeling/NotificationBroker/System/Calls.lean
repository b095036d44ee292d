import NotificationBroker.Services.NotificationCreation
import NotificationBroker.Services.Retry
import NotificationBroker.Services.WebNotification
import NotificationBroker.Workers.Delivery
import NotificationBroker.Workers.NotificationConsumer
import NotificationBroker.Workers.OutboxPublisher

/-!
# The running system

A `Deployment` fixes the hash function and, for every process, the call it makes:
an API request, a poll cycle of a worker, or the handling of one Kafka record.
Every schedule of the processes' atomic actions, of their crashes and of the
environment is a run from `Deployment.start`. A worker that polls again, or that
is restarted after a crash, is another process with the same call.
-/

namespace NotificationBroker

open Interleave Python

/-- The calls of the API and of the workers. -/
inductive Call
  | createNotification (service : NotificationCreationService) (sourceService : String)
      (request : NotificationCreationInput) (idempotencyKey : Option String)
  | publishDueEvents (publisher : OutboxPublisher) (limit : ℤ)
  | consume (fanoutService : NotificationFanoutService) (consumerName : String)
      (message : NotificationKafkaMessage)
  | processDueDeliveries (worker : DeliveryWorker) (limit : ℤ)
  | retryNotification (notificationId : UUID) (requestedByType : RequestedByType)
      (requestedById : String)
  | retryNotificationForService (notificationId : UUID) (requestedById : String)
      (canRetryAny : Bool)
  | retryUserNotification (webNotificationId userId : UUID)
  | markRead (userId webNotificationId : UUID)

/-- The part of the system a call belongs to. -/
inductive Part
  | creation
  | publisher
  | consumer
  | worker
  | retry
  | reader
deriving DecidableEq

def Call.part : Call → Part
  | createNotification .. => .creation
  | publishDueEvents .. => .publisher
  | consume .. => .consumer
  | processDueDeliveries .. => .worker
  | retryNotification .. | retryNotificationForService .. | retryUserNotification .. => .retry
  | markRead .. => .reader

theorem Call.of_reader {call : Call} (h : call.part = .reader) :
    ∃ userId webNotificationId, call = .markRead userId webNotificationId := by
  cases call with
  | markRead userId webNotificationId => exact ⟨userId, webNotificationId, rfl⟩
  | _ => exact absurd h (by simp [Call.part])

/-- What a call returns. -/
inductive Answer
  | created (result : NotificationCreateResult)
  | published (result : OutboxPublisherResult)
  | consumed (result : Handled)
  | delivered (result : DeliveryWorkerResult)
  | retried (result : RetryResult)
  | read (result : MarkWebNotificationReadResult)
deriving DecidableEq

/-- How a call ends. -/
abbrev Outcome := Except PyError Answer

/-- A call whose result is wrapped as an answer. -/
def Program.answer {α : Type} (wrap : α → Answer) (m : Program α) : Program Answer := do
  let result ← m
  return wrap result

/-- The program of a call. -/
def Call.program (sha256 : String → String) : Call → Program Answer
  | createNotification service sourceService request idempotencyKey =>
    .answer .created (service.createNotification sha256 sourceService request idempotencyKey)
  | publishDueEvents publisher limit => .answer .published (publisher.publishDueEvents limit)
  | consume fanoutService consumerName message =>
    .answer .consumed (NotificationConsumerWorker.consume fanoutService consumerName message)
  | processDueDeliveries worker limit => .answer .delivered (worker.processDueDeliveries limit)
  | retryNotification notificationId requestedByType requestedById =>
    .answer .retried (RetryService.retryNotification notificationId requestedByType requestedById)
  | retryNotificationForService notificationId requestedById canRetryAny =>
    .answer .retried
      (RetryService.retryNotificationForService notificationId requestedById canRetryAny)
  | retryUserNotification webNotificationId userId =>
    .answer .retried (RetryService.retryUserNotification webNotificationId userId)
  | markRead userId webNotificationId =>
    .answer .read (WebNotificationService.markRead userId webNotificationId)

/-- The hash function, and the call of every process. -/
structure Deployment where
  sha256 : String → String
  calls : Pid → Call

/-- A state of the running system. -/
abbrev State := Config Pid Choice World Outcome

/-- A schedule. -/
abbrev Schedule := List (Label Pid Choice EnvMove)

/-- An empty database, and every call about to start. -/
def Deployment.start (d : Deployment) (clock : Instant) (directory : Directory) : State where
  world := World.initial clock directory
  prog p := some ((d.calls p).program d.sha256)

/-- The schedule `ls` leads from the start to the state `c`. -/
def Deployment.Run (d : Deployment) (clock : Instant) (directory : Directory) (ls : Schedule)
    (c : State) : Prop :=
  surroundings.run (d.start clock directory) ls = some c

end NotificationBroker
