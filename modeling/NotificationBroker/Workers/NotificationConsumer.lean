import NotificationBroker.Services.NotificationFanout

/-!
# The notification consumer

`NotificationConsumerWorker`: poll Kafka records one by one, hand each valid one
to the fan-out unless its event is recorded as processed, publish each invalid
one to the dead-letter topic, and commit the offsets after every record.

The worker is written over the collaborators it is constructed with
(`ConsumerPorts`), in any monad. `databasePorts` are those the deployment gives
it, as far as they touch the database: the position of the consumer in the Kafka
log is not part of that world.
-/

namespace NotificationBroker

open Python

structure KafkaRawMessage where
  key : Option (List UInt8)
  value : List UInt8
deriving DecidableEq

/-- A decoded event. -/
structure NotificationKafkaMessage where
  key : String
  eventId : UUID
  eventType : String
  occurredAt : Datetime
  payload : Json
  rawMessage : KafkaRawMessage

/-- A record that could not be decoded. -/
structure InvalidNotificationKafkaMessage where
  rawMessage : KafkaRawMessage
  errorCode : String
  errorMessage : String

/-- What `consume_one` returns for a record. -/
inductive Polled
  | valid (message : NotificationKafkaMessage)
  | invalid (message : InvalidNotificationKafkaMessage)

/-- What has become of a record when its turn in the loop ends. -/
inductive Handled
  | deadLettered
  | duplicate
  | processed
deriving DecidableEq

/-- The collaborators of the worker. -/
structure ConsumerPorts (m : Type → Type 1) where
  consumeOne : m (Option Polled)
  commit : m Unit
  deadLetter : InvalidNotificationKafkaMessage → m Unit
  alreadyProcessed : UUID → m Bool
  handle : Json → m Unit
  markProcessed : UUID → m Unit

namespace NotificationConsumerWorker

section Loop

variable {m : Type → Type 1} [Monad m]

/-- The body of the loop, for one record. -/
def handleMessage (ports : ConsumerPorts m) : Polled → m Handled
  | .invalid message => do
    -- the offset is committed behind the dead letter
    ports.deadLetter message
    ports.commit
    return .deadLettered
  | .valid message => do
    if ← ports.alreadyProcessed message.eventId then
      ports.commit
      return .duplicate
    else
      -- three steps, of which an exception or a crash may leave out the later ones
      ports.handle message.payload
      ports.markProcessed message.eventId
      ports.commit
      return .processed

/-- The counters after one more record. -/
def count (counts : NotificationConsumerResult) : Handled → NotificationConsumerResult
  | .deadLettered => { counts with
      receivedCount := counts.receivedCount + 1
      deadLetteredCount := counts.deadLetteredCount + 1
      committedCount := counts.committedCount + 1 }
  | .duplicate => { counts with
      receivedCount := counts.receivedCount + 1
      duplicateCount := counts.duplicateCount + 1
      committedCount := counts.committedCount + 1 }
  | .processed => { counts with
      receivedCount := counts.receivedCount + 1
      processedCount := counts.processedCount + 1
      committedCount := counts.committedCount + 1 }

/-- `for _ in range(self._batch_size)`, for the remaining turns. -/
def loop (ports : ConsumerPorts m) : ℕ → NotificationConsumerResult → m NotificationConsumerResult
  | 0, counts => pure counts
  | turns + 1, counts => do
    match ← ports.consumeOne with
    -- no record in time: the batch ends early
    | none => pure counts
    | some polled => do
      let handled ← handleMessage ports polled
      loop ports turns (count counts handled)

/-- `run_once`. -/
def runOnce (ports : ConsumerPorts m) (batchSize : ℕ) : m NotificationConsumerResult :=
  loop ports batchSize ⟨0, 0, 0, 0, 0⟩

end Loop

/-! ### The database side -/

/-- `NotificationRequestedHandler.handle`. -/
def handle (fanoutService : NotificationFanoutService) (payload : Json) :
    Program NotificationFanoutResult :=
  match payload.get? "notification_id" with
  | some (.str rawNotificationId) =>
    match UUID.parse rawNotificationId with
    | some notificationId => fanoutService.fanoutNotification notificationId
    | none => throw (.valueError "badly formed hexadecimal UUID string")
  | _ => throw (.valueError "notification_id is required")

/-- `_already_processed`. -/
def alreadyProcessed (consumerName : String) (eventId : UUID) : Program Bool :=
  unitOfWork <| query fun _ w =>
    w.processed.any fun e => e.eventId = eventId ∧ e.consumerName = consumerName

/-- `_mark_processed`. -/
def markProcessed (consumerName : String) (eventId : UUID) : Program Unit := do
  let now ← awareUtcNow
  unitOfWork <| attempt fun _ _ w =>
    -- the primary key refuses a second row
    let row : ProcessedEvent := ⟨eventId, consumerName, now⟩
    if w.processed.any row.conflicts then some (.error .integrityError, w)
    else some (.ok (), { w with processed := w.processed ++ [row] })

/-- The collaborators of a deployed worker, on the database. -/
def databasePorts (fanoutService : NotificationFanoutService) (consumerName : String) :
    ConsumerPorts Program where
  consumeOne := pure none
  commit := pure ()
  deadLetter _ := pure ()
  alreadyProcessed := alreadyProcessed consumerName
  handle payload := do
    let _ ← handle fanoutService payload
    return
  markProcessed := markProcessed consumerName

/-- One turn of the loop for a decoded event: what it does to the database. -/
def consume (fanoutService : NotificationFanoutService) (consumerName : String)
    (message : NotificationKafkaMessage) : Program Handled :=
  handleMessage (databasePorts fanoutService consumerName) (.valid message)

end NotificationConsumerWorker

end NotificationBroker
