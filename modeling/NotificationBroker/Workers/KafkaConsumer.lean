import NotificationBroker.Framework.Prog
import NotificationBroker.Workers.NotificationConsumer

/-!
# Poll cycles of the notification consumer

One consumer object over any number of `PollingWorkerRuntime.run_poll_cycle`s, on
the Kafka side: the partitions it is assigned, its position in each, and the
committed offsets. `getone` hands out the record at the position of a partition
and moves the position past it; `commit` commits the positions.

Everything else the worker uses may fail at any time, before or after it has
taken effect. What the decoder makes of a record is a parameter. The handler's
work on the database is that of `NotificationFanout`; here it succeeds or raises.
-/

namespace NotificationBroker

open Interleave Python

/-- The place of a record. -/
structure RecordOffset where
  partition : ℕ
  offset : ℕ
deriving DecidableEq

/-- The consumer's view of the topic, the rows of `processed_events` under its
name, and the dead letters. `inHand` is the record of the current turn of the
loop, and `failed` are the records of turns that raised. -/
structure ConsumerWorld where
  position : List ℕ
  committed : List ℕ
  processed : List UUID
  deadLettered : List RecordOffset
  inHand : Option RecordOffset
  failed : List RecordOffset

/-- How a call of a collaborator goes. -/
inductive CallResult
  | succeeds
  /-- it raises, whether or not it has taken effect -/
  | raises (effect : Bool)
  /-- `getone` returns the next record of a partition -/
  | record (partition : ℕ)

/-- The records of the topic, and what the decoder makes of them. -/
structure Topic where
  log : ℕ → ℕ → KafkaRawMessage
  decode : KafkaRawMessage → Except PyError Polled

/-- What the consumer runs. -/
abbrev ConsumerProgram (α : Type) := ExceptT PyError (Prog Unit CallResult ConsumerWorld) α

/-- A call that takes effect by `f`, if it succeeds or raises too late. -/
def call (f : ConsumerWorld → ConsumerWorld) : ConsumerProgram Unit :=
  ExceptT.mk <| Prog.act (fun _ i w =>
    match i with
    | .succeeds => some (.ok (), f w)
    | .raises effect => some (.error (.external "call failed"), if effect then f w else w)
    | .record _ => none) .ret

namespace Topic

variable (topic : Topic)

/-- `AioKafkaConsumerClient.consume_one`: the next record of some partition, or
`None` if none arrives in time. -/
def getone : ConsumerProgram (Option KafkaRawMessage) :=
  ExceptT.mk <| Prog.act (fun _ i w =>
    match i with
    | .record partition =>
      match w.position[partition]? with
      | some offset => some (.ok (some (topic.log partition offset)), { w with
          position := w.position.set partition (offset + 1)
          inHand := some ⟨partition, offset⟩ })
      | none => none
    -- no record within the timeout
    | .succeeds => some (.ok none, w)
    | .raises _ => some (.error (.external "getone failed"), w)) .ret

/-- `KafkaNotificationConsumer.consume_one`. -/
def consumeOne : ConsumerProgram (Option Polled) := do
  match ← topic.getone with
  | none => return none
  | some raw =>
    match topic.decode raw with
    | .ok polled => return some polled
    | .error e => throw e

/-- `_already_processed`. -/
def alreadyProcessed (eventId : UUID) : ConsumerProgram Bool :=
  ExceptT.mk <| Prog.act (fun _ i w =>
    match i with
    | .succeeds => some (.ok (decide (eventId ∈ w.processed)), w)
    | .raises _ => some (.error (.external "database failed"), w)
    | .record _ => none) .ret

/-- `_mark_processed`: the primary key admits one row for an event. -/
def markProcessed (eventId : UUID) : ConsumerProgram Unit :=
  ExceptT.mk <| Prog.act (fun _ i w =>
    let inserted := { w with processed := w.processed ++ [eventId] }
    match i with
    | .succeeds =>
      if eventId ∈ w.processed then some (.error .integrityError, w) else some (.ok (), inserted)
    | .raises effect =>
      some (.error (.external "database failed"),
        if effect ∧ eventId ∉ w.processed then inserted else w)
    | .record _ => none) .ret

/-- The worker's collaborators. -/
def ports : ConsumerPorts ConsumerProgram where
  consumeOne := topic.consumeOne
  commit := call fun w => { w with committed := w.position, inHand := none }
  deadLetter _ := call fun w => { w with deadLettered := w.deadLettered ++ w.inHand.toList }
  alreadyProcessed := alreadyProcessed
  handle _ := call id
  markProcessed := markProcessed

/-- `run_poll_cycle`: an exception of `run_once` is logged, and that is all. -/
def pollCycle (batchSize : ℕ) : Prog Unit CallResult ConsumerWorld Unit := do
  match ← (NotificationConsumerWorker.runOnce topic.ports batchSize).run with
  | .ok _ => return
  | .error _ =>
    Prog.perform fun _ _ w => some ((), { w with failed := w.failed ++ w.inHand.toList })

/-- `run_forever`, for any number of cycles. -/
def pollCycles (batchSize : ℕ) : ℕ → Prog Unit CallResult ConsumerWorld Unit
  | 0 => return
  | cycles + 1 => do
    pollCycle topic batchSize
    pollCycles batchSize cycles

end Topic

/-- A consumer that starts at the given offsets. -/
def ConsumerWorld.initial (start : List ℕ) (processed : List UUID) : ConsumerWorld where
  position := start
  committed := start
  processed := processed
  deadLettered := []
  inHand := none
  failed := []

/-- Nothing but the consumer acts on its world. -/
def consumerMachine : Machine Unit Empty ConsumerWorld := ⟨nofun, fun _ w => w⟩

/-- The consumer about to run `cycles` poll cycles. -/
def Topic.start (topic : Topic) (batchSize cycles : ℕ) (offsets : List ℕ) (processed : List UUID) :
    Config Unit CallResult ConsumerWorld Unit where
  world := .initial offsets processed
  prog _ := some (topic.pollCycles batchSize cycles)

end NotificationBroker
