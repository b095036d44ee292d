import NotificationBroker.Db.Directory
import NotificationBroker.Db.Models
import NotificationBroker.Domain.Results
import NotificationBroker.Framework.Prog
import NotificationBroker.Framework.ReadCommitted

/-!
# The shared world

What the processes of the system share: the PostgreSQL database, the Kafka
broker's accepted records and the wall clock.

The tables that a transaction writes before its last statement (notifications,
recipients and deliveries) keep uncommitted rows apart, since other transactions
meet them through the unique indexes. A transaction that takes row locks in one
statement and commits right after (a claim, a finalization, a retry) is one
atomic action: no other transaction can change the rows it has locked, and rows
it did not see or could not lock are left out of it by the `Choice` that comes
with the action.

The last four fields record what the tables do not show, and no code reads them:
which process generated an identifier, the deliveries that workers have in hand,
the fan-out transactions that are open, and a history of events.
-/

namespace NotificationBroker

open Interleave Python
open ReadCommitted (Table)

/-- A process: one call of the system. -/
abbrev Pid := ℕ

/-- What the environment supplies to an atomic action. -/
inductive Choice
  /-- nothing: the action is determined by the state -/
  | go
  /-- the value the injected clock returns -/
  | time (value : Datetime)
  /-- the value of `uuid4()` -/
  | fresh (id : UUID)
  /-- the rows that were locked, or not yet visible as due, when a claim ran, and
  the claim tokens it generates -/
  | claim (skipped tokens : List UUID)
  /-- what a delivery adapter returns, or the name of the exception it raises -/
  | adapter (reply : Except String DeliveryOutcome)
  /-- the broker accepts a record and the producer learns of it -/
  | ack
  /-- publishing raises, whether or not the broker has accepted the record -/
  | nack (accepted : Bool) (message : String)
  /-- the rows a retry's `UPDATE` did not see as retryable, and the identifiers
  of the replay, its outbox event and its audit row -/
  | retry (skipped : List UUID) (replayId eventId invocationId : UUID)

/-- A record as the broker stores it. -/
structure KafkaRecord where
  topic : String
  key : String
  value : String
deriving DecidableEq

/-- `ClaimedDelivery`: what a worker remembers of a row it has claimed. -/
structure ClaimedDelivery where
  deliveryId : UUID
  claimToken : UUID
deriving DecidableEq

/-- How far a worker is with a delivery: its context is loaded, its adapter is
running, its adapter has answered. -/
inductive Stage
  | loaded
  | sending
  | sent
deriving DecidableEq

/-- A delivery a worker has in hand, from loading its context to finalizing it. -/
structure Working where
  pid : Pid
  claim : ClaimedDelivery
  since : Instant
  stage : Stage
deriving DecidableEq

/-- An open fan-out transaction: the notification as it was loaded, the resolved
users, and the counts read back so far. -/
structure Fanout where
  pid : Pid
  notification : Notification
  userIds : Option (List UUID)
  recipientCount : Option ℕ
  deliveryCount : Option ℕ

/-- What has happened, as far as the tables do not show it. -/
inductive Event
  | clockRead (p : Pid) (reading : Datetime)
  | deliveriesClaimed (p : Pid) (now : Instant) (channels : Option (List Channel))
  | contextLoaded (p : Pid) (claim : ClaimedDelivery) (found : Option Delivery)
  | adapterCalled (p : Pid) (claim : ClaimedDelivery) (delivery : Delivery)
  | deliveryFinalized (p : Pid) (claim : ClaimedDelivery) (applied : Bool)
  | eventFinalized (p : Pid) (eventId token : UUID) (result : Option OutboxEventStatus)
  | fanoutCommitted (p : Pid) (notificationId : UUID)
  | readMarked (p : Pid) (deliveryId : UUID)
deriving DecidableEq

structure World where
  clock : Instant
  directory : Directory
  notifications : Table Pid Notification
  recipients : Table Pid Recipient
  deliveries : Table Pid Delivery
  attempts : List DeliveryAttempt
  invocations : List ActionInvocation
  outbox : List OutboxEvent
  processed : List ProcessedEvent
  accepted : List KafkaRecord
  issued : List (UUID × Pid)
  working : List Working
  fanouts : List Fanout
  history : List Event

namespace World

/-- The database before the first request, at a given time and with given users. -/
def initial (clock : Instant) (directory : Directory) : World where
  clock := clock
  directory := directory
  notifications := Table.empty
  recipients := Table.empty
  deliveries := Table.empty
  attempts := []
  invocations := []
  outbox := []
  processed := []
  accepted := []
  issued := []
  working := []
  fanouts := []
  history := []

/-- `uuid4()` never repeats: no process has generated `id`. -/
def Fresh (w : World) (id : UUID) : Prop := id ∉ w.issued.map Prod.fst

instance (w : World) (id : UUID) : Decidable (w.Fresh id) := by
  unfold Fresh; infer_instance

/-- Identifiers generated one after another. -/
def AllFresh (w : World) (ids : List UUID) : Prop := ids.Nodup ∧ ∀ id ∈ ids, w.Fresh id

instance (w : World) (ids : List UUID) : Decidable (w.AllFresh ids) :=
  decidable_of_iff (ids.Nodup ∧ ids.all (w.Fresh ·) = true) <| by
    simp only [AllFresh, List.all_eq_true, decide_eq_true_eq]

/-- `p` generates `ids`. -/
def issue (w : World) (p : Pid) (ids : List UUID) : World :=
  { w with issued := w.issued ++ ids.map fun id => (id, p) }

def record (w : World) (event : Event) : World := { w with history := w.history ++ [event] }

/-- `session.rollback()`: the open transaction of `p` ends without effect. -/
def rollback (w : World) (p : Pid) : World :=
  { w with
    notifications := w.notifications.abort p
    recipients := w.recipients.abort p
    deliveries := w.deliveries.abort p
    fanouts := w.fanouts.filter fun f => f.pid ≠ p }

/-- The process of `p` dies: the database rolls its transaction back. -/
def crash (p : Pid) (w : World) : World :=
  { w.rollback p with working := w.working.filter fun x => x.pid ≠ p }

end World

/-- What happens by itself. -/
inductive EnvMove
  | tick (clock : Instant)
  | setDirectory (directory : Directory)

/-- The clock is monotone, and no user disappears: no code deletes users, and
their rows would be deleted with them. -/
def EnvMove.apply : EnvMove → World → Option World
  | tick clock, w => if w.clock ≤ clock then some { w with clock := clock } else none
  | setDirectory directory, w =>
    if (w.directory.users.map User.id).all (· ∈ directory.users.map User.id) then
      some { w with directory := directory }
    else none

/-- The environment of the calls. -/
def surroundings : Machine Pid EnvMove World := ⟨EnvMove.apply, World.crash⟩

end NotificationBroker
