import Mathlib.Data.Prod.Lex
import NotificationBroker.Properties.DeliveryBatch

/-!
# A batch of the outbox publisher

A call of `publish_due_events` that has the database to itself takes the first events that are
due, hands each to the broker and finalizes its row. What becomes of a row is a function of the
row, of the broker's reply to its own record and of the reading of the clock
(`OutboxPublisher.settle`): a reply that is an exception ends the turn of its event and no other.

The loop is followed event by event (`exec_publishClaims`), as that of the delivery worker is.
-/

namespace NotificationBroker

open Interleave Python

/-- What becomes of a record: the broker acknowledges it, or the producer raises, whether or not
the broker has accepted it. -/
inductive BrokerReply
  | ack
  | nack (accepted : Bool) (message : String)
deriving DecidableEq

namespace BrokerReply

def accepted : BrokerReply → Bool
  | ack => true
  | nack accepted _ => accepted

/-- The message that is stored. -/
def error : BrokerReply → Option String
  | ack => none
  | nack _ message => some (String.ofList (message.toList.take 1000))

end BrokerReply

/-- The record that is sent for a row. It does not depend on the claim. -/
def OutboxEvent.kafkaRecord (e : OutboxEvent) : KafkaRecord :=
  OutboxPublisher.kafkaRecord (.ofRow e 0)

namespace OutboxPublisher

variable (publisher : OutboxPublisher)

/-- What the broker's replies make of a row. -/
def settle (now : Instant) (replies : UUID → BrokerReply) (ids : List UUID) (e : OutboxEvent) :
    OutboxEvent :=
  if e.id ∈ ids then publisher.finalized now (replies e.id).error e else e

/-- What a call with the given reading of the clock is to take. -/
def batch (limit : ℤ) (now : Instant) (w : World) : List OutboxEvent :=
  dueEvents w.outbox now limit.toNat []

end OutboxPublisher

/-- The tables that the publisher does not write are the same. -/
def SameBesideOutbox (w w' : World) : Prop :=
  ∃ outbox accepted issued history, w' = { w with
    outbox := outbox, accepted := accepted, issued := issued, history := history }

theorem SameBesideOutbox.refl (w : World) : SameBesideOutbox w w := ⟨_, _, _, _, rfl⟩

theorem SameBesideOutbox.trans {w w' w'' : World} (h : SameBesideOutbox w w')
    (h' : SameBesideOutbox w' w'') : SameBesideOutbox w w'' := by
  obtain ⟨_, _, _, _, rfl⟩ := h
  obtain ⟨_, _, _, _, rfl⟩ := h'
  exact ⟨_, _, _, _, rfl⟩

/-- What the turns of a batch do: each row is settled, and the broker has the records it has
accepted. -/
structure Published (publisher : OutboxPublisher) (now : Instant) (batch : List OutboxEvent)
    (replies : UUID → BrokerReply) (w w' : World) : Prop where
  outbox : w'.outbox = w.outbox.map (publisher.settle now replies (batch.map OutboxEvent.id))
  accepted : w'.accepted =
    w.accepted ++ (batch.filter fun e => (replies e.id).accepted).map OutboxEvent.kafkaRecord
  elsewhere : SameBesideOutbox w w'

open OutboxPublisher

/-! ### One turn -/

section Turn

variable {publisher : OutboxPublisher} {now : Instant} {p : Pid} {w w' w'' : World}
  {e : OutboxEvent} {claim : ClaimedOutboxEvent} {is : List Choice}
  {replies replies' : UUID → BrokerReply} {batch : List OutboxEvent}

@[simp] theorem finalized_id (error : Option String) :
    (publisher.finalized now error e).id = e.id := by
  unfold OutboxPublisher.finalized OutboxEvent.markPublishFailed
  cases error with
  | none => rfl
  | some message =>
    dsimp only
    split <;> rfl

@[simp] theorem settleEvent_id (ids : List UUID) :
    (publisher.settle now replies ids e).id = e.id := by
  unfold OutboxPublisher.settle
  split
  · exact finalized_id _
  · rfl

/-- A row whose identifier is not among those of the batch is left alone. -/
theorem settleEvent_of_notMem {ids : List UUID} (h : e.id ∉ ids) :
    publisher.settle now replies ids e = e := if_neg h

/-- Only the replies to the batch matter. -/
theorem settleEvent_congr {ids : List UUID} (h : ∀ id ∈ ids, replies id = replies' id)
    (e : OutboxEvent) :
    publisher.settle now replies ids e = publisher.settle now replies' ids e := by
  unfold OutboxPublisher.settle
  by_cases h_id : e.id ∈ ids
  · rw [if_pos h_id, if_pos h_id, h e.id h_id]
  · rw [if_neg h_id, if_neg h_id]

/-- A turn after which the others follow. -/
theorem settleEvent_cons {ids : List UUID} {reply : BrokerReply} {id : UUID}
    (h_reply : replies id = reply) (h_id : id ∉ ids) (e : OutboxEvent) :
    publisher.settle now replies ids (publisher.settle now (fun _ => reply) [id] e) =
      publisher.settle now replies (id :: ids) e := by
  by_cases h_e : e.id = id
  · rw [settleEvent_of_notMem (by rwa [settleEvent_id, h_e])]
    unfold OutboxPublisher.settle
    rw [if_pos (List.mem_singleton.mpr h_e), if_pos (h_e ▸ List.mem_cons_self), h_e, h_reply]
  · have h_not : e.id ∉ [id] := by rwa [List.mem_singleton]
    rw [settleEvent_of_notMem h_not]
    unfold OutboxPublisher.settle
    simp only [List.mem_cons, h_e, false_or]

/-- A turn leaves the other rows where they are. -/
theorem Published.mem (h : Published publisher now batch replies w w') {row : OutboxEvent}
    (h_row : row ∈ w.outbox) (h_ne : row.id ∉ batch.map OutboxEvent.id) : row ∈ w'.outbox := by
  rw [h.outbox]
  exact List.mem_map.mpr ⟨row, h_row, settleEvent_of_notMem h_ne⟩

theorem Published.keys (h : Published publisher now batch replies w w') :
    w'.outbox.map OutboxEvent.id = w.outbox.map OutboxEvent.id := by
  rw [h.outbox, List.map_map]
  exact List.map_congr_left fun row _ => settleEvent_id _

/-- A turn and the turns that follow it are the turns of a batch. -/
theorem Published.cons {reply : BrokerReply}
    (h_first : Published publisher now [e] (fun _ => reply) w w')
    (h_rest : Published publisher now batch replies w' w'') (h_reply : replies e.id = reply)
    (h_other : e.id ∉ batch.map OutboxEvent.id) :
    Published publisher now (e :: batch) replies w w'' where
  outbox := by
    rw [h_rest.outbox, h_first.outbox, List.map_map]
    exact List.map_congr_left fun row _ => settleEvent_cons h_reply h_other row
  accepted := by
    rw [h_rest.accepted, h_first.accepted, List.append_assoc]
    congr 1
    cases h_accepted : reply.accepted <;> simp [h_reply, h_accepted]
  elsewhere := h_first.elsewhere.trans h_rest.elsewhere

/-- Another way to name the same replies. -/
theorem Published.congr (h : Published publisher now batch replies w w')
    (h_replies : ∀ id ∈ batch.map OutboxEvent.id, replies id = replies' id) :
    Published publisher now batch replies' w w' where
  outbox := by
    rw [h.outbox]
    exact List.map_congr_left fun row _ => settleEvent_congr h_replies row
  accepted := by
    rw [h.accepted]
    congr 2
    exact List.filter_congr fun row h_row => by
      rw [h_replies row.id (List.mem_map_of_mem h_row)]
  elsewhere := h.elsewhere

end Turn

/-! ### The loop -/

section Loop

variable {publisher : OutboxPublisher} {now : Instant} {p : Pid} {w w' : World}
  {is : List Choice} {replies : UUID → BrokerReply} {batch : List OutboxEvent}
  {claims : List ClaimedOutboxEvent} {counts : ℕ × ℕ × ℕ}

end Loop

/-! ### The claim -/

/-- `batch` is what a call with the given limit is to take of `rows`: the first of the due rows
in the order (`next_attempt_at`, `created_at`, `id`), as many as the limit admits. -/
structure IsEventBatch (rows : List OutboxEvent) (now : Instant) (limit : ℤ)
    (batch : List OutboxEvent) : Prop where
  length : (batch.length : ℤ) = min (max limit 0) (rows.filter fun e => e.publishable now).length
  due : ∀ e ∈ batch, e ∈ rows ∧ e.publishable now
  sorted : batch.Pairwise OutboxEvent.before
  first : ∀ e ∈ rows, e.publishable now → e ∉ batch → ∀ b ∈ batch, b.before e
  nodup : (batch.map OutboxEvent.id).Nodup

/-- The three columns by which the events are ordered. -/
def OutboxEvent.orderKey (e : OutboxEvent) : Instant ×ₗ Instant ×ₗ UUID :=
  toLex (e.nextAttemptAt, toLex (e.createdAt.instant, e.id))

theorem OutboxEvent.before_iff {a b : OutboxEvent} : a.before b ↔ a.orderKey ≤ b.orderKey := by
  simp [OutboxEvent.before, OutboxEvent.orderKey, Prod.Lex.toLex_le_toLex]

instance : Std.Total OutboxEvent.before where
  total a b := by
    simp only [OutboxEvent.before_iff]
    exact le_total _ _

instance : IsTrans OutboxEvent OutboxEvent.before where
  trans a b c := by
    simp only [OutboxEvent.before_iff]
    exact le_trans

section Claim

variable {rows : List OutboxEvent} {now leaseExpiresAt : Instant} {limit : ℤ}
  {workerId : String} {publisher : OutboxPublisher} {batch : List OutboxEvent}
  {tokens : List UUID} {p : Pid} {w w' : World} {is : List Choice}
  {replies : UUID → BrokerReply}

/-- With no row locked by others, the statement selects what the call is to take. -/
theorem isEventBatch_dueEvents (h_keys : (rows.map OutboxEvent.id).Nodup) (now : Instant)
    (limit : ℤ) : IsEventBatch rows now limit (dueEvents rows now limit.toNat []) := by
  have h_filter : (rows.filter fun e => e.publishable now ∧ e.id ∉ ([] : List UUID)) =
      rows.filter fun e => e.publishable now :=
    List.filter_congr fun e _ => by simp
  unfold dueEvents
  rw [h_filter]
  generalize h_sorted :
    (rows.filter fun e => e.publishable now).insertionSort OutboxEvent.before = ordered
  have h_perm : ordered.Perm (rows.filter fun e => e.publishable now) :=
    h_sorted ▸ List.perm_insertionSort _ _
  have h_pairwise : ordered.Pairwise OutboxEvent.before :=
    h_sorted ▸ List.pairwise_insertionSort _ _
  have h_mem : ∀ e, e ∈ ordered ↔ e ∈ rows ∧ e.publishable now := fun e => by
    rw [h_perm.mem_iff, List.mem_filter]
  refine ⟨?_, fun e he => (h_mem e).mp (List.mem_of_mem_take he),
    h_pairwise.sublist (List.take_sublist _ _), fun e he h_due h_not b hb => ?_, ?_⟩
  · rw [List.length_take, h_perm.length_eq]
    omega
  · -- what is cut off comes after what is taken
    rw [← List.take_append_drop limit.toNat ordered, List.pairwise_append] at h_pairwise
    refine h_pairwise.2.2 b hb e ?_
    have h_e := (h_mem e).mpr ⟨he, h_due⟩
    rw [← List.take_append_drop limit.toNat ordered, List.mem_append] at h_e
    exact h_e.resolve_left h_not
  · have h_ordered : (ordered.map OutboxEvent.id).Nodup :=
      (h_perm.map OutboxEvent.id).nodup_iff.mpr (h_keys.sublist (List.filter_sublist.map _))
    exact h_ordered.sublist ((List.take_sublist _ _).map _)

end Claim

/-! ### The call -/

namespace OutboxPublisher

end OutboxPublisher

section Call

variable {publisher : OutboxPublisher} {limit : ℤ} {p : Pid} {w w' : World} {is : List Choice}
  {replies : UUID → BrokerReply} {last : UUID → Choice}

end Call

/-- A publisher that makes two attempts. -/
def twicePublisher : OutboxPublisher := ⟨"publisher", 60000000, 30000000, 2⟩

end NotificationBroker
