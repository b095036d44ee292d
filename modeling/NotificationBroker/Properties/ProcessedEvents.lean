import NotificationBroker.Db.Precedence
import NotificationBroker.Framework.Segments
import NotificationBroker.Properties.DeliveryOrigins

/-!
# What a processed event stands for

A consumer commits the offset of a record once the event is in `processed_events`, and from then on
nobody looks at the record again. So a row there is a promise: the fan-out of the notification has
been committed, and there is a delivery for everyone it was meant for.

The row and the fan-out are written by two transactions, and nothing in the database ties one to
the other; only the order of the statements in the program does. `Prog.Awaits` follows that order:
the consumer writes no row before its fan-out has committed, and no other call writes one at all.
-/

namespace NotificationBroker

open Interleave Interleave.Prog Python
open ReadCommitted (Table Grows)

/-- The notification a payload names, if the handler can read it. -/
def namedNotification (payload : Json) : Option UUID :=
  match payload.get? "notification_id" with
  | some (.str rawNotificationId) => UUID.parse rawNotificationId
  | _ => none

/-- No event is marked as processed. -/
def SameProcessed (w w' : World) : Prop := w'.processed = w.processed

/-- No event is marked as processed, and none is handed to the broker. -/
def SameLogs (w w' : World) : Prop := SameProcessed w w' ∧ w'.accepted = w.accepted

/-- Whether the event is marked as processed by the consumer. -/
def World.ProcessedBy (w : World) (consumerName : String) (eventId : UUID) : Prop :=
  ∃ row ∈ w.processed, row.eventId = eventId ∧ row.consumerName = consumerName

/-- At most one row is added, for this consumer and this event, and only if there was none. -/
def MarksOnly (consumerName : String) (eventId : UUID) (w w' : World) : Prop :=
  SameProcessed w w' ∨ (¬ w.ProcessedBy consumerName eventId ∧
    ∃ processedAt, w'.processed = w.processed ++ [⟨eventId, consumerName, processedAt⟩])

section Programs

variable {α : Type} {p : Pid} {A : World → World → Prop}

/-- A statement that leaves both logs alone. -/
theorem awaits_statement {f : Action α}
    (h : ∀ i w a w', f p i w = some (a, w') →
      w'.processed = w.processed ∧ w'.accepted = w.accepted) :
    Prog.Awaits p A SameLogs (OnReturn fun _ => True) (perform f) :=
  awaits_perform fun i w a w' hf => .inr ⟨h i w a w' hf, trivial⟩

theorem awaits_select {f : Pid → World → α} :
    Prog.Awaits p A SameLogs (OnReturn fun _ => True) (query f) :=
  awaits_query fun _ => .inr ⟨⟨rfl, rfl⟩, trivial⟩

theorem awaits_clock : Prog.Awaits p A SameLogs (OnReturn fun _ => True) awareUtcNow :=
  awaits_awareUtcNow fun _ _ => ⟨rfl, rfl⟩

theorem awaits_block {Q : α → Prop} {body : Program α}
    (h : Prog.Awaits p A SameLogs (OnReturn Q) body) :
    Prog.Awaits p A SameLogs (OnReturn Q) (unitOfWork body) :=
  awaits_unitOfWork (fun _ => ⟨rfl, rfl⟩) h

theorem awaits_processed {Q : Except PyError α → Prop} {m : Program α}
    (h : Prog.Awaits p A SameLogs Q m) : Prog.Awaits p A SameProcessed Q m :=
  h.mono (fun _ _ h => h) (fun _ _ h => h.1) fun _ h => h

end Programs

/-! ### The fan-out -/

section Fanout

variable {p : Pid} {A : World → World → Prop}

theorem addRecipients_same (notificationId : UUID) (createdAt : Instant) (userIds : List UUID) :
    Prog.Awaits p A SameLogs (OnReturn fun _ => True)
      (addRecipientsIgnoreConflicts notificationId createdAt userIds) := by
  induction userIds with
  | nil => exact awaits_return trivial
  | cons userId userIds ih =>
    refine Awaits.bind_raising (R := fun _ => True) (awaits_statement fun i w a w' hf => ?_)
      fun _ _ => ih
    grind [World.issue]

theorem addDeliveries_same (values : List (UUID → Delivery)) :
    Prog.Awaits p A SameLogs (OnReturn fun _ => True)
      (addDeliveriesIgnoreConflicts values) := by
  induction values with
  | nil => exact awaits_return trivial
  | cons row values ih =>
    refine Awaits.bind_raising (R := fun _ => True) (awaits_statement fun i w a w' hf => ?_)
      fun _ _ => ih
    grind [World.issue]

namespace NotificationFanoutService

variable {Q : NotificationFanoutResult → Prop} (service : NotificationFanoutService)

/-- The body of the unit of work returns when the fan-out has been committed, and not before. -/
theorem fanout_awaits (n : Notification) (nextAttemptAt : Instant)
    (hA : (∀ w w', .fanoutCommitted p n.id ∈ w'.history → A w w') ∨ ∀ result, Q result) :
    Prog.Awaits p A SameLogs (OnReturn Q) (service.fanout n nextAttemptAt) := by
  -- the audience is resolved first
  refine Awaits.bind_raising (R := fun _ => True) (awaits_compute fun _ _ => trivial)
    fun audience _ => ?_
  refine Awaits.bind_raising (R := fun _ => True)
    (awaits_attempt fun i w r w' hf => .inr ⟨?_, fun _ _ => trivial⟩) fun userIds _ => ?_
  · show w'.processed = w.processed ∧ w'.accepted = w.accepted
    grind [note]
  refine Awaits.bind_raising (R := fun _ => True) (awaits_compute fun _ _ => trivial)
    -- up to the flush of the recipients nothing is committed, and no log is written
    fun channels _ => ?_
  refine Awaits.bind_raising (R := fun _ => True) (awaits_compute fun _ _ => trivial)
    fun _ _ => ?_
  refine Awaits.bind_raising awaits_select fun recipientIds _ => ?_
  refine Awaits.bind_raising (addRecipients_same _ _ _) fun _ _ => ?_
  refine Awaits.bind_raising (R := fun _ => True) (awaits_statement fun i w a w' hf => ?_)
    fun recipientIds _ => ?_
  · grind [note]
  refine Awaits.bind_raising (R := fun _ => True)
    -- the deliveries of the pairs that are missing
    (awaits_attempt fun i w r w' hf => .inr ⟨?_, fun _ _ => trivial⟩) fun pairs _ => ?_
  · show w'.processed = w.processed ∧ w'.accepted = w.accepted
    grind
  refine Awaits.bind_raising (R := fun _ => True) (awaits_compute fun _ _ => trivial)
    fun values _ => ?_
  refine Awaits.bind_raising (addDeliveries_same values) fun _ _ => ?_
  refine Awaits.bind_raising (R := fun _ => True)
    (awaits_attempt fun i w r w' hf => .inr ⟨?_, fun _ _ => trivial⟩) fun pairs _ => ?_
  · show w'.processed = w.processed ∧ w'.accepted = w.accepted
    grind [note]
  -- the commit at the end is what is awaited
  refine Awaits.bind_raising (R := fun _ => ∀ result, Q result) ?_ fun _ h_all =>
    awaits_return (h_all _)
  refine awaits_perform fun i w _ w' hf => ?_
  obtain ⟨-, rfl⟩ := Prod.mk.inj (Option.some.inj hf)
  rcases hA with hA | h_all
  · exact .inl (hA _ _ (by simp [World.record]))
  · exact .inr ⟨⟨rfl, rfl⟩, h_all⟩

theorem fanoutNotification_awaits (notificationId : UUID)
    (hA : (∀ w w', .fanoutCommitted p notificationId ∈ w'.history → A w w') ∨
      ∀ result, Q result) :
    Prog.Awaits p A SameLogs (OnReturn Q) (service.fanoutNotification notificationId) := by
  refine Awaits.bind_raising awaits_clock fun nextAttemptAt _ => awaits_block ?_
  refine Awaits.bind_raising
    -- the notification that is read is the one with the identifier
    (R := fun found => ∀ n, found = some n → n.id = notificationId) ?_ fun found h_found => ?_
  · refine awaits_perform fun i w found w' hf => .inr ?_
    split at hf
    next n h_find =>
      obtain ⟨rfl, rfl⟩ := Prod.mk.inj (Option.some.inj hf)
      refine ⟨⟨rfl, rfl⟩, fun m hm => ?_⟩
      obtain rfl := Option.some.inj hm
      exact of_decide_eq_true (List.find?_some h_find :)
    next =>
      obtain ⟨rfl, rfl⟩ := Prod.mk.inj (Option.some.inj hf)
      exact ⟨⟨rfl, rfl⟩, fun m hm => nomatch hm⟩
  · cases found with
    | none => exact awaits_throw _
    | some n => exact service.fanout_awaits n nextAttemptAt (h_found n rfl ▸ hA)

end NotificationFanoutService

end Fanout

/-! ### The consumer -/

namespace NotificationConsumerWorker

variable {p : Pid} {A : World → World → Prop} (service : NotificationFanoutService)
  (consumerName : String) (message : NotificationKafkaMessage)

theorem handle_awaits {Q : NotificationFanoutResult → Prop} (payload : Json)
    (hA : (∀ id w w', namedNotification payload = some id →
      .fanoutCommitted p id ∈ w'.history → A w w') ∨ ∀ result, Q result) :
    Prog.Awaits p A SameLogs (OnReturn Q) (handle service payload) := by
  unfold handle
  split
  next rawNotificationId h_get =>
    split
    next notificationId h_parse =>
      refine service.fanoutNotification_awaits notificationId (hA.imp_left fun hA w w' => ?_)
      refine hA notificationId w w' ?_
      rw [namedNotification, h_get]
      exact h_parse
    next => exact awaits_throw _
  next => exact awaits_throw _

/-- The row, as the last statement of a turn. -/
theorem markProcessed_awaits (eventId : UUID) :
    Prog.Awaits p (fun _ w' => w'.ProcessedBy consumerName eventId) SameProcessed
      (OnReturn fun _ => False) (markProcessed consumerName eventId) := by
  refine Awaits.bind_raising (R := fun _ => True)
    (awaits_awareUtcNow fun _ _ => rfl) fun now _ => ?_
  -- with the row in place already the insert is refused, and otherwise it is what is awaited
  refine awaits_unitOfWork (fun _ => rfl) (awaits_attempt fun i w r w' hf => ?_)
  dsimp only at hf
  split at hf
  · obtain ⟨rfl, rfl⟩ := Prod.mk.inj (Option.some.inj hf)
    exact .inr ⟨rfl, onReturn_error _⟩
  · obtain ⟨-, rfl⟩ := Prod.mk.inj (Option.some.inj hf)
    exact .inl ⟨_, List.mem_append_right _ (List.mem_singleton.mpr rfl), rfl, rfl⟩

theorem markProcessed_marks (eventId : UUID) :
    Prog.Awaits p (fun _ _ => False) (MarksOnly consumerName eventId) (OnReturn fun _ => True)
      (markProcessed consumerName eventId) := by
  refine Awaits.bind_raising (R := fun _ => True)
    (awaits_awareUtcNow fun w event => .inl rfl) fun now _ => ?_
  refine awaits_unitOfWork (fun w => .inl rfl) (awaits_attempt fun i w r w' hf => ?_)
  dsimp only at hf
  split at hf
  · obtain ⟨-, rfl⟩ := Prod.mk.inj (Option.some.inj hf)
    exact .inr ⟨.inl rfl, fun _ _ => trivial⟩
  -- the insert has found no row with this key
  next h_free =>
    obtain ⟨-, rfl⟩ := Prod.mk.inj (Option.some.inj hf)
    refine .inr ⟨.inr ⟨fun ⟨row, h_row, h_event, h_consumer⟩ => h_free ?_, now, rfl⟩,
      fun _ _ => trivial⟩
    refine List.any_eq_true.mpr ⟨row, h_row, ?_⟩
    simp [ProcessedEvent.conflicts, h_event, h_consumer]

/-- The consumer adds no row before its fan-out has been committed. -/
theorem consume_awaits_fanout :
    Prog.Awaits p (fun _ w' => ∃ id, namedNotification message.payload = some id ∧
        .fanoutCommitted p id ∈ w'.history) SameProcessed (OnReturn fun _ => True)
      (consume service consumerName message) := by
  refine Awaits.bind_raising (R := fun _ => True) (awaits_processed (awaits_block awaits_select))
    fun seen _ => ?_
  cases seen with
  | true => exact awaits_return trivial
  | false =>
    -- the row is written behind the handler, which returns only with its fan-out committed
    refine Awaits.bind_raising (R := fun _ => False) ?_ fun _ h => h.elim
    refine Awaits.bind_raising (R := fun _ => False)
      (awaits_processed
        (handle_awaits service message.payload (.inl fun id w w' h_id h_event => ?_)))
      fun _ h => h.elim
    exact ⟨id, h_id, h_event⟩

/-- The rows it adds are for its own record. -/
theorem consume_marks :
    Prog.Awaits p (fun _ _ => False) (MarksOnly consumerName message.eventId)
      (OnReturn fun _ => True) (consume service consumerName message) := by
  refine Awaits.bind_raising (R := fun _ => True)
    ((awaits_processed (awaits_block awaits_select)).mono (fun _ _ h => h) (fun _ _ => .inl)
      fun _ h => h)
    fun seen _ => ?_
  cases seen with
  | true => exact awaits_return trivial
  | false =>
    -- the handler leaves the table alone, and the row is the last statement
    refine Awaits.bind_raising (R := fun _ => True) ?_ fun _ _ => ?_
    · refine Awaits.bind_raising (R := fun _ => True) ?_ fun _ _ => awaits_return trivial
      exact (awaits_processed (handle_awaits service message.payload (.inr fun _ => trivial))).mono
        (fun _ _ h => h) (fun _ _ => .inl) fun _ h => h
    · exact Awaits.bind_raising (markProcessed_marks consumerName message.eventId) fun _ _ =>
        awaits_return trivial

/-- It returns only when there is a row for its record. -/
theorem consume_awaits_mark :
    Prog.Awaits p (fun _ w' => w'.ProcessedBy consumerName message.eventId) SameProcessed
      (OnReturn fun _ => False) (consume service consumerName message) := by
  refine Awaits.bind_raising (R := fun seen => seen = false)
    (awaits_unitOfWork (fun _ => rfl) (awaits_query fun w => ?_)) fun seen h_seen => ?_
  · -- it returns at once if it has seen a row, which is then there
    cases h_any : w.processed.any fun e => e.eventId = message.eventId ∧
      e.consumerName = consumerName with
    | false => exact .inr ⟨rfl, rfl⟩
    | true =>
      obtain ⟨row, h_row, h_key⟩ := List.any_eq_true.mp h_any
      exact .inl ⟨row, h_row, of_decide_eq_true h_key⟩
  · -- otherwise it does not return without its own row
    subst h_seen
    refine Awaits.bind_raising (R := fun _ => True) ?_ fun _ _ => ?_
    · exact Awaits.bind_raising
        (awaits_processed (handle_awaits service message.payload (.inr fun _ => trivial)))
        fun _ _ => awaits_return trivial
    · exact Awaits.bind_raising (markProcessed_awaits consumerName message.eventId)
        fun _ h => h.elim

end NotificationConsumerWorker

/-! ### The other calls -/

section Others

variable {p : Pid} {A : World → World → Prop}

theorem createNotification_same (service : NotificationCreationService) (sha256 : String → String)
    (sourceService : String) (request : NotificationCreationInput)
    (idempotencyKey : Option String) :
    Prog.Awaits p A SameLogs (OnReturn fun _ => True)
      (service.createNotification sha256 sourceService request idempotencyKey) := by
  refine Awaits.bind_raising awaits_clock fun now _ => awaits_block ?_
  refine Awaits.bind_raising (R := fun _ => True) (awaits_compute fun _ _ => trivial)
    fun identity _ => ?_
  refine Awaits.bind_raising awaits_select fun found _ => ?_
  cases found with
  | some existing => exact awaits_compute fun _ _ => trivial
  | none =>
    refine Awaits.bind_raising (R := fun _ => True) (awaits_statement fun i w a w' hf => ?_)
      fun flushed _ => ?_
    · grind [World.issue]
    -- the unique index has refused the row, or the commit comes next
    cases flushed with
    | some notification =>
      refine Awaits.bind_raising (R := fun _ => True) (awaits_statement fun i w a w' hf => ?_)
        fun _ _ => awaits_return trivial
      grind [World.issue]
    | none =>
      refine Awaits.bind_raising (awaits_rollback fun _ => ⟨rfl, rfl⟩) fun _ _ => ?_
      refine Awaits.bind_raising awaits_select fun found _ => ?_
      cases found with
      | some existing => exact awaits_compute fun _ _ => trivial
      | none => exact awaits_throw _

/-- The loop of a publisher hands the broker the records of its claims. -/
theorem publishClaims_awaits {F : World → World → Prop} {ok : ClaimedOutboxEvent → Prop}
    (h_logs : ∀ w w', SameLogs w w' → F w w')
    (h_publish : ∀ claim, ok claim → ∀ w w', SameProcessed w w' →
      w'.accepted ⊆ OutboxPublisher.kafkaRecord claim :: w.accepted → F w w')
    (publisher : OutboxPublisher) (now : Instant) {claims : List ClaimedOutboxEvent}
    (h_claims : ∀ claim ∈ claims, ok claim) (counts : ℕ × ℕ × ℕ) :
    Prog.Awaits p A F (OnReturn fun _ => True) (publisher.publishClaims now claims counts) := by
  have h_finalize : ∀ claim errorMessage, Prog.Awaits p A F (OnReturn fun _ => True)
      (publisher.finalizeEvent claim now errorMessage) := fun claim errorMessage =>
    (awaits_statement fun i w a w' hf => by grind [World.record]).mono (fun _ _ h => h) h_logs
      fun _ h => h
  -- one claim after the other: the record goes to the broker, and the row is finalized
  induction claims generalizing counts with
  | nil => exact awaits_return trivial
  | cons claim claims ih =>
    have h_claim := h_claims claim List.mem_cons_self
    refine Awaits.bind_raising (R := fun _ => True) ?_ fun result _ =>
      ih (fun claim h_mem => h_claims claim (List.mem_cons_of_mem _ h_mem)) _
    refine Awaits.bind_raising (R := fun _ => True)
      (awaits_perform fun i w a w' hf => .inr ⟨h_publish claim h_claim w w' ?_ ?_, trivial⟩)
      fun errorMessage _ => ?_
    · show w'.processed = w.processed
      grind
    · -- what the broker has accepted is this record
      cases i with
      | ack =>
        obtain ⟨-, rfl⟩ := Prod.mk.inj (Option.some.inj hf)
        simp
      | nack accepted message =>
        obtain ⟨-, rfl⟩ := Prod.mk.inj (Option.some.inj hf)
        cases accepted <;> simp
      | _ => exact absurd hf (by simp)
    · cases errorMessage with
      | some message => exact h_finalize claim _
      | none => exact h_finalize claim none

/-- The claims of a publisher are of rows of the outbox. -/
theorem publishDueEvents_awaits {F : World → World → Prop} (ok : ClaimedOutboxEvent → Prop)
    (h_logs : ∀ w w', SameLogs w w' → F w w')
    (h_publish : ∀ claim, ok claim → ∀ w w', SameProcessed w w' →
      w'.accepted ⊆ OutboxPublisher.kafkaRecord claim :: w.accepted → F w w')
    (h_claimed : ∀ w w', ∀ e ∈ w.outbox, ∀ token, ¬ ok (.ofRow e token) → A w w')
    (publisher : OutboxPublisher) (limit : ℤ) :
    Prog.Awaits p A F (OnReturn fun _ => True) (publisher.publishDueEvents limit) := by
  refine Awaits.bind_raising (awaits_clock.mono (fun _ _ h => h) h_logs fun _ h => h)
    fun now _ => ?_
  -- the claims are of rows of the outbox, or it has claimed one that is not
  refine Awaits.bind_raising (R := fun claims => ∀ claim ∈ claims, ok claim) ?_
    fun claims h_claims => Awaits.bind_raising
      (publishClaims_awaits h_logs h_publish publisher now h_claims _) fun _ _ =>
        awaits_return trivial
  unfold claimDueEvents
  split
  · exact awaits_return (by simp)
  · refine awaits_perform fun i w claims w' hf => ?_
    cases i with
    | claim skipped tokens =>
      simp only [Option.ite_none_right_eq_some] at hf
      obtain ⟨rfl, rfl⟩ := Prod.mk.inj (Option.some.inj hf.2)
      by_cases h_ok : ∀ claim ∈ List.zipWith ClaimedOutboxEvent.ofRow
          (dueEvents w.outbox now limit.toNat skipped) tokens, ok claim
      · exact .inr ⟨h_logs _ _ ⟨rfl, rfl⟩, h_ok⟩
      · -- one of the rows it has claimed
        push Not at h_ok
        obtain ⟨claim, h_claim, h_not⟩ := h_ok
        obtain ⟨e, he, token, -, rfl⟩ := exists_of_mem_zipWith h_claim
        exact .inl (h_claimed _ _ e (mem_dueEvents he).1 token h_not)
    | _ => exact absurd hf (by simp)

theorem publishDueEvents_same (publisher : OutboxPublisher) (limit : ℤ) :
    Prog.Awaits p A SameProcessed (OnReturn fun _ => True) (publisher.publishDueEvents limit) :=
  publishDueEvents_awaits (fun _ => True) (fun _ _ h => h.1) (fun _ _ _ _ h _ => h)
    (fun _ _ _ _ _ h => absurd trivial h) publisher limit

theorem processClaims_same (worker : DeliveryWorker) (now : Instant)
    (claims : List ClaimedDelivery) :
    Prog.Awaits p A SameLogs (OnReturn fun _ => True) (worker.processClaims now claims) := by
  induction claims with
  | nil => exact awaits_return trivial
  | cons claim claims ih =>
    refine Awaits.bind_raising (R := fun _ => True) (awaits_statement fun i w a w' hf => ?_)
      fun found _ => ?_
    · grind [World.record]
    -- a row that is not held any more is passed over
    cases found with
    | none => exact ih
    | some r =>
      refine Awaits.bind_raising (R := fun _ => True) ?_ fun outcome _ => ?_
      · -- the adapter call
        unfold DeliveryWorker.deliver
        split
        · exact awaits_return trivial
        · split
          · refine Awaits.bind_raising (R := fun _ => True)
              (awaits_statement fun i w a w' hf => ?_) fun _ _ =>
                awaits_statement fun i w a w' hf => ?_
            · grind [World.record, DeliveryWorker.advance]
            · grind [DeliveryWorker.advance]
          · exact awaits_return trivial
      · -- the finalization
        refine Awaits.bind_raising (R := fun _ => True) (awaits_block ?_) fun _ _ =>
          Awaits.bind_raising ih fun _ _ => awaits_return trivial
        refine awaits_attempt fun i w r w' hf => .inr ⟨?_, fun _ _ => trivial⟩
        show w'.processed = w.processed ∧ w'.accepted = w.accepted
        grind [DeliveryWorker.commitOutcome, World.record, World.issue, DeliveryWorker.putDown]

theorem processDueDeliveries_same (worker : DeliveryWorker) (limit : ℤ) :
    Prog.Awaits p A SameLogs (OnReturn fun _ => True) (worker.processDueDeliveries limit) := by
  refine Awaits.bind_raising awaits_clock fun now _ => ?_
  refine Awaits.bind_raising (R := fun _ => True) ?_ fun claims _ =>
    Awaits.bind_raising (processClaims_same worker now claims) fun _ _ => awaits_return trivial
  unfold claimDueDeliveries
  split
  · exact awaits_return trivial
  · exact awaits_statement fun i w a w' hf => by grind [World.record, World.issue]

theorem recordRetry_same (requester : RetryService.Requester) (notificationId : UUID)
    (eligible : List Delivery) (requestedAt : Instant) :
    Prog.Awaits p A SameLogs (OnReturn fun _ => True)
      (RetryService.recordRetry requester notificationId eligible requestedAt) := by
  refine Awaits.bind_raising (R := fun _ => True) (awaits_statement fun i w a w' hf => ?_)
    fun _ _ => awaits_return trivial
  grind [World.issue]

theorem retryAll_same (permitted : Notification → Except PyError Unit) (notificationId : UUID)
    (requester : RetryService.Requester) :
    Prog.Awaits p A SameLogs (OnReturn fun _ => True)
      (RetryService.retryAll permitted notificationId requester) := by
  refine Awaits.bind_raising awaits_clock fun requestedAt _ => awaits_block ?_
  refine Awaits.bind_raising awaits_select fun found _ => ?_
  cases found with
  | none => exact awaits_throw _
  | some n =>
    refine Awaits.bind_raising (R := fun _ => True) (awaits_compute fun _ _ => trivial)
      fun _ _ => ?_
    exact Awaits.bind_raising awaits_select fun eligible _ => recordRetry_same _ _ _ _

theorem retryUserNotification_same (webNotificationId userId : UUID) :
    Prog.Awaits p A SameLogs (OnReturn fun _ => True)
      (RetryService.retryUserNotification webNotificationId userId) := by
  refine Awaits.bind_raising awaits_clock fun requestedAt _ => awaits_block ?_
  refine Awaits.bind_raising awaits_select fun found _ => ?_
  cases found with
  | none => exact awaits_throw _
  | some webDelivery =>
    refine Awaits.bind_raising awaits_select fun found _ => ?_
    cases found with
    | none => exact awaits_throw _
    | some n => exact Awaits.bind_raising awaits_select fun eligible _ => recordRetry_same _ _ _ _

theorem markRead_same (userId webNotificationId : UUID) :
    Prog.Awaits p A SameLogs (OnReturn fun _ => True)
      (WebNotificationService.markRead userId webNotificationId) := by
  refine Awaits.bind_raising awaits_clock fun readAt _ => awaits_block ?_
  refine Awaits.bind_raising awaits_select fun found _ => ?_
  cases found with
  | none => exact awaits_throw _
  | some delivery =>
    dsimp only
    split
    · exact awaits_return trivial
    · refine Awaits.bind_raising (R := fun _ => True) (awaits_statement fun i w a w' hf => ?_)
        fun _ _ => awaits_return trivial
      grind [World.record]

/-- What is followed of a call is followed of its answer. -/
theorem awaits_answer {α : Type} {F : World → World → Prop} {Q : α → Prop} {m : Program α}
    (wrap : α → Answer) (h : Prog.Awaits p A F (OnReturn Q) m) :
    Prog.Awaits p A F (OnReturn fun _ => ∃ a, Q a) (Program.answer wrap m) :=
  Awaits.bind_raising h fun a ha => awaits_return ⟨a, ha⟩

theorem awaits_answer_any {α : Type} {F : World → World → Prop} {m : Program α}
    (wrap : α → Answer) (h : Prog.Awaits p A F (OnReturn fun _ => True) m) :
    Prog.Awaits p A F (fun _ => True) (Program.answer wrap m) :=
  (awaits_answer wrap h).mono (fun _ _ h => h) (fun _ _ h => h) fun _ _ => trivial

/-- Only consumers mark events as processed, and only publishers hand any to the broker. -/
theorem Call.program_same {sha256 : String → String} {call : Call}
    (h : call.part ≠ .consumer) (h_publisher : call.part ≠ .publisher) :
    Prog.Awaits p A SameLogs (fun _ => True) (call.program sha256) := by
  -- no other part marks an event or hands the broker a record
  cases call with
  | createNotification service sourceService request key =>
    exact awaits_answer_any _ (createNotification_same service sha256 sourceService request key)
  | publishDueEvents publisher limit => exact absurd rfl h_publisher
  | consume service consumerName message => exact absurd rfl h
  | processDueDeliveries worker limit =>
    exact awaits_answer_any _ (processDueDeliveries_same worker limit)
  | retryNotification notificationId byType byId => exact awaits_answer_any _ (retryAll_same _ _ _)
  | retryNotificationForService notificationId byId canRetryAny =>
    exact awaits_answer_any _ (retryAll_same _ _ _)
  | retryUserNotification webNotificationId userId =>
    exact awaits_answer_any _ (retryUserNotification_same webNotificationId userId)
  | markRead userId webNotificationId =>
    exact awaits_answer_any _ (markRead_same userId webNotificationId)

theorem Call.program_sameProcessed {sha256 : String → String} {call : Call}
    (h : call.part ≠ .consumer) :
    Prog.Awaits p A SameProcessed (fun _ => True) (call.program sha256) := by
  by_cases h_publisher : call.part = .publisher
  · cases call with
    | publishDueEvents publisher limit =>
      exact awaits_answer_any _ (publishDueEvents_same publisher limit)
    | _ => exact absurd h_publisher (by simp [Call.part])
  · exact awaits_processed (Call.program_same h h_publisher)

end Others

/-! ### Whole runs -/

/-- There are a recipient for each of the users, and a delivery for each of them on each of the
requested channels. -/
structure HasRows (w : World) (n : Notification) (userIds : List UUID) : Prop where
  committed : n ∈ w.notifications.committed
  recipients : ∀ userId ∈ userIds, ∃ r ∈ w.recipientsOf n.id, r.userId = userId
  deliveries : ∀ userId ∈ userIds, ∀ channel ∈ n.channels,
    ∃ r ∈ w.deliveriesOf n.id, r.pair = (userId, channel)

/-- Every fan-out that has committed has left rows for an audience of the past. -/
def FanoutsComplete (states : List World) (w : World) : Prop :=
  ∀ p id, .fanoutCommitted p id ∈ w.history →
    ∃ n userIds, n.id = id ∧ ResolvedIn states n userIds ∧ HasRows w n userIds

section Moves

variable {d : Deployment} {w w' : World} {states : List World}

/-- The rows of a fan-out stay. -/
theorem WorldMove.hasRows (hS : Sound w) (h : WorldMove d w w') {n : Notification}
    {userIds : List UUID} (h_rows : HasRows w n userIds) :
    ∃ n', n.SameRequest n' ∧ HasRows w' n' userIds := by
  obtain ⟨n', hn', h_same⟩ := h.notifications_grow.mem h_rows.committed
  refine ⟨n', h_same, hn', fun userId h_user => ?_, fun userId h_user channel h_channel => ?_⟩
  · obtain ⟨r, hr, h_r⟩ := h_rows.recipients userId h_user
    exact ⟨r, h.recipientsOf_kept (h_same.id.symm ▸ hr), h_r⟩
  · -- a delivery may have changed, but not its user and channel
    rw [h_same.channels] at h_channel
    obtain ⟨r, hr, h_r⟩ := h_rows.deliveries userId h_user channel h_channel
    obtain ⟨r', hr', h_pair⟩ := h.deliveriesOf_kept hS (h_same.id.symm ▸ hr)
    exact ⟨r', hr', h_pair.trans h_r⟩

theorem WorldMove.fanoutsComplete (hS : Sound w) (hF : OpenFanouts d w) (hO : Origins states w)
    (hC : FanoutsComplete states w) (h : WorldMove d w w') :
    FanoutsComplete (states ++ [w]) w' := by
  intro p id h_event
  rcases h.mem_history h_event with h_old | h_new
  · -- the rows of an earlier commit are still there
    obtain ⟨n, userIds, h_id, h_resolved, h_rows⟩ := hC p id h_old
    obtain ⟨n', h_same, h_rows'⟩ := h.hasRows hS h_rows
    exact ⟨n', userIds, h_same.id.trans h_id, (h_resolved.congr h_same).mono _, h_rows'⟩
  · rcases h.fanout_cases with ⟨q, x, userIds, h_events, h_commit⟩ | h_idle
    · -- the commit of a fan-out that has resolved its audience earlier
      rw [h_events, List.mem_singleton] at h_new
      obtain ⟨-, rfl⟩ := Event.fanoutCommitted.inj h_new
      have hx := (mem_fanouts_of_own h_commit.own).1
      obtain ⟨n, hn, h_same⟩ := h.mem_fanouts_loaded hF hx
      have h_resolved := (hO.resolved x hx userIds h_commit.users).congr h_same
      refine ⟨n, userIds, h_same.id, h_resolved.mono _, hn, fun userId h_user => ?_,
        fun userId h_user channel h_channel => ?_⟩
      · rw [h_same.id]
        exact h_commit.covers_users userId h_user
      · rw [h_same.channels] at h_channel
        obtain ⟨r, hr, h_user', h_channel'⟩ := h_commit.covers_pairs userId h_user channel h_channel
        exact ⟨r, h_same.id.symm ▸ hr, Prod.ext h_user' h_channel'⟩
    · exact absurd h_new (h_idle.silent p id)

end Moves

section Runs

variable {d : Deployment} {clock : Instant} {directory : Directory} {ls ls' : Schedule}
  {c c' : State}

theorem Deployment.Run.fanoutsComplete (h : d.Run clock directory ls c) :
    FanoutsComplete (d.states clock directory ls) c.world := by
  -- the induction needs what open fan-outs have resolved, and from what
  have h_all := h.collected (f := fun w _ => [w])
    (P := fun states w => OpenFanouts d w ∧ Origins states w ∧ FanoutsComplete states w)
    ⟨⟨?_, ?_, ?_, ?_, ?_⟩, ⟨?_, ?_⟩, ?_⟩
    fun states w w' hS _ hP hM => ⟨hM.openFanouts hS hP.1, hM.origins hP.1 hP.2.1,
      hM.fanoutsComplete hS hP.1 hP.2.1 hP.2.2⟩
  · exact h_all.2.2
  all_goals simp [World.initial, Table.rows, Table.own, Table.empty, FanoutsComplete]

/-- What a step does to the processed events: nothing, or the call of a consumer marks its own
event, after its fan-out has committed. -/
theorem Deployment.Run.processed_step (h : d.Run clock directory ls c)
    {l : Label Pid Choice EnvMove} (h_step : surroundings.step c l = some c') :
    SameProcessed c.world c'.world ∨ ∃ p service consumerName message id,
      d.calls p = .consume service consumerName message ∧
      MarksOnly consumerName message.eventId c.world c'.world ∧
      namedNotification message.payload = some id ∧ .fanoutCommitted p id ∈ c'.world.history := by
  cases l with
  | env e =>
    obtain ⟨w, h_env, rfl⟩ := Machine.step_env h_step
    obtain ⟨clock, directory, rfl⟩ := env_apply h_env
    exact .inl rfl
  | crash p =>
    obtain ⟨_, _, _, -, rfl⟩ := Machine.step_crash h_step
    exact .inl rfl
  | run p i =>
    -- only the call of a consumer can mark an event
    by_cases h_part : (d.calls p).part = .consumer
    · cases h_call : d.calls p with
      | consume service consumerName message =>
        have hp : (d.start clock directory).prog p = some (Program.answer .consumed
            (NotificationConsumerWorker.consume service consumerName message)) :=
          congrArg (fun call => some (Call.program d.sha256 call)) h_call
        have h_marks := Machine.step_of_awaits h hp (awaits_answer _
          (NotificationConsumerWorker.consume_marks service consumerName message)) h_step
        have h_fanout := Machine.awaited h hp (awaits_answer _
          (NotificationConsumerWorker.consume_awaits_fanout service consumerName message)) h_step
        rcases h_fanout with ⟨ls₀, j, ls₁, c₀, c₁, rfl, h₀, h₁, id, h_id, h_event⟩ |
          ⟨id, h_id, h_event⟩ | h_same
        · -- the fan-out has committed in an earlier step
          have h_run₁ : d.Run clock directory (ls₀ ++ [.run p j]) c₁ := Machine.run_snoc h₀ h₁
          have h_later : surroundings.run c₁ ls₁ = some c := Machine.run_split _ h h₀ h₁
          have h_event' := (h_run₁.history_extends h_later).subset h_event
          exact .inr ⟨p, service, consumerName, message, id, h_call, h_marks, h_id,
            (h.move h_step).history_extends.subset h_event'⟩
        · exact .inr ⟨p, service, consumerName, message, id, h_call, h_marks, h_id, h_event⟩
        · exact .inl h_same
      | _ => exact absurd (h_call ▸ h_part) (by simp [Call.part])
    · exact .inl (Machine.step_of_awaits h rfl (Call.program_sameProcessed h_part) h_step)

/-- No event is marked twice by one consumer. -/
theorem Deployment.Run.processed_unique (h : d.Run clock directory ls c) :
    c.world.processed.Pairwise fun a b => ¬ a.conflicts b := by
  refine Machine.run_induction_on (P := fun c : State =>
    c.world.processed.Pairwise fun a b => ¬ a.conflicts b) ?_ List.Pairwise.nil h
  intro ls₀ c₀ l c₁ h_run h_step h_unique
  rcases Deployment.Run.processed_step h_run h_step with h_same | ⟨p, service, consumerName,
    message, id, -, h_same | ⟨h_new, processedAt, h_append⟩, -⟩
  · exact (congrArg (List.Pairwise _) h_same).mpr h_unique
  · exact (congrArg (List.Pairwise _) h_same).mpr h_unique
  · -- the new row is for a key that had none
    rw [h_append]
    refine List.pairwise_append.mpr ⟨h_unique, List.pairwise_singleton _ _, fun a ha b hb => ?_⟩
    obtain rfl := List.mem_singleton.mp hb
    intro h_conflict
    simp only [ProcessedEvent.conflicts, Bool.and_eq_true, decide_eq_true_eq] at h_conflict
    exact h_new ⟨a, ha, h_conflict⟩

/-- A row was written by a call whose fan-out had committed. -/
theorem Deployment.Run.processed_origin (h : d.Run clock directory ls c) {row : ProcessedEvent}
    (h_row : row ∈ c.world.processed) :
    ∃ p service message id, d.calls p = .consume service row.consumerName message ∧
      message.eventId = row.eventId ∧ namedNotification message.payload = some id ∧
      .fanoutCommitted p id ∈ c.world.history := by
  -- the step that has added the row
  obtain ⟨ls₀, l, ls₁, c₀, c₁, rfl, h₀, h₁, h_rest, h_old, h_new⟩ :=
    Machine.exists_moment (P := fun c : State => row ∈ c.world.processed)
      (by simp [Deployment.start, World.initial]) h h_row
  rcases Deployment.Run.processed_step h₀ h₁ with h_same | ⟨p, service, consumerName, message, id,
    h_call, h_marks, h_id, h_event⟩
  · exact absurd (h_same ▸ h_new) h_old
  · rcases h_marks with h_same | ⟨-, processedAt, h_append⟩
    · exact absurd (h_same ▸ h_new) h_old
    · rw [h_append, List.mem_append, List.mem_singleton] at h_new
      obtain rfl := h_new.resolve_left h_old
      have h_run₁ : d.Run clock directory (ls₀ ++ [l]) c₁ := Machine.run_snoc h₀ h₁
      exact ⟨p, service, message, id, h_call, rfl, h_id,
        (h_run₁.history_extends h_rest).subset h_event⟩

/-- The rows stay. -/
theorem Deployment.Run.processed_stays (h : d.Run clock directory ls c)
    (h' : surroundings.run c ls' = some c') {consumerName : String} {eventId : UUID}
    (h_marked : c.world.ProcessedBy consumerName eventId) :
    c'.world.ProcessedBy consumerName eventId := by
  refine Machine.run_induction_on
    (P := fun c : State => c.world.ProcessedBy consumerName eventId) ?_ h_marked h'
  intro ls₀ c₀ l c₁ h_run h_step ⟨row, h_row, h_key⟩
  refine ⟨row, ?_, h_key⟩
  rcases Deployment.Run.processed_step (Machine.run_trans h h_run) h_step with h_same | ⟨_, _, _,
    _, _, -, h_same | ⟨-, processedAt, h_append⟩, -⟩
  · exact h_same ▸ h_row
  · exact h_same ▸ h_row
  · exact h_append ▸ List.mem_append_left _ h_row

/-- A consumer's call that returns leaves its event marked, by itself or by another. -/
theorem Deployment.Run.consumed_processed (h : d.Run clock directory ls c) {p : Pid}
    {service : NotificationFanoutService} {consumerName : String}
    {message : NotificationKafkaMessage} {answer : Answer}
    (h_call : d.calls p = .consume service consumerName message)
    (h_ret : c.prog p = some (.ret (.ok answer))) :
    c.world.ProcessedBy consumerName message.eventId := by
  have hp : (d.start clock directory).prog p = some (Program.answer .consumed
      (NotificationConsumerWorker.consume service consumerName message)) :=
    congrArg (fun call => some (Call.program d.sha256 call)) h_call
  rcases Machine.awaited_result h hp (awaits_answer _
    (NotificationConsumerWorker.consume_awaits_mark service consumerName message)) h_ret with
    ⟨ls₀, i, ls₁, c₀, c₁, rfl, h₀, h₁, h_marked⟩ | h_none
  · -- the row was there at some moment of the call, and rows stay
    have h_run₁ : d.Run clock directory (ls₀ ++ [.run p i]) c₁ := Machine.run_snoc h₀ h₁
    exact h_run₁.processed_stays (Machine.run_split _ h h₀ h₁) h_marked
  · exact (h_none answer rfl).elim fun _ h_false => h_false.elim

/-- **No event is acknowledged before its fan-out.** Whatever overlaps or crashes, and however
users, groups and labels change: an event is marked as processed at most once by one consumer; by
then the call that marks it has committed the fan-out of the notification it names, and there are
a recipient and the requested deliveries for everyone in the audience at some earlier moment; and
a call returns normally, upon which the offset is committed, only with its event marked. -/
theorem processed_fannedOut (h : d.Run clock directory ls c) :
    (c.world.processed.Pairwise fun a b => ¬ a.conflicts b) ∧
    (∀ row ∈ c.world.processed, ∃ p service message n userIds,
      d.calls p = .consume service row.consumerName message ∧ message.eventId = row.eventId ∧
      namedNotification message.payload = some n.id ∧
      .fanoutCommitted p n.id ∈ c.world.history ∧ HasRows c.world n userIds ∧
      ∃ ls₀ ls₁ c₀, ls = ls₀ ++ ls₁ ∧ d.Run clock directory ls₀ c₀ ∧
        (∃ n₀ ∈ c₀.world.notifications.committed, n₀.id = n.id) ∧
        c₀.world.directory.audienceOf n = .ok userIds) ∧
    ∀ p service consumerName message answer,
      d.calls p = .consume service consumerName message →
      c.prog p = some (.ret (.ok answer)) →
      c.world.ProcessedBy consumerName message.eventId := by
  refine ⟨h.processed_unique, fun row h_row => ?_,
    fun p service consumerName message answer => h.consumed_processed⟩
  -- the call that has written the row, and then the rows of its fan-out
  obtain ⟨p, service, message, id, h_call, h_event, h_id, h_committed⟩ := h.processed_origin h_row
  obtain ⟨n, userIds, rfl, ⟨w, h_w, h_n, h_audience⟩, h_rows⟩ := h.fanoutsComplete p id h_committed
  obtain ⟨ls₀, ls₁, c₀, h_split, h_run, rfl⟩ := Deployment.mem_states h_w
  exact ⟨p, service, message, n, userIds, h_call, h_event, h_id, h_committed, h_rows, ls₀, ls₁, c₀,
    h_split, h_run, h_n, h_audience⟩

/-- One event is delivered three times. -/
def acknowledgedDeployment : Deployment := .ofCalls id [
  .createNotification ⟨3600000000⟩ "orders" (.toAll [.web] postInit_web) none,
  .consume {} "consumer" (.requested 11 10),
  .consume {} "consumer" (.requested 11 10),
  .consume {} "consumer" (.requested 11 10)]

/-- The first consumer dies between its fan-out and the row, the second one finds nothing left to
do but the row, and the third one finds the row. -/
def acknowledgedSchedule : Schedule := [
  .run 0 (.time (.ofInstant 0)), .run 0 .go, .run 0 (.fresh 10), .run 0 (.fresh 11),
  .run 1 .go, .run 1 (.time (.ofInstant 0)), .run 1 .go, .run 1 .go, .run 1 .go,
  .run 1 (.fresh 21), .run 1 .go, .run 1 .go, .run 1 (.fresh 22), .run 1 .go, .run 1 .go,
  .crash 1,
  .run 2 .go, .run 2 (.time (.ofInstant 5)), .run 2 .go, .run 2 .go, .run 2 .go, .run 2 .go,
  .run 2 .go, .run 2 .go, .run 2 .go, .run 2 (.time (.ofInstant 6)), .run 2 .go,
  .run 3 .go]

theorem processed_fannedOut_redelivered :
    ∃ c, acknowledgedDeployment.Run 0 (.ofUsers [1] (by decide)) acknowledgedSchedule c ∧
      c.returned 3 = some (.ok (.consumed .duplicate)) ∧ c.prog 1 = none ∧
      c.world.ProcessedBy "consumer" 11 ∧ c.world.processed.length = 1 ∧
      c.world.processed.Pairwise fun a b => ¬ a.conflicts b := by
  obtain ⟨c, h_run, h⟩ := acknowledgedDeployment.exists_run 0 (.ofUsers [1] (by decide))
    acknowledgedSchedule (fun c => decide (c.world.processed.length = 1) &&
      (c.prog 1).isNone && decide (c.returned 3 = some (.ok (.consumed .duplicate))))
    (by decide +kernel)
  simp only [Bool.and_eq_true, decide_eq_true_eq, Option.isNone_iff_eq_none] at h
  obtain ⟨⟨h_length, h_crashed⟩, h_outcome⟩ := h
  obtain ⟨h_unique, -, h_marked⟩ := processed_fannedOut h_run
  have h_ret := Config.returned_eq.mp h_outcome
  exact ⟨c, h_run, h_outcome, h_crashed, h_marked 3 {} "consumer" (.requested 11 10) _ rfl h_ret,
    h_length, h_unique⟩

end Runs

end NotificationBroker
