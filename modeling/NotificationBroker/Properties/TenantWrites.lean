import NotificationBroker.Api.Routers.Notifications
import NotificationBroker.Api.Routers.Users
import NotificationBroker.Api.RunAlone
import NotificationBroker.Db.RunAlone
import NotificationBroker.Properties.DeliveryRows

/-!
# What a call of an endpoint may change

Who may change a row is decided in three places: in the checks of an endpoint on its principal,
in the ownership check of a service, and in the predicates of the statements. `writes_confined`
puts them together. Whatever the principal and its scopes, a call of one of the four endpoints
that write changes no row but those it is meant to change, and a call that does not end with a
response changes none, the producer's own quota excepted.

Every service has one lemma about the tables (`ends_createNotification`, `ends_retryAll`,
`ends_retryUserNotification`, `ends_markRead`, `ends_consume`). What a service has written when
it raises is in its transaction, and is rolled back; what is updated with the commit is updated
by the predicates of the last statement.
-/

namespace NotificationBroker

open Interleave Python
open ReadCommitted (Table)

/-! ### The same tables -/

/-- No table is changed, nor is the directory. -/
structure World.SameTables (w w' : World) : Prop where
  directory : w'.directory = w.directory
  notifications : w'.notifications = w.notifications
  recipients : w'.recipients = w.recipients
  deliveries : w'.deliveries = w.deliveries
  attempts : w'.attempts = w.attempts
  invocations : w'.invocations = w.invocations
  outbox : w'.outbox = w.outbox
  processed : w'.processed = w.processed
  accepted : w'.accepted = w.accepted

/-- `p` has no transaction open. -/
structure World.Idle (p : Pid) (w : World) : Prop where
  notifications : w.notifications.own p = []
  recipients : w.recipients.own p = []
  deliveries : w.deliveries.own p = []

section Tables

variable {p : Pid} {w w' w'' : World}

theorem World.SameTables.refl (w : World) : w.SameTables w :=
  ⟨rfl, rfl, rfl, rfl, rfl, rfl, rfl, rfl, rfl⟩

theorem World.SameTables.record (h : w.SameTables w') (event : Event) :
    w.SameTables (w'.record event) := { h with }

theorem World.SameTables.rollback (hw : w.Idle p) (h : w.SameTables w') :
    w.SameTables (w'.rollback p) := by
  -- nothing of the transaction is pending, so no row is rolled back
  have h_notifications : (w'.notifications.abort p) = w.notifications := by
    rw [h.notifications, Table.abort_of_own_nil hw.notifications]
  have h_recipients : (w'.recipients.abort p) = w.recipients := by
    rw [h.recipients, Table.abort_of_own_nil hw.recipients]
  have h_deliveries : (w'.deliveries.abort p) = w.deliveries := by
    rw [h.deliveries, Table.abort_of_own_nil hw.deliveries]
  exact { h with
    notifications := h_notifications
    recipients := h_recipients
    deliveries := h_deliveries }

end Tables

/-- A call that returns has changed the tables as `P` says, and one that raises has not changed
them. -/
def Confined {ε α : Type} (w : World) (P : World → Prop) : Except ε α → World → Prop
  | .ok _, w' => P w'
  | .error _, w' => w.SameTables w'

/-- What a unit of work has written when it raises is rolled back. -/
theorem ends_unitOfWork_confined {α : Type} {p : Pid} {w w₁ : World} {P : World → Prop}
    {body : Program α} (hw : w.Idle p) (h : Prog.Ends p (Confined w P) body w₁) :
    Prog.Ends p (Confined w P) (unitOfWork body) w₁ :=
  ends_unitOfWork (fun _ _ h_error => World.SameTables.rollback hw h_error) h

/-! ### Retries -/

open RetryService in
/-- What a retry does: it adds its audit row, at most one replay event of its notification, and
queues again deliveries that were eligible and had failed. -/
structure Retried (eligible : Delivery → Prop) (requester : Requester) (notificationId : UUID)
    (w w' : World) : Prop where
  directory : w'.directory = w.directory
  notifications : w'.notifications = w.notifications
  recipients : w'.recipients = w.recipients
  attempts : w'.attempts = w.attempts
  processed : w'.processed = w.processed
  accepted : w'.accepted = w.accepted
  deliveries : ∃ f, w'.deliveries = w.deliveries.modify f ∧
    ∀ d ∈ w.deliveries.committed, f d = d ∨ (eligible d ∧ d.status = .failedRetryable ∧
      ∃ replayId requestedAt, f d = d.requestReplay replayId requestedAt)
  outbox : w'.outbox = w.outbox ∨ ∃ deliveryIds replayId requestedAt eventId,
    w'.outbox = w.outbox ++
      [replayRequestedEvent notificationId deliveryIds replayId requestedAt eventId]
  invocations : ∃ replayId count requestedAt id, w'.invocations = w.invocations ++
    [invocation requester notificationId replayId count requestedAt id]

section Retries

variable {p : Pid} {w w₁ : World} {eligible : Delivery → Prop} {requester : RetryService.Requester}
  {notificationId : UUID}

theorem ends_recordRetry (h_same : w.SameTables w₁) {listed : List Delivery}
    (h_listed : ∀ d ∈ w.deliveries.committed, d.id ∈ listed.map Delivery.id → eligible d)
    (requestedAt : Instant) :
    Prog.Ends p (Confined w (Retried eligible requester notificationId w))
      (RetryService.recordRetry requester notificationId listed requestedAt) w₁ := by
  refine ends_bind (m := RetryService.commitRetry requester notificationId
    (listed.map Delivery.id) requestedAt) (ends_perform fun i a w' hf => ?_)
  cases i with
  | retry skipped replayId eventId invocationId =>
    dsimp only at hf
    split at hf
    next =>
      obtain ⟨rfl, rfl⟩ := Prod.mk.inj (Option.some.inj hf)
      refine Prog.Ends.ret ⟨h_same.directory, h_same.notifications, h_same.recipients,
        h_same.attempts, h_same.processed, h_same.accepted, ?_, ?_, ?_⟩
      · -- the deliveries that are still replayable, and no others, get the replay
        refine ⟨_, congrArg (Table.modify · _) h_same.deliveries, fun d hd => ?_⟩
        split
        next h_replay =>
          obtain ⟨h_id, -, h_failed⟩ := Delivery.replayable_iff.mp h_replay
          exact .inr ⟨h_listed d hd h_id, h_failed, _, _, rfl⟩
        next => exact .inl rfl
      · -- one event for the whole replay, or none if nothing is left to replay
        dsimp only
        rw [h_same.outbox]
        split
        · exact .inl (List.append_nil _)
        · exact .inr ⟨_, _, _, _, rfl⟩
      · exact ⟨_, _, _, _, congrArg (· ++ _) h_same.invocations⟩
    next => exact absurd hf (by simp)
  | _ => exact absurd hf (by simp)

/-- A row with the identifier of a listed row is the listed row. -/
theorem mem_of_listed {rows listed : List Delivery} (h_keys : (rows.map Delivery.id).Nodup)
    (h_sub : ∀ d ∈ listed, d ∈ rows) {d : Delivery} (hd : d ∈ rows)
    (h_id : d.id ∈ listed.map Delivery.id) : d ∈ listed := by
  obtain ⟨r, hr, h_eq⟩ := List.mem_map.mp h_id
  exact List.inj_on_of_nodup_map h_keys (h_sub r hr) hd h_eq ▸ hr

theorem mem_listFailedRetryableDeliveries {rows : List Delivery} {d : Delivery} :
    d ∈ listFailedRetryableDeliveries rows notificationId ↔
      d ∈ rows ∧ d.notificationId = notificationId ∧ d.status = .failedRetryable := by
  rw [listFailedRetryableDeliveries, List.mem_insertionSort, List.mem_filter, decide_eq_true_eq]

theorem mem_listUserRetryableSiblingDeliveries {rows : List Delivery} {d web : Delivery} :
    d ∈ listUserRetryableSiblingDeliveries rows web ↔
      d ∈ rows ∧ d.notificationRecipientId = web.notificationRecipientId ∧
        d.notificationId = web.notificationId ∧ d.userId = web.userId ∧
        d.channel ≠ Channel.web.value ∧ d.status = .failedRetryable := by
  rw [listUserRetryableSiblingDeliveries, List.mem_insertionSort, List.mem_filter,
    decide_eq_true_eq]

theorem getNotification_some {rows : List Notification} {id : UUID} {n : Notification}
    (h : getNotification rows id = some n) : n ∈ rows ∧ n.id = id :=
  ⟨List.mem_of_find?_eq_some h, of_decide_eq_true (List.find?_some h :)⟩

variable (hw : w.Idle p) (h_keys : (w.deliveries.committed.map Delivery.id).Nodup)

include hw h_keys

/-- A retry of a service queues deliveries of the notification it names, if it is permitted. -/
theorem ends_retryAll (permitted : Notification → Except PyError Unit) (notificationId : UUID)
    (requester : RetryService.Requester) :
    Prog.Ends p (Confined w fun w' =>
        (∃ n ∈ w.notifications.committed, n.id = notificationId ∧ permitted n = .ok ()) ∧
        Retried (fun d => d.notificationId = notificationId) requester notificationId w w')
      (RetryService.retryAll permitted notificationId requester) w := by
  refine ends_awareUtcNow (fun value => ?_) fun value => (World.SameTables.refl w).record _
  have h_same := (World.SameTables.refl w).record (.clockRead p value)
  refine ends_unitOfWork_confined hw (ends_query ?_)
  -- nothing of the transaction is pending, so it sees what is committed
  have h_notifications : (w.record (.clockRead p value)).notifications.visible p =
      w.notifications.committed := Table.visible_of_own_nil hw.notifications
  rw [h_notifications]
  cases h_get : getNotification w.notifications.committed notificationId with
  | none => exact Prog.Ends.ret h_same
  | some n =>
    obtain ⟨hn, rfl⟩ := getNotification_some h_get
    refine ends_compute (fun _ h_permitted => ends_query ?_) fun e _ => h_same
    have h_deliveries : (w.record (.clockRead p value)).deliveries.visible p =
        w.deliveries.committed := Table.visible_of_own_nil hw.deliveries
    rw [h_deliveries]
    -- keys are unique: a row with the identifier of a listed one is listed
    have h_listed : ∀ d ∈ w.deliveries.committed, d.id ∈
        (listFailedRetryableDeliveries w.deliveries.committed n.id).map Delivery.id →
        d.notificationId = n.id := by
      intro d hd h_id
      have h_mem := mem_of_listed h_keys
        (fun r hr => (mem_listFailedRetryableDeliveries.mp hr).1) hd h_id
      exact (mem_listFailedRetryableDeliveries.mp h_mem).2.1
    refine (ends_recordRetry h_same h_listed value.instant).mono fun r w' hr => ?_
    cases r with
    | ok result => exact ⟨⟨n, hn, rfl, h_permitted⟩, hr⟩
    | error e => exact hr

/-- A retry of a user queues deliveries of the user to the recipient of the web notification, on
other channels. -/
theorem ends_retryUserNotification (webNotificationId userId : UUID) :
    Prog.Ends p (Confined w fun w' => ∃ web ∈ w.deliveries.committed,
        web.id = webNotificationId ∧ web.userId = userId ∧
        Retried (fun d => d.userId = userId ∧ d.channel ≠ Channel.web.value ∧
            d.notificationRecipientId = web.notificationRecipientId ∧
            d.notificationId = web.notificationId)
          ⟨.user, userId.str, some webNotificationId⟩ web.notificationId w w')
      (RetryService.retryUserNotification webNotificationId userId) w := by
  refine ends_awareUtcNow (fun value => ?_) fun value => (World.SameTables.refl w).record _
  have h_same := (World.SameTables.refl w).record (.clockRead p value)
  refine ends_unitOfWork_confined hw (ends_query ?_)
  -- nothing of the transaction is pending, so it sees what is committed
  have h_deliveries : (w.record (.clockRead p value)).deliveries.visible p =
      w.deliveries.committed := Table.visible_of_own_nil hw.deliveries
  have h_notifications : (w.record (.clockRead p value)).notifications.visible p =
      w.notifications.committed := Table.visible_of_own_nil hw.notifications
  rw [h_deliveries]
  cases h_find : getVisibleWebDeliveryForUser w.deliveries.committed webNotificationId userId with
  | none => exact Prog.Ends.ret h_same
  | some web =>
    obtain ⟨h_web, rfl, rfl, -⟩ := getVisibleWebDeliveryForUser_some h_find
    refine ends_query ?_
    rw [h_notifications]
    cases h_get : getNotification w.notifications.committed web.notificationId with
    | none => exact Prog.Ends.ret h_same
    | some n =>
      obtain ⟨-, h_id⟩ := getNotification_some h_get
      refine ends_query ?_
      rw [h_deliveries]
      -- keys are unique: a row with the identifier of a listed one is listed
      have h_listed : ∀ d ∈ w.deliveries.committed, d.id ∈
          (listUserRetryableSiblingDeliveries w.deliveries.committed web).map Delivery.id →
          d.userId = web.userId ∧ d.channel ≠ Channel.web.value ∧
            d.notificationRecipientId = web.notificationRecipientId ∧
            d.notificationId = web.notificationId := by
        intro d hd h_id
        have h_mem := mem_of_listed h_keys
          (fun r hr => (mem_listUserRetryableSiblingDeliveries.mp hr).1) hd h_id
        obtain ⟨-, h_recipient, h_notification, h_user, h_channel, -⟩ :=
          mem_listUserRetryableSiblingDeliveries.mp h_mem
        exact ⟨h_user, h_channel, h_recipient, h_notification⟩
      rw [h_id]
      refine (ends_recordRetry h_same h_listed value.instant).mono fun r w' hr => ?_
      cases r with
      | ok result => exact ⟨web, h_web, rfl, rfl, hr⟩
      | error e => exact hr

end Retries

/-! ### Read marks -/

/-- What marking a web notification as read does: nothing, or two columns of one row of the
user, which has been delivered. -/
structure MarkedRead (userId webNotificationId : UUID) (w w' : World) : Prop where
  directory : w'.directory = w.directory
  notifications : w'.notifications = w.notifications
  recipients : w'.recipients = w.recipients
  attempts : w'.attempts = w.attempts
  invocations : w'.invocations = w.invocations
  outbox : w'.outbox = w.outbox
  processed : w'.processed = w.processed
  accepted : w'.accepted = w.accepted
  deliveries : ∃ f, w'.deliveries = w.deliveries.modify f ∧
    ∀ d ∈ w.deliveries.committed, f d = d ∨ (d.id = webNotificationId ∧ d.userId = userId ∧
      d.channel = Channel.web.value ∧ d.status = .delivered ∧
      ∃ readAt, f d = { d with readAt := some readAt, updatedAt := readAt })

theorem ends_markRead {p : Pid} {w : World} (hw : w.Idle p)
    (h_keys : (w.deliveries.committed.map Delivery.id).Nodup) (userId webNotificationId : UUID) :
    Prog.Ends p (Confined w (MarkedRead userId webNotificationId w))
      (WebNotificationService.markRead userId webNotificationId) w := by
  refine ends_awareUtcNow (fun value => ?_) fun value => (World.SameTables.refl w).record _
  have h_same := (World.SameTables.refl w).record (.clockRead p value)
  refine ends_unitOfWork_confined hw (ends_query ?_)
  -- nothing of the transaction is pending, so it sees what is committed
  have h_deliveries : (w.record (.clockRead p value)).deliveries.visible p =
      w.deliveries.committed := Table.visible_of_own_nil hw.deliveries
  rw [h_deliveries]
  cases h_find : getVisibleWebDeliveryForUser w.deliveries.committed webNotificationId userId with
  | none => exact Prog.Ends.ret h_same
  | some web =>
    obtain ⟨h_web, rfl, rfl, h_channel, h_status, -⟩ := getVisibleWebDeliveryForUser_some h_find
    dsimp only
    cases h_read : web.readAt with
    | some earlier =>
      -- it has been read before: the call writes nothing
      refine Prog.Ends.ret ⟨rfl, rfl, rfl, rfl, rfl, rfl, rfl, rfl, id, ?_, fun d _ => .inl rfl⟩
      exact congrArg (Table.mk · _) (List.map_id _).symm
    | none =>
      refine ends_bind (m := writeReadAt web.id value.instant) (ends_perform fun i a w' hf => ?_)
      obtain ⟨rfl, rfl⟩ := Prod.mk.inj (Option.some.inj hf)
      refine Prog.Ends.ret ⟨rfl, rfl, rfl, rfl, rfl, rfl, rfl, rfl, _, rfl, fun d hd => ?_⟩
      split
      next h_id =>
        -- the identifier determines the row, so only the one that was found is written
        obtain rfl : d = web := List.inj_on_of_nodup_map h_keys hd h_web h_id
        exact .inr ⟨rfl, rfl, h_channel, h_status, _, rfl⟩
      next => exact .inl rfl

/-! ### Creations -/

/-- What a creation does: nothing, or one notification of the source service with its event. -/
structure NotificationAdded (sourceService : String) (w w' : World) : Prop where
  directory : w'.directory = w.directory
  recipients : w'.recipients = w.recipients
  deliveries : w'.deliveries = w.deliveries
  attempts : w'.attempts = w.attempts
  invocations : w'.invocations = w.invocations
  processed : w'.processed = w.processed
  accepted : w'.accepted = w.accepted
  added : (w'.notifications = w.notifications ∧ w'.outbox = w.outbox) ∨
    ∃ n now eventId, n.sourceService = sourceService ∧
      w'.notifications = ⟨w.notifications.committed ++ [n], w.notifications.pending⟩ ∧
      w'.outbox = w.outbox ++
        [NotificationCreationService.notificationRequestedEvent n now eventId]

/-- What a transaction inserts in one statement and commits is appended. -/
theorem commit_insert {Row : Type} {t : Table Pid Row} {p : Pid} {row : Row} (h : t.own p = []) :
    (t.insert p row).commit p = ⟨t.committed ++ [row], t.pending⟩ := by
  have h_own : (t.insert p row).own p = [row] := by
    rw [Table.own_insert_self, h, List.nil_append]
  have h_abort : t.pending.filter (fun x => x.1 ≠ p) = t.pending :=
    congrArg Table.pending (Table.abort_of_own_nil h)
  have h_pending : (t.insert p row).pending.filter (fun x => x.1 ≠ p) = t.pending := by
    rw [Table.insert, List.filter_append, h_abort]
    simp
  rw [Table.commit, h_own, h_pending, Table.committed_insert]

section Creations

open NotificationCreationService

variable {p : Pid} {w w₁ : World} {sourceService : String}

theorem World.SameTables.created (h : w.SameTables w₁) : NotificationAdded sourceService w w₁ :=
  ⟨h.directory, h.recipients, h.deliveries, h.attempts, h.invocations, h.processed, h.accepted,
    .inl ⟨h.notifications, h.outbox⟩⟩

/-- A lookup decides the rest of a call without changing anything. -/
theorem ends_existing (h_same : w.SameTables w₁) (fingerprint : String)
    (existing : Notification) :
    Prog.Ends p (Confined w (NotificationAdded sourceService w))
      (compute (existingResult fingerprint existing)) w₁ := by
  refine Prog.Ends.ret ?_
  cases existingResult fingerprint existing with
  | ok result => exact h_same.created
  | error e => exact h_same

/-- The insertion of a row: the indexes refuse it, or the transaction has it. -/
theorem ends_flushNotification {β : Type} {Q : Except PyError β → World → Prop}
    {row : UUID → Notification} {g : Option Notification → Program β}
    (h_refused : Prog.Ends p Q (g none) w₁)
    (h_inserted : ∀ id, Prog.Ends p Q (g (some (row id)))
      { w₁.issue p [id] with notifications := w₁.notifications.insert p (row id) }) :
    Prog.Ends p Q (flushNotification row >>= g : Program β) w₁ := by
  refine ends_bind (m := flushNotification row) (ends_perform fun i found w₂ hf => ?_)
  cases i with
  | fresh id =>
    dsimp only at hf
    split at hf
    · split at hf
      · split at hf
        · -- the unique constraint refuses the row
          obtain ⟨rfl, rfl⟩ := Prod.mk.inj (Option.some.inj hf)
          exact h_refused
        · exact absurd hf (by simp)
        · -- the row is inserted under the identifier that the choice supplies
          obtain ⟨rfl, rfl⟩ := Prod.mk.inj (Option.some.inj hf)
          exact h_inserted id
      · obtain ⟨rfl, rfl⟩ := Prod.mk.inj (Option.some.inj hf)
        exact h_refused
    · exact absurd hf (by simp)
  | _ => exact absurd hf (by simp)

/-- Committing the notification with its event. -/
theorem ends_commitNotification {β : Type} {Q : Except PyError β → World → Prop}
    {event : UUID → OutboxEvent} {g : Unit → Program β}
    (h : ∀ id, Prog.Ends p Q (g ()) { w₁.issue p [id] with
      notifications := w₁.notifications.commit p
      outbox := w₁.outbox ++ [event id] }) :
    Prog.Ends p Q (commitNotification event >>= g : Program β) w₁ := by
  refine ends_bind (m := commitNotification event) (ends_perform fun i a w₂ hf => ?_)
  cases i with
  | fresh id =>
    dsimp only at hf
    split at hf
    · obtain ⟨rfl, rfl⟩ := Prod.mk.inj (Option.some.inj hf)
      exact h id
    · exact absurd hf (by simp)
  | _ => exact absurd hf (by simp)

theorem ends_createNotification (hw : w.Idle p) (service : NotificationCreationService)
    (sha256 : String → String) (sourceService : String) (request : NotificationCreationInput)
    (idempotencyKey : Option String) :
    Prog.Ends p (Confined w (NotificationAdded sourceService w))
      (service.createNotification sha256 sourceService request idempotencyKey) w := by
  refine ends_awareUtcNow (fun value => ?_) fun value => (World.SameTables.refl w).record _
  have h_same := (World.SameTables.refl w).record (.clockRead p value)
  generalize w.record (.clockRead p value) = w₁ at h_same ⊢
  refine ends_unitOfWork_confined hw (ends_compute (fun identity _ => ends_query ?_)
    fun e _ => h_same)
  split
  next existing _ => exact ends_existing h_same _ existing
  next =>
    refine ends_flushNotification ?_ fun id => ?_
    · -- the transaction is rolled back, and the request is looked up again
      refine ends_bind (m := rollback) (ends_perform fun i a w₂ hf => ?_)
      obtain ⟨-, rfl⟩ := Prod.mk.inj (Option.some.inj hf)
      have h_back := h_same.rollback hw
      refine ends_query ?_
      split
      next existing _ => exact ends_existing h_back _ existing
      next => exact Prog.Ends.ret h_back
    · refine ends_commitNotification fun eventId => Prog.Ends.ret ?_
      refine ⟨h_same.directory, h_same.recipients, h_same.deliveries, h_same.attempts,
        h_same.invocations, h_same.processed, h_same.accepted,
        .inr ⟨newNotification sourceService request identity (payloadFingerprint sha256 request)
          value.instant id, value.instant, eventId, rfl, ?_, ?_⟩⟩
      · dsimp only
        rw [h_same.notifications]
        exact commit_insert hw.notifications
      · exact congrArg (· ++ _) h_same.outbox

end Creations

/-! ### Quotas -/

/-- What a call of the quota service does: at most one counter of the source service. -/
def QuotaSpent (sourceService : String) (q q' : QuotaStore) : Prop :=
  ∃ key : QuotaKey, key.sourceService = sourceService ∧
    ∀ key', key' ≠ key → q'.producerQuotas.committed key' = q.producerQuotas.committed key'

section Quotas

open ReadCommitted (Counters)

variable {p : Pid} {q : QuotaStore} {sourceService : String}

theorem QuotaSpent.of_same {q' : QuotaStore}
    (h : q'.producerQuotas.committed = q.producerQuotas.committed) :
    QuotaSpent sourceService q q' :=
  ⟨⟨sourceService, 0⟩, rfl, fun key' _ => congrFun h key'⟩

/-- Committing an increment changes its counter only. -/
theorem committed_increment {t : Counters Pid QuotaKey} {key key' : QuotaKey}
    (h_own : t.own p = []) (h_ne : key' ≠ key) :
    ((t.increment p key).commit p).committed key' = t.committed key' := by
  have h_find : ((t.increment p key).own p).find? (·.key = key') = none := by
    rw [Counters.own_increment_self, h_own, List.find?_cons_of_neg (by simpa using h_ne.symm)]
    rfl
  rw [Counters.commit]
  dsimp only
  rw [h_find]
  rfl

/-- Counting a request, in a transaction of its own. -/
theorem ends_increment (h_own : q.producerQuotas.own p = []) (windowStart : Instant) :
    Prog.Ends p (fun _ q' => QuotaSpent sourceService q q') (QuotaProgram.unitOfWork do
      let requestCount ← ProducerQuotaRepository.increment sourceService windowStart
      ProducerQuotaRepository.commit
      return requestCount) q := by
  refine Prog.Ends.bind (Prog.Ends.bind_raising (Prog.Ends.act fun i r q₁ hf => Prog.Ends.ret ?_))
  dsimp only at hf
  split at hf
  · exact absurd hf (by simp)
  · split at hf
    · obtain ⟨rfl, rfl⟩ := Prod.mk.inj (Option.some.inj hf)
      refine Prog.Ends.bind_raising (Prog.Ends.act fun i r q₂ hf => Prog.Ends.ret ?_)
      obtain ⟨rfl, rfl⟩ := Prod.mk.inj (Option.some.inj hf)
      exact Prog.Ends.ret (Prog.Ends.ret
        ⟨⟨sourceService, windowStart⟩, rfl, fun key' h_ne => committed_increment h_own h_ne⟩)
    · -- the count does not fit its column: the transaction is rolled back
      obtain ⟨rfl, rfl⟩ := Prod.mk.inj (Option.some.inj hf)
      refine Prog.Ends.bind_raising (Prog.Ends.act fun i r q₂ hf => Prog.Ends.ret ?_)
      obtain ⟨rfl, rfl⟩ := Prod.mk.inj (Option.some.inj hf)
      exact Prog.Ends.ret (.of_same rfl)

theorem ends_consume (h_own : q.producerQuotas.own p = []) (service : ProducerQuotaService)
    (sourceService : String) :
    Prog.Ends p (fun _ q' => QuotaSpent sourceService q q') (service.consume sourceService) q := by
  refine Prog.Ends.bind_raising (Prog.Ends.act fun i r q₁ hf => Prog.Ends.ret ?_)
  -- the clock is read, which leaves the quotas alone
  have h_q₁ : q₁.producerQuotas = q.producerQuotas := by
    cases i with
    | time value =>
      obtain ⟨-, rfl⟩ := Prod.mk.inj (Option.some.inj hf)
      rfl
    | _ => exact absurd hf (by simp)
  have h_same : q₁.producerQuotas.committed = q.producerQuotas.committed := by rw [h_q₁]
  cases r with
  | error e => exact .of_same h_same
  | ok now =>
    refine Prog.Ends.bind_raising ?_
    cases service.windowStart now with
    | error e => exact Prog.Ends.ret (.of_same h_same)
    | ok windowStart =>
      refine Prog.Ends.ret (Prog.Ends.bind_raising ?_)
      -- one counter is incremented: the window's of this service
      refine (ends_increment (h_q₁ ▸ h_own) windowStart).mono fun r q₂ h_q₂ => ?_
      have h_spent : QuotaSpent sourceService q q₂ := by
        obtain ⟨key, h_key, h_others⟩ := h_q₂
        exact ⟨key, h_key, fun key' h_ne => (h_others key' h_ne).trans (congrFun h_same key')⟩
      cases r with
      | error e => exact h_spent
      | ok count => exact Prog.Ends.ret h_spent

end Quotas

/-! ### The endpoints -/

/-- The process that serves a call has no transaction open. -/
structure Server.Idle (p : Pid) (s : Server) : Prop where
  world : s.world.Idle p
  quotas : s.quotas.producerQuotas.own p = []

/-- A principal that may act as the user. -/
structure AuthenticatedPrincipal.IsUser (principal : AuthenticatedPrincipal) (userId : UUID) :
    Prop where
  type : principal.tokenType = "user"
  scope : "notifications:read" ∈ principal.scopes
  subject : UUID.parse principal.subject = some userId

/-- A principal that may retry the deliveries of a notification. -/
structure AuthenticatedPrincipal.MayRetry (principal : AuthenticatedPrincipal)
    (notifications : List Notification) (notificationId : UUID) : Prop where
  type : principal.tokenType = "service"
  permitted : "notifications:retry:any" ∈ principal.scopes ∨
    ("notifications:write" ∈ principal.scopes ∧
      ∃ n ∈ notifications, n.id = notificationId ∧ n.sourceService = principal.subject)

section Endpoints

variable {p : Pid} {s : Server} {principal : AuthenticatedPrincipal}

theorem requireType_ok {tokenType : String} (h : principal.requireType tokenType = .ok ()) :
    principal.tokenType = tokenType := by
  unfold AuthenticatedPrincipal.requireType at h
  split at h
  next h_type => exact h_type
  next => exact absurd h (by simp)

theorem requireScope_ok {scope : String} (h : principal.requireScope scope = .ok ()) :
    scope ∈ principal.scopes := by
  unfold AuthenticatedPrincipal.requireScope at h
  split at h
  next h_scope => exact h_scope
  next => exact absurd h (by simp)

theorem userIdFromPrincipal_ok {userId : UUID}
    (h : UserRoutes.userIdFromPrincipal principal = .ok userId) :
    UUID.parse principal.subject = some userId := by
  unfold UserRoutes.userIdFromPrincipal at h
  split at h
  next h_parse => exact Except.ok.inj h ▸ h_parse
  next => exact absurd h (by simp)

/-- The checks of the endpoints of users. -/
theorem ends_checkUser {β : Type} {Q : Except EndpointError β → Server → Prop}
    {g : UUID → ApiProgram β} (h : ∀ userId, principal.IsUser userId → Prog.Ends p Q (g userId) s)
    (h_refused : ∀ e, Q (.error (.http e)) s) :
    Prog.Ends p Q (do
      check (principal.requireType "user")
      check (principal.requireScope "notifications:read")
      let userId ← check (UserRoutes.userIdFromPrincipal principal)
      g userId : ApiProgram β) s := by
  refine ends_check (fun _ h_type => ?_) h_refused
  refine ends_check (fun _ h_scope => ?_) h_refused
  refine ends_check (fun userId h_subject => ?_) h_refused
  exact h userId ⟨requireType_ok h_type, requireScope_ok h_scope, userIdFromPrincipal_ok h_subject⟩

/-- An endpoint whose service is confined is confined, and leaves the quotas alone. -/
theorem ends_callService_confined {α β : Type} {P : World → Prop}
    {translate : PyError → EndpointError} {service : Program α} {response : α → β}
    (h : Prog.Ends p (Confined s.world P) service s.world) :
    Prog.Ends p (fun r s' => s'.quotas = s.quotas ∧ Confined s.world P r s'.world) (do
      let result ← callService Server.worldPart translate service
      return response result : ApiProgram β) s := by
  refine ends_callService (h.mono fun r w hr => ?_)
  cases r with
  | ok result => exact Prog.Ends.ret ⟨rfl, hr⟩
  | error e => exact ⟨rfl, hr⟩

theorem createNotification_confined (h_idle : s.Idle p) (quotaService : ProducerQuotaService)
    (service : NotificationCreationService) (sha256 : String → String)
    (request : CreateNotificationRequest) :
    Prog.Ends p (fun r s' => QuotaSpent principal.subject s.quotas s'.quotas ∧
        Confined s.world (NotificationAdded principal.subject s.world) r s'.world)
      (NotificationRoutes.createNotification quotaService service sha256 principal request) s := by
  -- a check that fails comes before anything is written
  have h_refused : ∀ e : HTTPException, QuotaSpent principal.subject s.quotas s.quotas ∧
      Confined s.world (NotificationAdded principal.subject s.world)
        (.error (.http e) : Except EndpointError (EndpointResponse CreateNotificationResponse))
        s.world := fun _ => ⟨.of_same rfl, .refl _⟩
  refine ends_check (fun _ _ => ends_check (fun _ _ => ?_) h_refused) h_refused
  refine ends_callService ((ends_consume h_idle.quotas quotaService principal.subject).mono
    fun r q h_spent => ?_)
  cases r with
  | error e => exact ⟨h_spent, .refl _⟩
  | ok _ =>
    refine ends_answer (fun input _ => ?_) fun e _ => ⟨h_spent, .refl _⟩
    -- the quota is spent; the transaction of the notification is another one
    have h_created := ends_createNotification h_idle.world service sha256 principal.subject input
      request.idempotencyKey
    refine (ends_callService_confined (s := Server.quotaPart.put q s) h_created).mono
      fun r s' hr => ?_
    exact ⟨hr.1 ▸ h_spent, hr.2⟩

theorem retryNotification_confined (h_idle : s.Idle p)
    (h_keys : (s.world.deliveries.committed.map Delivery.id).Nodup) (notificationId : UUID) :
    Prog.Ends p (fun r s' => s'.quotas = s.quotas ∧ Confined s.world (fun w' =>
        principal.MayRetry s.world.notifications.committed notificationId ∧
        Retried (fun d => d.notificationId = notificationId)
          ⟨.service, principal.subject, none⟩ notificationId s.world w') r s'.world)
      (NotificationRoutes.retryNotification principal notificationId) s := by
  refine ends_check (fun _ h_type => ?_) fun _ => ⟨rfl, .refl _⟩
  refine ends_check (fun _ h_scope => ?_) fun _ => ⟨rfl, .refl _⟩
  refine ends_callService_confined ((ends_retryAll h_idle.world h_keys _ notificationId _).mono
    fun r w' hr => ?_)
  cases r with
  | error e => exact hr
  | ok result =>
    obtain ⟨⟨n, hn, h_id, h_permitted⟩, h_retried⟩ := hr
    refine ⟨⟨requireType_ok h_type, ?_⟩, h_retried⟩
    by_cases h_any : "notifications:retry:any" ∈ principal.scopes
    · -- the scope for all notifications
      exact .inl h_any
    · -- the scope for the own ones: the service compares the notification's source service
      have h_write : "notifications:write" ∈ principal.scopes := by
        by_contra h_write
        unfold NotificationRoutes.requireRetryScope at h_scope
        rw [if_pos ⟨h_write, h_any⟩] at h_scope
        exact absurd h_scope (by simp)
      refine .inr ⟨h_write, n, hn, h_id, ?_⟩
      by_contra h_owner
      rw [if_pos ⟨by simpa using h_any, h_owner⟩] at h_permitted
      exact absurd h_permitted (by simp)

theorem retryNotificationAction_confined (h_idle : s.Idle p)
    (h_keys : (s.world.deliveries.committed.map Delivery.id).Nodup) (webNotificationId : UUID) :
    Prog.Ends p (fun r s' => s'.quotas = s.quotas ∧ Confined s.world (fun w' =>
        ∃ userId, principal.IsUser userId ∧ ∃ web ∈ s.world.deliveries.committed,
          web.id = webNotificationId ∧ web.userId = userId ∧
          Retried (fun d => d.userId = userId ∧ d.channel ≠ Channel.web.value ∧
              d.notificationRecipientId = web.notificationRecipientId ∧
              d.notificationId = web.notificationId)
            ⟨.user, userId.str, some webNotificationId⟩ web.notificationId s.world w') r s'.world)
      (UserRoutes.retryNotificationAction principal webNotificationId) s := by
  refine ends_checkUser (fun userId h_user => ?_) fun _ => ⟨rfl, .refl _⟩
  -- the service looks for the delivery among those of the user
  refine ends_callService_confined
    ((ends_retryUserNotification h_idle.world h_keys webNotificationId userId).mono
      fun r w' hr => ?_)
  cases r with
  | error e => exact hr
  | ok result => exact ⟨userId, h_user, hr⟩

theorem markNotificationRead_confined (h_idle : s.Idle p)
    (h_keys : (s.world.deliveries.committed.map Delivery.id).Nodup) (webNotificationId : UUID) :
    Prog.Ends p (fun r s' => s'.quotas = s.quotas ∧ Confined s.world (fun w' =>
        ∃ userId, principal.IsUser userId ∧ MarkedRead userId webNotificationId s.world w')
        r s'.world)
      (UserRoutes.markNotificationRead principal webNotificationId) s := by
  refine ends_checkUser (fun userId h_user => ?_) fun _ => ⟨rfl, .refl _⟩
  refine ends_callService_confined ((ends_markRead h_idle.world h_keys userId
    webNotificationId).mono fun r w' hr => ?_)
  cases r with
  | error e => exact hr
  | ok result => exact ⟨userId, h_user, hr⟩

/-- **A call changes no rows but its own.** Whoever calls one of the endpoints that write, in
whatever state of the tables: a creation adds a notification of the calling service with its
event, and spends its quota; a retry adds its audit row and its replay event and queues deliveries
that had failed, those of the named notification for a service that may retry it, and those of
the user to the same recipient on other channels for a user; a read mark sets two columns of a
delivered row of the user. A call that ends with an error, whatever its status code, leaves the
tables as they are, the quota excepted. -/
theorem writes_confined (h_idle : s.Idle p)
    (h_keys : (s.world.deliveries.committed.map Delivery.id).Nodup)
    (principal : AuthenticatedPrincipal) :
    (∀ quotaService service sha256 request, Prog.Ends p (fun r s' =>
        QuotaSpent principal.subject s.quotas s'.quotas ∧
        Confined s.world (NotificationAdded principal.subject s.world) r s'.world)
      (NotificationRoutes.createNotification quotaService service sha256 principal request) s) ∧
    (∀ notificationId, Prog.Ends p (fun r s' => s'.quotas = s.quotas ∧
        Confined s.world (fun w' =>
          principal.MayRetry s.world.notifications.committed notificationId ∧
          Retried (fun d => d.notificationId = notificationId)
            ⟨.service, principal.subject, none⟩ notificationId s.world w') r s'.world)
      (NotificationRoutes.retryNotification principal notificationId) s) ∧
    (∀ webNotificationId, Prog.Ends p (fun r s' => s'.quotas = s.quotas ∧
        Confined s.world (fun w' =>
          ∃ userId, principal.IsUser userId ∧ ∃ web ∈ s.world.deliveries.committed,
            web.id = webNotificationId ∧ web.userId = userId ∧
            Retried (fun d => d.userId = userId ∧ d.channel ≠ Channel.web.value ∧
                d.notificationRecipientId = web.notificationRecipientId ∧
                d.notificationId = web.notificationId)
              ⟨.user, userId.str, some webNotificationId⟩ web.notificationId s.world w')
          r s'.world)
      (UserRoutes.retryNotificationAction principal webNotificationId) s) ∧
    ∀ webNotificationId, Prog.Ends p (fun r s' => s'.quotas = s.quotas ∧
        Confined s.world (fun w' =>
          ∃ userId, principal.IsUser userId ∧ MarkedRead userId webNotificationId s.world w')
          r s'.world)
      (UserRoutes.markNotificationRead principal webNotificationId) s :=
  ⟨createNotification_confined h_idle, retryNotification_confined h_idle h_keys,
    retryNotificationAction_confined h_idle h_keys, markNotificationRead_confined h_idle h_keys⟩

end Endpoints

/-- The worker of `readingSchedule` delivers on one channel and fails on the other. -/
def failingSchedule : Schedule := readingSchedule.take 22 ++ [
  .run 2 .go, .run 2 .go, .run 2 (.adapter (.error "Timeout")), .run 2 (.fresh 34)]

/-- The principal of the user. -/
def firstPrincipal : AuthenticatedPrincipal := ⟨UUID.str 1, "user", ["notifications:read"]⟩

/-- The user asks for what has not been delivered. -/
theorem writes_confined_retry :
    ∃ c r s', readingDeployment.Run 0 (.ofUsers [1] (by decide)) failingSchedule c ∧
      Prog.exec (UserRoutes.retryNotificationAction firstPrincipal 22) 9
        [.time (.ofInstant 20), .go, .go, .go, .retry [] 41 42 43] ⟨c.world, .initial⟩ =
          some (.ok r, s') ∧
      r = ⟨202, ⟨some 41, .queued, 1⟩⟩ ∧
      s'.world.deliveries.committed.map (fun row => (row.id, row.status, row.replayId)) =
        [(22, .delivered, none), (23, .replayRequested, some 41)] ∧
      s'.quotas = .initial ∧ s'.world.attempts = c.world.attempts := by
  obtain ⟨c, h_run, h_c⟩ := readingDeployment.exists_run 0 (.ofUsers [1] (by decide))
    failingSchedule (fun c => decide (
      (c.world.notifications.own 9 = [] ∧ c.world.recipients.own 9 = [] ∧
        c.world.deliveries.own 9 = []) ∧ (c.world.deliveries.committed.map Delivery.id).Nodup ∧
      (Prog.exec (UserRoutes.retryNotificationAction firstPrincipal 22) 9
        [.time (.ofInstant 20), .go, .go, .go, .retry [] 41 42 43] ⟨c.world, .initial⟩).map
        (fun rs => decide (rs.1.toOption = some ⟨202, ⟨some 41, .queued, 1⟩⟩ ∧
          rs.2.world.deliveries.committed.map (fun row => (row.id, row.status, row.replayId)) =
            [(22, .delivered, none), (23, .replayRequested, some 41)])) = some true))
    (by decide +kernel)
  obtain ⟨⟨h_notifications, h_recipients, h_deliveries⟩, h_keys, h_exec⟩ := of_decide_eq_true h_c
  obtain ⟨⟨r, s'⟩, h_exec, h_result⟩ := Option.map_eq_some_iff.mp h_exec
  obtain ⟨h_r, h_rows⟩ := of_decide_eq_true h_result
  -- the call returns, from a state at rest
  cases r with
  | error e => exact absurd h_r (by simp [Except.toOption])
  | ok response =>
    obtain rfl := Option.some.inj h_r
    have h_idle : (⟨c.world, .initial⟩ : Server).Idle 9 :=
      ⟨⟨h_notifications, h_recipients, h_deliveries⟩, rfl⟩
    obtain ⟨h_quotas, userId, -, web, -, -, -, h_retried⟩ :=
      (writes_confined h_idle h_keys firstPrincipal).2.2.1 22 _ _ _ h_exec
    exact ⟨c, _, s', h_run, h_exec, rfl, h_rows, h_quotas, h_retried.attempts⟩

end NotificationBroker
