import NotificationBroker.System.Effects

/-!
# What the constraints of the database guarantee

`Sound w` collects what every state of the system satisfies because of primary
keys, unique indexes and foreign keys: identifiers are generated once, every
table's identifiers are different, no two rows conflict on a unique index, and a
delivery names the notification and the user of its recipient (`Grounded`).

Every effect keeps it (`Effect.sound`, `Finish.sound`), and so do the moves of
the environment and crashes.
-/

namespace NotificationBroker

open Interleave Python
open ReadCommitted (Table Verdict)

/-! ### Generated identifiers -/

/-- `ids` are different identifiers that have been generated. -/
structure Issued (issued : List (UUID × Pid)) (ids : List UUID) : Prop where
  nodup : ids.Nodup
  generated : ∀ id ∈ ids, id ∈ issued.map Prod.fst

namespace Issued

variable {issued : List (UUID × Pid)} {ids ids' : List UUID}

theorem mono (h : Issued issued ids) (new : List (UUID × Pid)) : Issued (issued ++ new) ids where
  nodup := h.nodup
  generated id h_mem := by
    rw [List.map_append]
    exact List.mem_append_left _ (h.generated id h_mem)

theorem perm (h : Issued issued ids) (h_perm : ids'.Perm ids) : Issued issued ids' where
  nodup := h_perm.nodup_iff.mpr h.nodup
  generated id h_mem := h.generated id (h_perm.mem_iff.mp h_mem)

theorem sublist (h : Issued issued ids) (h_sub : ids'.Sublist ids) : Issued issued ids' where
  nodup := h.nodup.sublist h_sub
  generated id h_mem := h.generated id (h_sub.subset h_mem)

/-- A fresh identifier can be added once it is generated. -/
theorem cons_of_mem (h : Issued issued ids) {new : List (UUID × Pid)} {id : UUID}
    (h_fresh : id ∉ issued.map Prod.fst) (h_new : id ∈ new.map Prod.fst) :
    Issued (issued ++ new) (id :: ids) where
  nodup := List.nodup_cons.mpr ⟨fun h_mem => h_fresh (h.generated id h_mem), h.nodup⟩
  generated other h_mem := by
    rcases List.mem_cons.mp h_mem with rfl | h_mem
    · rw [List.map_append]
      exact List.mem_append_right _ h_new
    · exact (h.mono new).generated other h_mem

end Issued

theorem allFresh_singleton {w : World} {id : UUID} (h : w.Fresh id) : w.AllFresh [id] :=
  ⟨List.nodup_singleton id, fun other h_mem => by rwa [List.mem_singleton.mp h_mem]⟩

/-! ### Foreign keys -/

/-- The delivery's foreign key, and its copies of the recipient's columns. -/
structure Delivery.BelongsTo (d : Delivery) (r : Recipient) : Prop where
  recipient : r.id = d.notificationRecipientId
  notification : r.notificationId = d.notificationId
  user : r.userId = d.userId

/-- Every delivery a transaction sees belongs to a recipient it sees. -/
structure Grounded (recipients : Table Pid Recipient) (deliveries : Table Pid Delivery) :
    Prop where
  committed : ∀ d ∈ deliveries.committed, ∃ r ∈ recipients.committed, d.BelongsTo r
  own : ∀ p, ∀ d ∈ deliveries.own p, ∃ r ∈ recipients.visible p, d.BelongsTo r

/-- The columns of a delivery that no writer changes. -/
def Delivery.key (d : Delivery) : UUID × UUID × UUID × UUID × String :=
  (d.id, d.notificationRecipientId, d.notificationId, d.userId, d.channel)

theorem Delivery.BelongsTo.of_key {d d' : Delivery} {r : Recipient} (h : d.BelongsTo r)
    (h_key : d'.key = d.key) : d'.BelongsTo r := by
  simp only [Delivery.key, Prod.mk.injEq] at h_key
  obtain ⟨-, h_recipient, h_notification, h_user, -⟩ := h_key
  exact ⟨h.recipient.trans h_recipient.symm, h.notification.trans h_notification.symm,
    h.user.trans h_user.symm⟩

namespace Grounded

variable {recipients : Table Pid Recipient} {deliveries : Table Pid Delivery} {p : Pid}

/-- Every delivery a transaction sees belongs to a recipient it sees. -/
theorem visible (h : Grounded recipients deliveries) {d : Delivery}
    (hd : d ∈ deliveries.visible p) : ∃ r ∈ recipients.visible p, d.BelongsTo r := by
  rcases Table.mem_visible.mp hd with h_com | h_own
  · -- what has been committed is seen by all
    obtain ⟨r, hr, h_belongs⟩ := h.committed d h_com
    exact ⟨r, Table.mem_visible.mpr (.inl hr), h_belongs⟩
  · exact h.own p d h_own

/-- Every delivery belongs to a recipient. -/
theorem rows (h : Grounded recipients deliveries) {d : Delivery} (hd : d ∈ deliveries.rows) :
    ∃ r ∈ recipients.rows, d.BelongsTo r := by
  rcases Table.mem_rows.mp hd with h_com | ⟨p, h_own⟩
  · obtain ⟨r, hr, h_belongs⟩ := h.committed d h_com
    exact ⟨r, Table.mem_rows_of_committed hr, h_belongs⟩
  · obtain ⟨r, hr, h_belongs⟩ := h.own p d h_own
    exact ⟨r, Table.mem_rows_of_visible hr, h_belongs⟩

theorem insertRecipient (h : Grounded recipients deliveries) (row : Recipient) :
    Grounded (recipients.insert p row) deliveries where
  committed := h.committed
  own q d hd := by
    obtain ⟨r, hr, h_belongs⟩ := h.own q d hd
    refine ⟨r, Table.mem_visible.mpr ((Table.mem_visible.mp hr).imp_right fun h_own => ?_),
      h_belongs⟩
    -- the others do not see the new row, and its own transaction sees it as one more
    by_cases hqp : q = p
    · subst hqp
      rw [Table.own_insert_self]
      exact List.mem_append_left _ h_own
    · rwa [Table.own_insert_of_ne hqp]

theorem insertDelivery (h : Grounded recipients deliveries) {row : Delivery}
    (h_row : ∃ r ∈ recipients.visible p, row.BelongsTo r) :
    Grounded recipients (deliveries.insert p row) where
  committed := h.committed
  own q d hd := by
    -- only the transaction itself has one more row
    by_cases hqp : q = p
    · subst hqp
      rw [Table.own_insert_self] at hd
      rcases List.mem_append.mp hd with hd | hd
      · exact h.own q d hd
      · rw [List.mem_singleton.mp hd]
        exact h_row
    · rw [Table.own_insert_of_ne hqp] at hd
      exact h.own q d hd

theorem modify (h : Grounded recipients deliveries) {f : Delivery → Delivery}
    (hf : ∀ d, (f d).key = d.key) : Grounded recipients (deliveries.modify f) where
  committed d hd := by
    obtain ⟨d₀, hd₀, rfl⟩ := List.mem_map.mp hd
    obtain ⟨r, hr, h_belongs⟩ := h.committed d₀ hd₀
    exact ⟨r, hr, h_belongs.of_key (hf d₀)⟩
  own := h.own

theorem commit (h : Grounded recipients deliveries) :
    Grounded (recipients.commit p) (deliveries.commit p) where
  committed d hd := by
    rw [Table.committed_commit] at hd
    rw [Table.committed_commit]
    exact h.visible (p := p) hd
  own q d hd := by
    -- nothing is left of the transaction; the others see more than before
    by_cases hqp : q = p
    · subst hqp
      rw [Table.own_commit_self] at hd
      exact absurd hd List.not_mem_nil
    · rw [Table.own_commit_of_ne hqp] at hd
      obtain ⟨r, hr, h_belongs⟩ := h.own q d hd
      refine ⟨r, ?_, h_belongs⟩
      rw [Table.visible, Table.own_commit_of_ne hqp, Table.committed_commit]
      rcases Table.mem_visible.mp hr with h_com | h_own
      · exact List.mem_append_left _ (List.mem_append_left _ h_com)
      · exact List.mem_append_right _ h_own

theorem abort (h : Grounded recipients deliveries) :
    Grounded (recipients.abort p) (deliveries.abort p) where
  committed := h.committed
  own q d hd := by
    -- nothing is left of the transaction; the others see what they saw
    by_cases hqp : q = p
    · subst hqp
      rw [Table.own_abort_self] at hd
      exact absurd hd List.not_mem_nil
    · rw [Table.own_abort_of_ne hqp] at hd
      obtain ⟨r, hr, h_belongs⟩ := h.own q d hd
      refine ⟨r, ?_, h_belongs⟩
      rw [Table.visible, Table.own_abort_of_ne hqp]
      exact hr

end Grounded

/-! ### The invariant -/

structure Sound (w : World) : Prop where
  issued_nodup : (w.issued.map Prod.fst).Nodup
  notifications : Issued w.issued (w.notifications.rows.map Notification.id)
  recipients : Issued w.issued (w.recipients.rows.map Recipient.id)
  deliveries : Issued w.issued (w.deliveries.rows.map Delivery.id)
  outbox : Issued w.issued (w.outbox.map OutboxEvent.id)
  invocations : Issued w.issued (w.invocations.map ActionInvocation.id)
  notifications_unique : w.notifications.Unique Notification.conflicts
  recipients_unique : w.recipients.Unique Recipient.conflicts
  deliveries_unique : w.deliveries.Unique Delivery.conflicts
  grounded : Grounded w.recipients w.deliveries

namespace Sound

variable {w w' : World} {p q : Pid}

theorem initial (clock : Instant) (directory : Directory) :
    Sound (World.initial clock directory) where
  issued_nodup := List.nodup_nil
  notifications := ⟨List.nodup_nil, fun _ h => absurd h List.not_mem_nil⟩
  recipients := ⟨List.nodup_nil, fun _ h => absurd h List.not_mem_nil⟩
  deliveries := ⟨List.nodup_nil, fun _ h => absurd h List.not_mem_nil⟩
  outbox := ⟨List.nodup_nil, fun _ h => absurd h List.not_mem_nil⟩
  invocations := ⟨List.nodup_nil, fun _ h => absurd h List.not_mem_nil⟩
  notifications_unique := Table.unique_empty _
  recipients_unique := Table.unique_empty _
  deliveries_unique := Table.unique_empty _
  grounded := ⟨fun _ h => absurd h List.not_mem_nil, fun _ _ h => absurd h List.not_mem_nil⟩

/-- An identifier has one generator. -/
theorem owner_unique (h : Sound w) {id : UUID} (hp : (id, p) ∈ w.issued)
    (hq : (id, q) ∈ w.issued) : p = q :=
  congrArg Prod.snd (List.inj_on_of_nodup_map h.issued_nodup hp hq rfl)

theorem recipient_eq (h : Sound w) {r r' : Recipient} (hr : r ∈ w.recipients.rows)
    (hr' : r' ∈ w.recipients.rows) (h_id : r.id = r'.id) : r = r' :=
  List.inj_on_of_nodup_map h.recipients.nodup hr hr' h_id

theorem delivery_eq (h : Sound w) {r r' : Delivery} (hr : r ∈ w.deliveries.rows)
    (hr' : r' ∈ w.deliveries.rows) (h_id : r.id = r'.id) : r = r' :=
  List.inj_on_of_nodup_map h.deliveries.nodup hr hr' h_id

/-- Among the committed rows, an identifier has one row. -/
theorem committed_delivery_eq (h : Sound w) {r r' : Delivery} (hr : r ∈ w.deliveries.committed)
    (hr' : r' ∈ w.deliveries.committed) (h_id : r.id = r'.id) : r = r' :=
  h.delivery_eq (Table.mem_rows_of_committed hr) (Table.mem_rows_of_committed hr') h_id

theorem committed_notification_eq (h : Sound w) {n n' : Notification}
    (hn : n ∈ w.notifications.committed) (hn' : n' ∈ w.notifications.committed)
    (h_id : n.id = n'.id) : n = n' :=
  List.inj_on_of_nodup_map h.notifications.nodup (Table.mem_rows_of_committed hn)
    (Table.mem_rows_of_committed hn') h_id

theorem event_eq (h : Sound w) {e e' : OutboxEvent} (he : e ∈ w.outbox) (he' : e' ∈ w.outbox)
    (h_id : e.id = e'.id) : e = e' :=
  List.inj_on_of_nodup_map h.outbox.nodup he he' h_id

/-- The row a claim is for was due: no other row has its identifier. -/
theorem due_of_claim (h : Sound w) {claims : List ClaimedDelivery} {now : Instant}
    {channels : Option (List Channel)}
    (h_due : ∀ c ∈ claims, ∃ r ∈ w.deliveries.committed, r.id = c.deliveryId ∧ r.due now channels)
    {c : ClaimedDelivery} (hc : c ∈ claims) {r : Delivery} (hr : r ∈ w.deliveries.committed)
    (h_id : c.deliveryId = r.id) : r.due now channels := by
  obtain ⟨r', hr', h_id', h_r'⟩ := h_due c hc
  rwa [h.committed_delivery_eq hr hr' (h_id.symm.trans h_id'.symm)]

/-- The event a claim is for was publishable: no other event has its identifier. -/
theorem publishable_of_claim (h : Sound w) {claims : List ClaimedOutboxEvent} {now : Instant}
    (h_due : ∀ c ∈ claims, ∃ e ∈ w.outbox, e.publishable now ∧ c = .ofRow e c.claimToken)
    {c : ClaimedOutboxEvent} (hc : c ∈ claims) {e : OutboxEvent} (he : e ∈ w.outbox)
    (h_id : c.eventId = e.id) : e.publishable now := by
  obtain ⟨e', he', h_publishable, h_of⟩ := h_due c hc
  have h_id' : c.eventId = e'.id := congrArg ClaimedOutboxEvent.eventId h_of
  rwa [h.event_eq he he' (h_id.symm.trans h_id')]

/-- A transaction sees one recipient of a notification for each user. -/
theorem users_nodup (h : Sound w) {rows : List Recipient} (h_rows : rows.Sublist w.recipients.rows)
    (notificationId : UUID) :
    ((rows.filter fun r => r.notificationId = notificationId).map Recipient.userId).Nodup := by
  -- two rows for one user would conflict
  have h_unique := (h.recipients_unique.sublist h_rows).sublist
    (List.filter_sublist (p := fun r => decide (r.notificationId = notificationId)))
  refine List.pairwise_map.mpr (h_unique.imp_of_mem fun {a b} ha hb hab h_user => ?_)
  have ha := of_decide_eq_true (List.mem_filter.mp ha).2
  have hb := of_decide_eq_true (List.mem_filter.mp hb).2
  rw [Recipient.conflicts_iff.mpr ⟨ha.trans hb.symm, h_user⟩] at hab
  exact absurd hab (by simp)

/-- Two deliveries of one notification to one user belong to one recipient. -/
theorem recipient_of_deliveries (h : Sound w) {a b : Delivery} (ha : a ∈ w.deliveries.rows)
    (hb : b ∈ w.deliveries.rows) (h_notification : a.notificationId = b.notificationId)
    (h_user : a.userId = b.userId) : a.notificationRecipientId = b.notificationRecipientId := by
  obtain ⟨r, hr, h_r⟩ := h.grounded.rows ha
  obtain ⟨r', hr', h_r'⟩ := h.grounded.rows hb
  -- the two recipients would conflict
  have h_same : r = r' := h.recipients_unique.eq_of_conflict Recipient.conflicts_symm hr hr' <|
    Recipient.conflicts_iff.mpr
      ⟨h_r.notification.trans (h_notification.trans h_r'.notification.symm),
        h_r.user.trans (h_user.trans h_r'.user.symm)⟩
  rw [← h_r.recipient, ← h_r'.recipient, h_same]

/-- A transaction sees one delivery of a notification for each user and channel. -/
theorem pairs_nodup (h : Sound w) {rows : List Delivery} (h_rows : rows.Sublist w.deliveries.rows)
    (notificationId : UUID) :
    ((rows.filter fun r => r.notificationId = notificationId).map fun r =>
      (r.userId, r.channel)).Nodup := by
  have h_unique := (h.deliveries_unique.sublist h_rows).sublist
    (List.filter_sublist (p := fun r => decide (r.notificationId = notificationId)))
  refine List.pairwise_map.mpr (h_unique.imp_of_mem fun {a b} ha hb hab h_pair => ?_)
  obtain ⟨h_user, h_channel⟩ := Prod.mk.inj h_pair
  have ha := List.mem_filter.mp ha
  have hb := List.mem_filter.mp hb
  -- two deliveries to one user are of one recipient, and would conflict
  have h_recipient := h.recipient_of_deliveries (h_rows.subset ha.1) (h_rows.subset hb.1)
    ((of_decide_eq_true ha.2).trans (of_decide_eq_true hb.2).symm) h_user
  rw [Delivery.conflicts_iff.mpr ⟨h_recipient, h_channel⟩] at hab
  exact absurd hab (by simp)

/-- The tables are untouched. -/
theorem congr (h : Sound w) (h_issued : w'.issued = w.issued)
    (h_notifications : w'.notifications = w.notifications)
    (h_recipients : w'.recipients = w.recipients) (h_deliveries : w'.deliveries = w.deliveries)
    (h_outbox : w'.outbox = w.outbox) (h_invocations : w'.invocations = w.invocations) :
    Sound w' := by
  constructor
  · rw [h_issued]; exact h.issued_nodup
  · rw [h_issued, h_notifications]; exact h.notifications
  · rw [h_issued, h_recipients]; exact h.recipients
  · rw [h_issued, h_deliveries]; exact h.deliveries
  · rw [h_issued, h_outbox]; exact h.outbox
  · rw [h_issued, h_invocations]; exact h.invocations
  · rw [h_notifications]; exact h.notifications_unique
  · rw [h_recipients]; exact h.recipients_unique
  · rw [h_deliveries]; exact h.deliveries_unique
  · rw [h_recipients, h_deliveries]; exact h.grounded

theorem issue (h : Sound w) {ids : List UUID} (h_fresh : w.AllFresh ids) :
    Sound (w.issue p ids) :=
  { h with
    issued_nodup := by
      simp only [World.issue, List.map_append, List.map_map, Function.comp_def, List.map_id']
      -- fresh identifiers are none of the old ones
      refine List.nodup_append.mpr ⟨h.issued_nodup, h_fresh.1, fun a ha b hb h_eq => ?_⟩
      exact h_fresh.2 b hb (h_eq ▸ ha)
    notifications := h.notifications.mono _
    recipients := h.recipients.mono _
    deliveries := h.deliveries.mono _
    outbox := h.outbox.mono _
    invocations := h.invocations.mono _ }

theorem issue_one (h : Sound w) {id : UUID} (h_fresh : w.Fresh id) : Sound (w.issue p [id]) :=
  h.issue (allFresh_singleton h_fresh)

theorem modifyNotifications (h : Sound w) {f : Notification → Notification}
    (hf : ∀ n, (f n).id = n.id ∧ ∀ m, (f n).conflicts m = n.conflicts m) :
    Sound { w with notifications := w.notifications.modify f } :=
  { h with
    notifications := by
      have h_map : ((w.notifications.modify f).rows).map Notification.id =
          w.notifications.rows.map Notification.id := by
        simp [Table.rows, Table.modify, List.map_append, Function.comp_def, (hf _).1]
      rw [h_map]
      exact h.notifications
    notifications_unique := h.notifications_unique.modify (fun a b => (hf a).2 b) fun a b => by
      rw [Notification.conflicts_symm, (hf b).2, Notification.conflicts_symm] }

theorem modifyDeliveries (h : Sound w) {f : Delivery → Delivery} (hf : ∀ d, (f d).key = d.key) :
    Sound { w with deliveries := w.deliveries.modify f } := by
  -- the key has all columns that the constraints look at
  have h_id : ∀ d, (f d).id = d.id := fun d => congrArg Prod.fst (hf d)
  have h_conflicts : ∀ a b, (f a).conflicts b = a.conflicts b := fun a b => by
    have h_key := hf a
    simp only [Delivery.key, Prod.mk.injEq] at h_key
    simp only [Delivery.conflicts, h_key]
  exact { h with
    deliveries := by
      have h_map : ((w.deliveries.modify f).rows).map Delivery.id =
          w.deliveries.rows.map Delivery.id := by
        simp [Table.rows, Table.modify, List.map_append, Function.comp_def, h_id]
      rw [h_map]
      exact h.deliveries
    deliveries_unique := h.deliveries_unique.modify h_conflicts fun a b => by
      rw [Delivery.conflicts_symm, h_conflicts, Delivery.conflicts_symm]
    grounded := h.grounded.modify hf }

theorem mapOutbox (h : Sound w) {f : OutboxEvent → OutboxEvent} (hf : ∀ e, (f e).id = e.id) :
    Sound { w with outbox := w.outbox.map f } :=
  { h with
    outbox := by
      rw [List.map_map]
      simp only [Function.comp_def, hf]
      exact h.outbox }

theorem appendOutbox (h : Sound w) {ids : List UUID} (h_fresh : w.AllFresh ids) {e : OutboxEvent}
    (h_mem : e.id ∈ ids) : Sound { w.issue p ids with outbox := w.outbox ++ [e] } :=
  { h.issue h_fresh with
    outbox := by
      -- the identifier of the event is one of the new ones
      rw [List.map_append, List.map_singleton]
      refine (h.outbox.cons_of_mem (h_fresh.2 _ h_mem) ?_).perm (List.perm_append_singleton _ _)
      simpa [Function.comp_def] using h_mem }

/-- A retry's commit: perhaps an event, and an audit row. -/
theorem appendRetry (h : Sound w) {ids : List UUID} (h_fresh : w.AllFresh ids)
    {new : List OutboxEvent} (h_new : new = [] ∨ ∃ e, new = [e] ∧ e.id ∈ ids)
    {a : ActionInvocation} (h_mem : a.id ∈ ids) :
    Sound { w.issue p ids with
      outbox := w.outbox ++ new
      invocations := w.invocations ++ [a] } := by
  -- first the event, if there is one
  have h_outbox : Sound { w.issue p ids with outbox := w.outbox ++ new } := by
    rcases h_new with rfl | ⟨e, rfl, h_e⟩
    · exact (h.issue (p := p) h_fresh).congr rfl rfl rfl rfl (List.append_nil _) rfl
    · exact h.appendOutbox h_fresh h_e
  -- then the audit row
  exact { h_outbox with
    invocations := by
      rw [List.map_append, List.map_singleton]
      refine (h.invocations.cons_of_mem (h_fresh.2 _ h_mem) ?_).perm
        (List.perm_append_singleton _ _)
      simpa [Function.comp_def] using h_mem }

theorem insertNotification (h : Sound w) {row : Notification} (h_fresh : w.Fresh row.id)
    (h_free : w.notifications.verdict Notification.conflicts p row = .free) :
    Sound { w.issue p [row.id] with notifications := w.notifications.insert p row } :=
  { h.issue_one h_fresh with
    notifications := by
      -- the identifier is new, and the index has found no conflict
      have h_new : row.id ∈ [(row.id, p)].map Prod.fst := List.mem_singleton_self _
      refine (h.notifications.cons_of_mem h_fresh h_new).perm ?_
      exact Table.rows_insert_perm.map _
    notifications_unique := h.notifications_unique.insert Notification.conflicts_symm h_free }

theorem insertRecipient (h : Sound w) {row : Recipient} (h_fresh : w.Fresh row.id)
    (h_free : w.recipients.verdict Recipient.conflicts p row = .free) :
    Sound { w.issue p [row.id] with recipients := w.recipients.insert p row } :=
  { h.issue_one h_fresh with
    recipients := by
      have h_new : row.id ∈ [(row.id, p)].map Prod.fst := List.mem_singleton_self _
      refine (h.recipients.cons_of_mem h_fresh h_new).perm ?_
      exact Table.rows_insert_perm.map _
    recipients_unique := h.recipients_unique.insert Recipient.conflicts_symm h_free
    grounded := h.grounded.insertRecipient row }

theorem insertDelivery (h : Sound w) {row : Delivery} (h_fresh : w.Fresh row.id)
    (h_row : ∃ r ∈ w.recipients.visible p, row.BelongsTo r)
    (h_free : w.deliveries.verdict Delivery.conflicts p row = .free) :
    Sound { w.issue p [row.id] with deliveries := w.deliveries.insert p row } :=
  { h.issue_one h_fresh with
    deliveries := by
      have h_new : row.id ∈ [(row.id, p)].map Prod.fst := List.mem_singleton_self _
      refine (h.deliveries.cons_of_mem h_fresh h_new).perm ?_
      exact Table.rows_insert_perm.map _
    deliveries_unique := h.deliveries_unique.insert Delivery.conflicts_symm h_free
    grounded := h.grounded.insertDelivery h_row }

theorem commitNotifications (h : Sound w) :
    Sound { w with notifications := w.notifications.commit p } :=
  { h with
    notifications := h.notifications.perm (Table.rows_commit_perm.map _)
    notifications_unique := h.notifications_unique.commit Notification.conflicts_symm }

theorem commitFanout (h : Sound w) :
    Sound { w with
      recipients := w.recipients.commit p
      deliveries := w.deliveries.commit p } :=
  { h with
    recipients := h.recipients.perm (Table.rows_commit_perm.map _)
    deliveries := h.deliveries.perm (Table.rows_commit_perm.map _)
    recipients_unique := h.recipients_unique.commit Recipient.conflicts_symm
    deliveries_unique := h.deliveries_unique.commit Delivery.conflicts_symm
    grounded := h.grounded.commit }

theorem rollback (h : Sound w) (p : Pid) : Sound (w.rollback p) :=
  { h with
    notifications := h.notifications.sublist (Table.rows_abort_sublist.map _)
    recipients := h.recipients.sublist (Table.rows_abort_sublist.map _)
    deliveries := h.deliveries.sublist (Table.rows_abort_sublist.map _)
    notifications_unique := h.notifications_unique.abort
    recipients_unique := h.recipients_unique.abort
    deliveries_unique := h.deliveries_unique.abort
    grounded := h.grounded.abort }

theorem crash (h : Sound w) (p : Pid) : Sound (World.crash p w) :=
  (h.rollback p).congr rfl rfl rfl rfl rfl rfl

end Sound

end NotificationBroker
