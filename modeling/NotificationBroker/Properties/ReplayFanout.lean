import NotificationBroker.Db.RunAlone
import NotificationBroker.Properties.FanoutCounts
import NotificationBroker.Properties.FanoutOnce
import NotificationBroker.Properties.FanoutRefused
import NotificationBroker.Properties.NotStranded
import NotificationBroker.Properties.RetryAudit

/-!
# Replay events and the fan-out

The consumer does not look at the type of an event. A replay event names its
notification as a requested event does, so that consuming one runs the fan-out of the
notification again, with the audience as the directory has it by now.

`sameRows_iff_ignored` says exactly when this leaves recipients, deliveries and counters
alone: when the event is recorded as processed, when the fan-out raises before it
inserts anything, or when it finds nothing to add (`NothingToAdd`). The proof follows
the call action by action (`Prog.Ends`).
-/

namespace NotificationBroker

open Interleave Python
open ReadCommitted (Table)
open NotificationFanoutService
open NotificationConsumerWorker

/-! ### The insertions -/

section Insertions

variable {p : Pid} {w : World}

/-- The rows of `add_recipients_ignore_conflicts`. -/
def recipientValues (notificationId : UUID) (createdAt : Instant) (userIds : List UUID) :
    List (UUID → Recipient) :=
  userIds.map fun userId id => ⟨id, notificationId, userId, createdAt⟩

theorem ends_addRecipients {Q : Except PyError Unit → World → Prop} {notificationId : UUID}
    {createdAt : Instant} {userIds : List UUID}
    (h : ∀ t issued, Table.Filled Recipient.conflicts p
      (recipientValues notificationId createdAt userIds) w.recipients t →
      Q (.ok ()) { w with recipients := t, issued := issued }) :
    Prog.Ends p Q (addRecipientsIgnoreConflicts notificationId createdAt userIds) w := by
  induction userIds generalizing w with
  | nil => exact Prog.Ends.ret (h w.recipients w.issued .nil)
  | cons userId userIds ih =>
    refine ends_bind (m := insertRecipient notificationId userId createdAt)
      (ends_perform fun i a w' hf => ?_)
    cases i with
    | fresh id =>
      dsimp only at hf
      split at hf
      -- there is a recipient already: `ON CONFLICT DO NOTHING`
      next h_verdict =>
        obtain ⟨-, rfl⟩ := Prod.mk.inj (Option.some.inj hf)
        exact ih fun t issued h_filled => h t issued (.skip id h_verdict h_filled)
      next => exact absurd hf (by simp)
      -- the row is inserted
      next h_verdict =>
        split at hf
        · obtain ⟨-, rfl⟩ := Prod.mk.inj (Option.some.inj hf)
          refine ih fun t issued h_filled => h t issued (.add id (fun r => ?_) h_filled)
          exact Recipient.conflicts_iff.mpr ⟨rfl, rfl⟩
        · exact absurd hf (by simp)
    | _ => exact absurd hf (by simp)

theorem ends_addDeliveries {Q : Except PyError Unit → World → Prop}
    {values : List (UUID → Delivery)}
    (h : ∀ t issued, Table.Filled Delivery.conflicts p values w.deliveries t →
      Q (.ok ()) { w with deliveries := t, issued := issued }) :
    Prog.Ends p Q (addDeliveriesIgnoreConflicts values) w := by
  induction values generalizing w with
  | nil => exact Prog.Ends.ret (h w.deliveries w.issued .nil)
  | cons value values ih =>
    refine ends_bind (m := insertDelivery value) (ends_perform fun i a w' hf => ?_)
    -- the row is skipped when it conflicts, and added otherwise
    cases i with
    | fresh id =>
      dsimp only at hf
      split at hf
      next h_verdict =>
        obtain ⟨-, rfl⟩ := Prod.mk.inj (Option.some.inj hf)
        exact ih fun t issued h_filled => h t issued (.skip id h_verdict h_filled)
      next => exact absurd hf (by simp)
      next h_verdict =>
        split at hf
        · obtain ⟨-, rfl⟩ := Prod.mk.inj (Option.some.inj hf)
          refine ih fun t issued h_filled => h t issued (.add id (fun r => ?_) h_filled)
          exact Delivery.conflicts_iff.mpr ⟨rfl, rfl⟩
        · exact absurd hf (by simp)
    | _ => exact absurd hf (by simp)

end Insertions

/-! ### What a fan-out finds -/

/-- Every row of a fan-out for `userIds` is there, and the counters are right. -/
structure NothingToAdd (w : World) (n : Notification) (userIds : List UUID) : Prop where
  recipients : ∀ userId ∈ userIds, ∃ r ∈ w.recipientsOf n.id, r.userId = userId
  deliveries : ∀ userId ∈ userIds, ∀ channel ∈ n.channels,
    ∃ r ∈ w.deliveriesOf n.id, r.pair = (userId, channel)
  counts : w.CountsMatch n

/-- A fan-out of `n` raises before it inserts, or finds nothing to add. -/
def FindsNothing (service : NotificationFanoutService) (w : World) (n : Notification) : Prop :=
  ∀ userIds channels, w.directory.audienceOf n = .ok userIds →
    n.channels.mapM parseChannel = .ok channels →
    service.withinLimits userIds channels = .ok () → NothingToAdd w n userIds

/-- A state in which a call of `p` can start: the tables are as the constraints of the
database say, and `p` has no transaction open. -/
structure AtRest (p : Pid) (w : World) : Prop where
  sound : Sound w
  channels : ∀ r ∈ w.deliveries.rows, r.OnChannel
  notifications : w.notifications.own p = []
  recipients : w.recipients.own p = []
  deliveries : w.deliveries.own p = []

section Found

variable {p : Pid} {w : World} {n : Notification} {userIds : List UUID} {channels : List Channel}
  {t : Table Pid Recipient} {t' : Table Pid Delivery} {createdAt : Instant}
  {pairs : List (UUID × Channel)} {values : List (UUID → Delivery)}

/-- Reading the pairs does not raise: every channel is one of the enumeration. -/
theorem exists_pairs {rows : List Delivery} (h : ∀ r ∈ rows, r.OnChannel) (id : UUID) :
    ∃ pairs, listDeliveryPairs rows id = .ok pairs := by
  cases h_read : listDeliveryPairs rows id with
  | ok pairs => exact ⟨pairs, rfl⟩
  | error e =>
    unfold listDeliveryPairs at h_read
    cases h_mapM : (rows.filter fun d => d.notificationId = id).mapM fun d =>
        (parseChannel d.channel).map fun channel => (d.userId, channel) with
    | ok read => rw [h_mapM] at h_read; exact absurd h_read (by simp [Except.map])
    | error e' =>
      obtain ⟨d, hd, h_d⟩ := mapM_error h_mapM
      obtain ⟨channel, h_channel⟩ := h d (List.mem_filter.mp hd).1
      rw [parseChannel_ok.mpr h_channel.symm] at h_d
      exact absurd h_d (by simp [Except.map])

/-- Once its users are inserted, a fan-out sees a recipient for each of them. -/
theorem mem_users_of_filled (h : Table.Filled Recipient.conflicts p
      (recipientValues n.id createdAt (userIds.filter fun userId =>
        (dictGet (listRecipientIdsByUser (w.recipients.visible p) n.id) userId).isNone))
      w.recipients t) {userId : UUID} (h_user : userId ∈ userIds) :
    ∃ r ∈ t.visible p, r.notificationId = n.id ∧ r.userId = userId := by
  cases h_get : dictGet (listRecipientIdsByUser (w.recipients.visible p) n.id) userId with
  | some recipientId =>
    obtain ⟨r, hr, h_id, h_r, -⟩ := mem_listRecipientIdsByUser.mp (mem_of_dictGet h_get)
    refine ⟨r, Table.mem_visible.mpr ?_, h_id, h_r⟩
    exact (Table.mem_visible.mp hr).imp (fun h_com => h.committed ▸ h_com) (h.kept r)
  | none =>
    obtain ⟨r, hr, id, h_conflict⟩ := h.covered (fun id => ⟨id, n.id, userId, createdAt⟩)
      (List.mem_map.mpr ⟨userId, List.mem_filter.mpr ⟨h_user, by rw [h_get]; rfl⟩, rfl⟩)
    obtain ⟨h_id, h_r⟩ := Recipient.conflicts_iff.mp h_conflict
    exact ⟨r, hr, h_id.symm, h_r.symm⟩

/-- A user without a recipient makes the fan-out insert one. -/
theorem recipients_of_own_nil (h_own : t.own p = []) (h : Table.Filled Recipient.conflicts p
      (recipientValues n.id createdAt (userIds.filter fun userId =>
        (dictGet (listRecipientIdsByUser (w.recipients.visible p) n.id) userId).isNone))
      w.recipients t) : ∀ userId ∈ userIds, ∃ r ∈ w.recipientsOf n.id, r.userId = userId := by
  intro userId h_user
  obtain ⟨r, hr, h_id, h_r⟩ := mem_users_of_filled h h_user
  rw [Table.visible_of_own_nil h_own, h.committed] at hr
  exact ⟨r, World.mem_recipientsOf.mpr ⟨hr, h_id⟩, h_r⟩

/-- If every user has a recipient, none is inserted. -/
theorem recipients_untouched (h_all : ∀ userId ∈ userIds, ∃ r ∈ w.recipientsOf n.id,
      r.userId = userId)
    (h : Table.Filled Recipient.conflicts p
      (recipientValues n.id createdAt (userIds.filter fun userId =>
        (dictGet (listRecipientIdsByUser (w.recipients.visible p) n.id) userId).isNone))
      w.recipients t) : t = w.recipients := by
  refine h.untouched (List.map_eq_nil_iff.mpr (List.filter_eq_nil_iff.mpr fun userId h_user => ?_))
  rw [Bool.not_eq_true, Option.isNone_eq_false_iff, Option.isSome_iff_ne_none, ne_eq,
    dictGet_eq_none_iff]
  obtain ⟨r, hr, h_r⟩ := h_all userId h_user
  obtain ⟨hr, h_id⟩ := World.mem_recipientsOf.mp hr
  exact fun h_none => h_none r.id
    (mem_listRecipientIdsByUser.mpr ⟨r, Table.mem_visible.mpr (.inl hr), h_id, h_r, rfl⟩)

/-- A pair without a delivery makes the fan-out insert one: what is in the way of an
insertion is a delivery of the same recipient on the same channel. -/
theorem deliveries_of_own_nil (hS : Sound w) (h_rest : w.deliveries.own p = [])
    (h_own : t'.own p = []) (h_recipients : w.recipients.own p = [])
    (h_channels : n.channels.mapM parseChannel = .ok channels)
    (h_pairs : listDeliveryPairs (w.deliveries.visible p) n.id = .ok pairs)
    (h_values : missingDeliveries n.id (listRecipientIdsByUser (w.recipients.visible p) n.id) pairs
      channels createdAt userIds = .ok values)
    (h : Table.Filled Delivery.conflicts p values w.deliveries t') :
    ∀ userId ∈ userIds, ∀ channel ∈ n.channels,
      ∃ r ∈ w.deliveriesOf n.id, r.pair = (userId, channel) := by
  intro userId h_user text h_text
  obtain ⟨channel, h_channel, rfl⟩ := (mem_texts_of_mapM h_channels).mp h_text
  obtain ⟨rows, rfl, h_rows, h_all⟩ := missingDeliveries_ok h_values
  rcases h_all userId h_user channel h_channel with h_pair | h_row
  · -- the pair was listed, and what is listed is committed
    obtain ⟨r, hr, h_id, h_r, h_text⟩ := (mem_listDeliveryPairs h_pairs).mp h_pair
    rw [Table.visible_of_own_nil h_rest] at hr
    exact ⟨r, World.mem_deliveriesOf.mpr ⟨hr, h_id⟩, Prod.ext h_r h_text⟩
  · obtain ⟨⟨⟨userId', channel'⟩, value⟩, h_mem, h_eq⟩ := List.mem_map.mp h_row
    obtain ⟨rfl, rfl⟩ := Prod.mk.inj h_eq
    obtain ⟨-, -, recipientId, h_get, h_value⟩ := h_rows _ h_mem
    dsimp only at h_get h_value
    -- nothing was inserted, so the value conflicts with a committed row
    obtain ⟨r, hr, id, h_conflict⟩ := h.covered value (List.mem_map.mpr ⟨_, h_mem, rfl⟩)
    rw [Table.visible_of_own_nil h_own, h.committed] at hr
    rw [h_value] at h_conflict
    obtain ⟨h_recipient, h_text⟩ := Delivery.conflicts_iff.mp h_conflict
    -- which is of the same recipient, and so of the same user and notification
    obtain ⟨owner, h_owner, h_belongs⟩ := hS.grounded.committed r hr
    obtain ⟨found, h_found, h_id, h_user', h_key⟩ :=
      mem_listRecipientIdsByUser.mp (mem_of_dictGet h_get)
    rw [Table.visible_of_own_nil h_recipients] at h_found
    obtain rfl : owner = found := hS.recipient_eq
      (Table.mem_rows_of_committed h_owner) (Table.mem_rows_of_committed h_found)
      (h_belongs.recipient.trans (h_recipient.symm.trans h_key.symm))
    exact ⟨r, World.mem_deliveriesOf.mpr ⟨hr, h_belongs.notification.symm.trans h_id⟩,
      Prod.ext (h_belongs.user.symm.trans h_user') h_text.symm⟩

/-- If every pair has a delivery, none is inserted. -/
theorem deliveries_untouched (h_all : ∀ userId ∈ userIds, ∀ channel ∈ n.channels,
      ∃ r ∈ w.deliveriesOf n.id, r.pair = (userId, channel))
    (h_channels : n.channels.mapM parseChannel = .ok channels)
    (h_pairs : listDeliveryPairs (w.deliveries.visible p) n.id = .ok pairs)
    {recipientIds : List (UUID × UUID)}
    (h_values : missingDeliveries n.id recipientIds pairs channels createdAt userIds = .ok values)
    (h : Table.Filled Delivery.conflicts p values w.deliveries t') : t' = w.deliveries := by
  refine h.untouched (missingDeliveries_nil h_values fun userId h_user channel h_channel => ?_)
  obtain ⟨r, hr, h_pair⟩ := h_all userId h_user channel.value
    ((mem_texts_of_mapM h_channels).mpr ⟨channel, h_channel, rfl⟩)
  obtain ⟨hr, h_id⟩ := World.mem_deliveriesOf.mp hr
  obtain ⟨h_r, h_text⟩ := Prod.mk.inj h_pair
  exact (mem_listDeliveryPairs h_pairs).mpr
    ⟨r, Table.mem_visible.mpr (.inl hr), h_id, h_r, h_text⟩

/-- Storing the counters changes a row exactly if one of them differs. -/
theorem storeCounts_eq_iff {rows : List Notification} (hn : n ∈ rows)
    (recipientCount deliveryCount : ℕ) :
    rows.map (storeCounts n recipientCount deliveryCount) = rows ↔
      recipientCount = n.recipientCount ∧ deliveryCount = n.deliveryCount := by
  constructor
  · intro h
    have h_n : storeCounts n recipientCount deliveryCount n = n :=
      List.map_inj_left.mp (h.trans (List.map_id rows).symm) n hn
    -- a counter that is written differs from the one that was loaded
    have h_recipients := congrArg Notification.recipientCount h_n
    have h_deliveries := congrArg Notification.deliveryCount h_n
    simp only [storeCounts, if_true] at h_recipients h_deliveries
    constructor
    · split at h_recipients <;> assumption
    · split at h_deliveries <;> assumption
  · rintro ⟨rfl, rfl⟩
    refine (List.map_congr_left fun m _ => ?_).trans (List.map_id rows)
    simp [storeCounts]

/-- **What a complete fan-out leaves** is what was there exactly if there was nothing to
add. -/
theorem sameRows_iff_nothingToAdd (hw : AtRest p w) (hn : n ∈ w.notifications.committed)
    (h_channels : n.channels.mapM parseChannel = .ok channels)
    (h_recipients : Table.Filled Recipient.conflicts p
      (recipientValues n.id createdAt (userIds.filter fun userId =>
        (dictGet (listRecipientIdsByUser (w.recipients.visible p) n.id) userId).isNone))
      w.recipients t)
    (h_pairs : listDeliveryPairs (w.deliveries.visible p) n.id = .ok pairs)
    (h_values : missingDeliveries n.id (listRecipientIdsByUser (t.visible p) n.id) pairs channels
      createdAt userIds = .ok values)
    (h_deliveries : Table.Filled Delivery.conflicts p values w.deliveries t')
    {pairs' : List (UUID × Channel)}
    (h_pairs' : listDeliveryPairs (t'.visible p) n.id = .ok pairs') :
    ((t.commit p).committed = w.recipients.committed ∧
      (t'.commit p).committed = w.deliveries.committed ∧
      w.notifications.committed.map (storeCounts n
        (dictLen (listRecipientIdsByUser (t.visible p) n.id)) pairs'.length) =
          w.notifications.committed) ↔ NothingToAdd w n userIds := by
  -- when no row is inserted, the counts that are stored are those of the rows
  have h_counts : ∀ t t', t = w.recipients → t' = w.deliveries →
      listDeliveryPairs (t'.visible p) n.id = .ok pairs' →
      ((dictLen (listRecipientIdsByUser (t.visible p) n.id) = n.recipientCount ∧
        pairs'.length = n.deliveryCount) ↔ w.CountsMatch n) := by
    rintro _ _ rfl rfl h_read
    rw [length_of_dictLen hw.sound (by simp [hw.recipients]),
      length_of_pairs hw.sound h_read (by simp [hw.deliveries]), hw.recipients, hw.deliveries]
    exact and_congr eq_comm eq_comm
  rw [Table.committed_commit, Table.committed_commit, h_recipients.committed,
    h_deliveries.committed, List.append_right_eq_self, List.append_right_eq_self,
    storeCounts_eq_iff hn]
  constructor
  · rintro ⟨h_own, h_own', h_stored⟩
    have h_users := recipients_of_own_nil h_own h_recipients
    have h_table := recipients_untouched h_users h_recipients
    rw [h_table] at h_values
    have h_all := deliveries_of_own_nil hw.sound hw.deliveries h_own' hw.recipients h_channels
      h_pairs h_values h_deliveries
    have h_table' := deliveries_untouched h_all h_channels h_pairs h_values h_deliveries
    exact ⟨h_users, h_all, (h_counts t t' h_table h_table' h_pairs').mp h_stored⟩
  · rintro ⟨h_users, h_all, h_match⟩
    have h_table := recipients_untouched h_users h_recipients
    have h_table' := deliveries_untouched h_all h_channels h_pairs h_values h_deliveries
    refine ⟨h_table ▸ hw.recipients, h_table' ▸ hw.deliveries, ?_⟩
    exact (h_counts t t' h_table h_table' h_pairs').mpr h_match

theorem findsNothing_iff {service : NotificationFanoutService}
    (h_users : w.directory.audienceOf n = .ok userIds)
    (h_channels : n.channels.mapM parseChannel = .ok channels)
    (h_limits : service.withinLimits userIds channels = .ok ()) :
    FindsNothing service w n ↔ NothingToAdd w n userIds := by
  refine ⟨fun h => h userIds channels h_users h_channels h_limits, fun h => ?_⟩
  intro userIds' channels' h_users' _ _
  obtain rfl := Except.ok.inj (h_users.symm.trans h_users')
  exact h

/-- **The transaction** leaves the rows alone exactly if it finds nothing to add. -/
theorem ends_fanout (hw : AtRest p w) (hn : n ∈ w.notifications.committed)
    (service : NotificationFanoutService) (nextAttemptAt : Instant) :
    Prog.Ends p (fun _ w' => SameRows w w' ↔ FindsNothing service w n)
      (service.fanout n nextAttemptAt) w := by
  refine ends_compute (fun audience h_audience => ?_) fun e h_error =>
    iff_of_true (sameRows_refl w) fun userIds channels h_users => ?_
  swap
  · exact absurd h_users (by simp [Directory.audienceOf, h_error, bind, Except.bind])
  refine ends_bind (m := resolveAudience audience) (ends_attempt fun i r w₁ hf => ?_)
  have h_resolve : w.directory.audienceOf n = w.directory.resolve audience := by
    simp [Directory.audienceOf, h_audience, bind, Except.bind]
  split at hf
  swap
  next e h_error =>
    obtain ⟨rfl, rfl⟩ := Prod.mk.inj (Option.some.inj hf)
    refine iff_of_true (sameRows_refl w) fun userIds channels h_users => ?_
    exact absurd (h_users.symm.trans (h_resolve.trans h_error)) (by simp)
  next userIds h_ids =>
  obtain ⟨rfl, rfl⟩ := Prod.mk.inj (Option.some.inj hf)
  have h_users := h_resolve.trans h_ids
  refine ends_compute (fun channels h_channels => ?_) fun e h_error =>
    iff_of_true ⟨rfl, rfl, rfl⟩ fun _ channels _ h_channels =>
      absurd (h_channels.symm.trans h_error) (by simp)
  refine ends_compute (fun _ h_limits => ?_) fun e h_error =>
    iff_of_true ⟨rfl, rfl, rfl⟩ fun userIds' channels' h_users' h_channels' h_limits => ?_
  swap
  · obtain rfl := Except.ok.inj (h_users.symm.trans h_users')
    obtain rfl := Except.ok.inj (h_channels.symm.trans h_channels')
    exact absurd (h_limits.symm.trans h_error) (by simp)
  rw [findsNothing_iff h_users h_channels h_limits]
  refine ends_bind (m := query _) (ends_perform fun i recipientIds w₂ hf => ?_)
  obtain ⟨rfl, rfl⟩ := Prod.mk.inj (Option.some.inj hf)
  refine ends_bind (m := addRecipientsIgnoreConflicts _ _ _)
    (ends_addRecipients fun t issued h_recipients => ?_)
  refine ends_bind (m := countRecipients _) (ends_perform fun i recipientIds w₃ hf => ?_)
  obtain ⟨rfl, rfl⟩ := Prod.mk.inj (Option.some.inj hf)
  refine ends_bind (m := attempt _) (ends_attempt fun i r w₄ hf => ?_)
  obtain ⟨h_read, rfl⟩ := Prod.mk.inj (Option.some.inj hf)
  obtain ⟨pairs, h_pairs⟩ := exists_pairs
    (fun r hr => hw.channels r (Table.mem_rows_of_visible (p := p) hr)) n.id
  obtain rfl : r = .ok pairs := h_read.symm.trans h_pairs
  refine ends_compute (fun values h_values => ?_) fun e h_error => ?_
  swap
  · -- every user has a recipient by now
    obtain ⟨userId, h_user, h_none⟩ := (missingDeliveries_error h_error).2
    obtain ⟨r, hr, h_id, h_r⟩ := mem_users_of_filled h_recipients h_user
    exact absurd (mem_listRecipientIdsByUser.mpr ⟨r, hr, h_id, h_r, rfl⟩)
      (dictGet_eq_none_iff.mp h_none r.id)
  refine ends_bind (m := addDeliveriesIgnoreConflicts _)
    (ends_addDeliveries fun t' issued' h_deliveries => ?_)
  have h_onChannel : ∀ r ∈ t'.visible p, r.OnChannel := by
    intro r hr
    rcases Table.mem_visible.mp hr with h_com | h_own
    · exact hw.channels r (Table.mem_rows_of_committed (h_deliveries.committed ▸ h_com))
    · rcases h_deliveries.own r h_own with h_own | ⟨value, h_value, id, rfl⟩
      · exact hw.channels r (Table.mem_rows_of_own (p := p) h_own)
      · obtain ⟨rows, rfl, h_rows, -⟩ := missingDeliveries_ok h_values
        obtain ⟨row, h_row, rfl⟩ := List.mem_map.mp h_value
        obtain ⟨-, -, recipientId, -, h_eq⟩ := h_rows row h_row
        exact ⟨row.1.2, by rw [h_eq]; rfl⟩
  obtain ⟨pairs', h_pairs'⟩ := exists_pairs h_onChannel n.id
  refine ends_bind (m := countDeliveries _) (ends_attempt fun i r w₅ hf => ?_)
  split at hf
  swap
  next e h_error => exact absurd (h_pairs'.symm.trans h_error) (by simp)
  next pairs'' h_ok =>
  obtain rfl := Except.ok.inj (h_pairs'.symm.trans h_ok)
  obtain ⟨rfl, rfl⟩ := Prod.mk.inj (Option.some.inj hf)
  refine ends_bind (m := commitFanout _ _ _) (ends_perform fun i u w₆ hf => Prog.Ends.ret ?_)
  obtain ⟨-, rfl⟩ := Prod.mk.inj (Option.some.inj hf)
  exact sameRows_iff_nothingToAdd hw hn h_channels h_recipients h_pairs h_values h_deliveries
    h_pairs'

end Found

/-! ### Consuming a replay event -/

/-- The message has the key, the identifier, the type and the payload of the event. -/
structure NotificationKafkaMessage.Carries (message : NotificationKafkaMessage) (e : OutboxEvent) :
    Prop where
  key : message.key = e.eventKey
  eventId : message.eventId = e.id
  eventType : message.eventType = e.eventType
  payload : message.payload = e.payload

/-- The second action of the run, the first reading of the clock, gets a naive value. -/
def ReadsNaive (is : List Choice) : Prop :=
  ∃ i value rest, is = i :: .time value :: rest ∧ value.utcoffset = none

/-- Consuming a replay event of the notification does nothing: the event is recorded as
processed, the clock is refused, or the fan-out finds nothing. -/
def ReplayIgnored (service : NotificationFanoutService) (consumerName : String) (eventId : UUID)
    (notificationId : UUID) (is : List Choice) (w : World) : Prop :=
  (∃ e ∈ w.processed, e.eventId = eventId ∧ e.consumerName = consumerName) ∨ ReadsNaive is ∨
  ∀ n, getNotification w.notifications.committed notificationId = some n →
    FindsNothing service w n

/-- Consuming a replay event leaves recipients, deliveries and counters alone. -/
def ReplayKeepsRows : Prop :=
  ∀ (service : NotificationFanoutService) (consumerName : String)
    (message : NotificationKafkaMessage) (notificationId : UUID) (deliveryIds : List UUID)
    (replayId : UUID) (requestedAt : Instant) (eventId : UUID) (p : Pid) (w : World),
    message.Carries (RetryService.replayRequestedEvent notificationId deliveryIds replayId
      requestedAt eventId) → AtRest p w →
    ∀ is r w', (consume service consumerName message).exec p is w = some (r, w') → SameRows w w'

section Consumption

variable {p : Pid} {w w' w₀ : World} {service : NotificationFanoutService}
  {consumerName : String} {message : NotificationKafkaMessage} {notificationId replayId : UUID}
  {deliveryIds : List UUID} {requestedAt : Instant} {eventId : UUID}

theorem SameRows.congr_right (h : SameRows w w') : SameRows w₀ w' ↔ SameRows w₀ w := by
  obtain ⟨h_recipients, h_deliveries, h_notifications⟩ := h
  simp only [SameRows, h_recipients, h_deliveries, h_notifications]

/-- Noting what has happened does not touch the tables. -/
theorem AtRest.of_tables (hw : AtRest p w) (event : Event) (fanouts : List Fanout) :
    AtRest p { w with fanouts := fanouts, history := w.history ++ [event] } :=
  ⟨{ hw.sound with }, hw.channels, hw.notifications, hw.recipients, hw.deliveries⟩

theorem findsNothing_of_tables (event : Event) (fanouts : List Fanout) {n : Notification} :
    FindsNothing service { w with fanouts := fanouts, history := w.history ++ [event] } n ↔
      FindsNothing service w n := by
  constructor
  all_goals
    intro h userIds channels h_users h_channels h_limits
    obtain ⟨h_recipients, h_deliveries, h_counts⟩ := h userIds channels h_users h_channels h_limits
    exact ⟨h_recipients, h_deliveries, h_counts⟩

/-- The rest of the fan-out, once the clock has been read. -/
theorem ends_fanoutNotification (hw : AtRest p w) (event : Event) (nextAttemptAt : Instant) :
    Prog.Ends p (fun _ w' => SameRows w w' ↔
        ∀ n, getNotification w.notifications.committed notificationId = some n →
          FindsNothing service w n)
      (unitOfWork do
        match ← openFanout notificationId with
        | none => throw (.valueError "notification does not exist")
        | some notification => service.fanout notification nextAttemptAt) (w.record event) := by
  refine ends_unitOfWork (fun e w' h => h) (ends_bind (ends_perform fun i found w₁ hf => ?_))
  -- with no open transaction of its own, the call sees the committed rows
  have h_visible : w.notifications.visible p = w.notifications.committed :=
    Table.visible_of_own_nil hw.notifications
  dsimp only [World.record] at hf
  rw [h_visible] at hf
  split at hf
  next n h_get =>
    obtain ⟨rfl, rfl⟩ := Prod.mk.inj (Option.some.inj hf)
    rw [h_get]
    simp only [Option.some.injEq, forall_eq']
    -- the notification is found, and the rest is its fan-out
    have h_ends := ends_fanout (hw.of_tables event (w.fanouts ++ [⟨p, n, none, none, none⟩]))
      (List.mem_of_find?_eq_some h_get) service nextAttemptAt
    exact h_ends.mono fun _ _ h => h.trans (findsNothing_of_tables event _)
  next h_get =>
    obtain ⟨rfl, rfl⟩ := Prod.mk.inj (Option.some.inj hf)
    rw [h_get]
    exact Prog.Ends.ret (iff_of_true ⟨rfl, rfl, rfl⟩ fun n h_some => absurd h_some (by simp))

theorem ends_markProcessed :
    Prog.Ends p (fun _ w' => SameRows w w') (markProcessed consumerName eventId) w := by
  refine ends_bind (m := awareUtcNow) (ends_attempt fun i r w₁ hf => ?_)
  cases i with
  | time value =>
    obtain ⟨rfl, rfl⟩ := Prod.mk.inj (Option.some.inj hf)
    split
    · refine ends_unitOfWork (fun e w' h => h) (ends_attempt fun i r w₂ hf => ?_)
      dsimp only at hf
      split at hf
      all_goals
        obtain ⟨-, rfl⟩ := Prod.mk.inj (Option.some.inj hf)
        exact ⟨rfl, rfl, rfl⟩
    · exact ⟨rfl, rfl, rfl⟩
  | _ => exact absurd hf (by simp)

/-- The handler finds the notification the event names. -/
theorem handle_replayRequested (h : message.Carries (RetryService.replayRequestedEvent
      notificationId deliveryIds replayId requestedAt eventId)) :
    handle service message.payload = service.fanoutNotification notificationId := by
  have h_get : message.payload.get? "notification_id" = some (.str notificationId.str) := by
    rw [h.payload]
    rfl
  rw [handle, h_get]
  simp only [UUID.parse_str]

/-- The fan-out's first action reads the clock. -/
theorem exec_fanoutNotification (hw : AtRest p w) {is : List Choice}
    {r : Except PyError NotificationFanoutResult}
    (h : (service.fanoutNotification notificationId).exec p is w = some (r, w')) :
    ∃ value rest, is = .time value :: rest ∧
      (SameRows w w' ↔ value.utcoffset = none ∨
        ∀ n, getNotification w.notifications.committed notificationId = some n →
          FindsNothing service w n) := by
  obtain ⟨is₁, is₂, now, w₁, rfl, h_clock, h_rest⟩ := Prog.exec_bind h
  obtain ⟨i, rfl, hf⟩ := Prog.exec_perform h_clock
  cases i with
  | time value =>
    refine ⟨value, is₂, rfl, ?_⟩
    obtain ⟨rfl, rfl⟩ := Prod.mk.inj (Option.some.inj hf)
    cases h_offset : value.utcoffset with
    | none =>
      rw [h_offset] at h_rest
      -- a naive reading raises before the unit of work is opened
      obtain ⟨-, -, rfl⟩ := Prog.exec_ret h_rest
      exact iff_of_true ⟨rfl, rfl, rfl⟩ (.inl rfl)
    | some offset =>
      rw [h_offset] at h_rest
      rw [or_iff_right (by simp)]
      exact ends_fanoutNotification hw (.clockRead p value) value.instant is₂ r w' h_rest
  | _ => exact absurd hf (by simp)

/-- The lookup of the event is one action. -/
theorem exec_alreadyProcessed {is : List Choice} {r : Except PyError Bool}
    (h : (alreadyProcessed consumerName eventId).exec p is w = some (r, w')) :
    (∃ i, is = [i]) ∧ w' = w ∧ r = .ok (w.processed.any fun e =>
      decide (e.eventId = eventId ∧ e.consumerName = consumerName)) := by
  obtain ⟨is₁, is₂, found, w₁, rfl, h_query, h_rest⟩ := Prog.exec_bind h
  obtain ⟨⟨i, rfl⟩, rfl, rfl⟩ := exec_query h_query
  obtain ⟨rfl, rfl, rfl⟩ := Prog.exec_ret h_rest
  exact ⟨⟨i, rfl⟩, rfl, rfl⟩

/-- **Consuming a replay event** leaves the rows alone exactly if it is ignored. -/
theorem sameRows_iff_ignored (hw : AtRest p w) (h_event : message.Carries
      (RetryService.replayRequestedEvent notificationId deliveryIds replayId requestedAt eventId))
    {is : List Choice} {r : Except PyError Handled}
    (h : (consume service consumerName message).exec p is w = some (r, w')) :
    SameRows w w' ↔ ReplayIgnored service consumerName eventId notificationId is w := by
  have h_id : message.eventId = eventId := h_event.eventId
  obtain ⟨is₁, is₂, found, w₁, rfl, h_lookup, h_rest⟩ := Prog.exec_bind h
  obtain ⟨⟨i, rfl⟩, rfl, rfl⟩ := exec_alreadyProcessed h_lookup
  rw [h_id] at h_rest
  by_cases h_processed : ∃ e ∈ w₁.processed, e.eventId = eventId ∧ e.consumerName = consumerName
  · -- the event has been processed: the handler is not called
    have h_found : (w₁.processed.any fun e =>
        decide (e.eventId = eventId ∧ e.consumerName = consumerName)) = true := by
      simpa using h_processed
    rw [h_found] at h_rest
    obtain ⟨-, -, rfl⟩ := Prog.exec_ret h_rest
    exact iff_of_true (sameRows_refl _) (.inl h_processed)
  · have h_found : (w₁.processed.any fun e =>
        decide (e.eventId = eventId ∧ e.consumerName = consumerName)) = false := by
      simpa using h_processed
    rw [h_found] at h_rest
    obtain ⟨is₃, is₄, handled, w₂, rfl, h_handle, h_mark⟩ := Prog.exec_bind h_rest
    obtain ⟨is₅, is₆, result, w₃, rfl, h_fanout, h_discard⟩ := Prog.exec_bind h_handle
    rw [handle_replayRequested h_event] at h_fanout
    obtain ⟨value, rest, rfl, h_iff⟩ := exec_fanoutNotification hw h_fanout
    -- marking the event as processed inserts no rows
    have h_same : SameRows w₃ w' := by
      cases result with
      | error e =>
        obtain ⟨-, rfl, rfl⟩ := Prog.exec_ret h_discard
        obtain ⟨-, -, rfl⟩ := Prog.exec_ret h_mark
        exact sameRows_refl _
      | ok result =>
        obtain ⟨-, rfl, rfl⟩ := Prog.exec_ret h_discard
        have h_ends : Prog.Ends p (fun _ w' => SameRows w₂ w') (do
            markProcessed consumerName eventId
            return .processed : Program Handled) w₂ := by
          refine ends_bind (ends_markProcessed.mono fun r w₄ h_w₄ => ?_)
          cases r with
          | ok u => exact Prog.Ends.ret h_w₄
          | error e => exact h_w₄
        exact h_ends is₄ r w' h_mark
    -- the reading is the second choice of the run
    have h_naive : ReadsNaive ([i] ++ (.time value :: rest ++ is₆ ++ is₄)) ↔
        value.utcoffset = none := by
      constructor
      · rintro ⟨j, value', rest', h_eq, h_none⟩
        simp only [List.cons_append, List.nil_append, List.cons.injEq, Choice.time.injEq] at h_eq
        exact h_eq.2.1 ▸ h_none
      · exact fun h_none => ⟨i, value, rest ++ is₆ ++ is₄, by simp, h_none⟩
    rw [h_same.congr_right, h_iff, ReplayIgnored, h_naive, or_iff_right h_processed]

end Consumption

/-! ### A replay after a change of the directory -/

/-- The consumer's record of the replay that `retrySchedule` has written. -/
def replayMessage : NotificationKafkaMessage where
  key := UUID.str 41
  eventId := 42
  eventType := "notification.replay_requested"
  occurredAt := .ofInstant 9
  payload := (RetryService.replayRequestedEvent 10 [22] 41 9 42).payload
  rawMessage := ⟨none, []⟩

theorem replayMessage_carries :
    replayMessage.Carries (RetryService.replayRequestedEvent 10 [22] 41 9 42) :=
  ⟨rfl, rfl, rfl, rfl⟩

/-- The state a run reaches is one in which another call can start. -/
theorem Deployment.Run.atRest {d : Deployment} {clock : Instant} {directory : Directory}
    {ls : Schedule} {c : State} (h : d.Run clock directory ls c) {p : Pid}
    (h_own : c.world.notifications.own p = [] ∧ c.world.recipients.own p = [] ∧
      c.world.deliveries.own p = []) : AtRest p c.world :=
  ⟨h.sound, h.deliveries_onChannel, h_own.1, h_own.2.1, h_own.2.2⟩

/-- The replay adds a recipient for a user who has become active since. -/
theorem not_replayKeepsRows : ¬ ReplayKeepsRows := by
  intro h
  obtain ⟨c, h_run, h_c⟩ := retryDeployment.exists_run 0 firstUser
    (retrySchedule ++ [.env (.setDirectory secondUser)])
    (fun c => decide ((c.world.notifications.own 9 = [] ∧ c.world.recipients.own 9 = [] ∧
        c.world.deliveries.own 9 = []) ∧
      c.world.outbox.map OutboxEvent.id = [11, 42] ∧
      ((consume {} "consumer" replayMessage).exec 9 [.go, .time (.ofInstant 10), .go, .go, .go,
          .fresh 61, .go, .go, .fresh 62, .go, .go, .time (.ofInstant 10), .go] c.world).map
        (fun rw => decide (rw.2.recipients.committed.length =
          c.world.recipients.committed.length)) = some false)) (by decide +kernel)
  obtain ⟨h_own, -, h_exec⟩ := of_decide_eq_true h_c
  obtain ⟨⟨r, w'⟩, h_result, h_differ⟩ := Option.map_eq_some_iff.mp h_exec
  have h_same := h {} "consumer" replayMessage 10 [22] 41 9 42 9 c.world replayMessage_carries
    (h_run.atRest h_own) _ r w' h_result
  exact of_decide_eq_false h_differ (congrArg List.length h_same.1)

/-- While the directory is as it was, the replay finds nothing to add. -/
theorem sameRows_iff_ignored_unchanged :
    ∃ c r w', retryDeployment.Run 0 firstUser retrySchedule c ∧
      (consume {} "consumer" replayMessage).exec 9 [.go, .time (.ofInstant 10), .go, .go, .go, .go,
        .go, .go, .go, .time (.ofInstant 10), .go] c.world = some (r, w') ∧
      SameRows c.world w' := by
  obtain ⟨c, h_run, h_c⟩ := retryDeployment.exists_run 0 firstUser retrySchedule
    (fun c => decide ((c.world.notifications.own 9 = [] ∧ c.world.recipients.own 9 = [] ∧
        c.world.deliveries.own 9 = []) ∧ c.world.directory = firstUser ∧
      (∀ n ∈ c.world.notifications.committed, n.id = 10 ∧ firstUser.audienceOf n = .ok [1] ∧
        n.channels = ["email"] ∧ (c.world.recipientsOf n.id).map Recipient.userId = [1] ∧
        (c.world.deliveriesOf n.id).map Delivery.pair = [(1, "email")] ∧
        c.world.CountsMatch n) ∧
      ((consume {} "consumer" replayMessage).exec 9 [.go, .time (.ofInstant 10), .go, .go, .go, .go,
        .go, .go, .go, .time (.ofInstant 10), .go] c.world).isSome)) (by decide +kernel)
  obtain ⟨h_own, h_directory, h_rows, h_exec⟩ := of_decide_eq_true h_c
  obtain ⟨⟨r, w'⟩, h_result⟩ := Option.isSome_iff_exists.mp h_exec
  -- the replay finds every recipient and every delivery, and the counts are those of the rows
  refine ⟨c, r, w', h_run, h_result,
    (sameRows_iff_ignored (h_run.atRest h_own) replayMessage_carries h_result).mpr
      (.inr (.inr fun n h_get userIds channels h_users _ _ => ?_))⟩
  obtain ⟨-, h_audience, h_channels, h_recipients, h_deliveries, h_counts⟩ :=
    h_rows n (List.mem_of_find?_eq_some h_get)
  rw [h_directory] at h_users
  obtain rfl := Except.ok.inj (h_audience.symm.trans h_users)
  refine ⟨fun userId h_user => ?_, fun userId h_user channel h_channel => ?_, h_counts⟩
  · exact List.mem_map.mp (h_recipients ▸ h_user)
  · rw [List.mem_singleton] at h_user
    rw [h_channels, List.mem_singleton] at h_channel
    subst h_user h_channel
    exact List.mem_map.mp (h_deliveries ▸ List.mem_singleton.mpr rfl)

end NotificationBroker
