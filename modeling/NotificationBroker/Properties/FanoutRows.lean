import NotificationBroker.Properties.OpenFanouts

/-!
# The rows of a fan-out

What every fan-out transaction inserts, whatever the directory does meanwhile: its
recipients are among the users it has resolved, and the channel of a delivery is
one that its notification requests (`FanoutRows`).

`FanoutCommit` is the step in which such a transaction commits. Afterwards every
user it has resolved has a recipient row, and a delivery row on every requested
channel: rows that were missing are its own, and the others were there already.
-/

namespace NotificationBroker

open Interleave Python
open ReadCommitted (Table Grows)
open NotificationFanoutService (storeCounts withinLimits)

/-- The committed recipients of a notification. -/
def World.recipientsOf (w : World) (notificationId : UUID) : List Recipient :=
  w.recipients.committed.filter fun r => r.notificationId = notificationId

/-- The committed deliveries of a notification. -/
def World.deliveriesOf (w : World) (notificationId : UUID) : List Delivery :=
  w.deliveries.committed.filter fun r => r.notificationId = notificationId

/-- The user and the channel of a delivery. -/
def Delivery.pair (r : Delivery) : UUID × String := (r.userId, r.channel)

/-- The rows that fan-outs insert. -/
structure FanoutRows (w : World) : Prop where
  users : ∀ p, ∀ r ∈ w.recipients.own p, ∃ x userIds, w.fanoutsOf p = [x] ∧
    x.userIds = some userIds ∧ r.userId ∈ userIds
  channels : ∀ r ∈ w.deliveries.rows, ∃ n ∈ w.notifications.committed,
    n.id = r.notificationId ∧ r.channel ∈ n.channels

/-- The step from `w` to `w'` commits the open fan-out `x` of `p`, for `userIds`. -/
structure FanoutCommit (d : Deployment) (p : Pid) (x : Fanout) (userIds : List UUID)
    (w w' : World) : Prop where
  limits : ∃ service consumerName message, d.calls p = .consume service consumerName message ∧
    userIds.length ≤ service.maxRecipients ∧
    userIds.length * x.notification.channels.length ≤ service.maxDeliveries
  own : w.fanoutsOf p = [x]
  users : x.userIds = some userIds
  counts : ∃ recipientCount deliveryCount,
    x.recipientCount = some recipientCount ∧ x.deliveryCount = some deliveryCount ∧
    w'.notifications =
      w.notifications.modify (storeCounts x.notification recipientCount deliveryCount)
  recipients : w'.recipients = w.recipients.commit p
  deliveries : w'.deliveries = w.deliveries.commit p
  fanouts : w'.fanouts = w.fanouts.filter fun y => y.pid ≠ p
  covers_users : ∀ userId ∈ userIds, ∃ r ∈ w'.recipientsOf x.notification.id, r.userId = userId
  covers_pairs : ∀ userId ∈ userIds, ∀ channel ∈ x.notification.channels,
    ∃ r ∈ w'.deliveriesOf x.notification.id, r.userId = userId ∧ r.channel = channel

/-- The step from `w` to `w'` has nothing to do with the committed rows of
fan-outs: deliveries keep their columns that are written once, and notifications
are at most added, by the transactions that have inserted them. -/
structure FanoutIdle (w w' : World) : Prop where
  silent : ∀ p notificationId, .fanoutCommitted p notificationId ∉ newEvents w w'
  recipients : w'.recipients.committed = w.recipients.committed
  deliveries : w'.deliveries.committed.map Delivery.key = w.deliveries.committed.map Delivery.key
  notifications : ∀ n ∈ w'.notifications.committed,
    n ∈ w.notifications.committed ∨ ∃ p, n ∈ w.notifications.own p

variable {d : Deployment} {p q : Pid} {w w' : World}

/-- An update that keeps the key of every row. -/
theorem map_key_of_keep {f : Delivery → Delivery} (hf : ∀ r, (f r).key = r.key)
    (rows : List Delivery) : (rows.map f).map Delivery.key = rows.map Delivery.key := by
  rw [List.map_map]
  exact List.map_congr_left fun r _ => hf r

theorem World.mem_recipientsOf {notificationId : UUID} {r : Recipient} :
    r ∈ w.recipientsOf notificationId ↔
      r ∈ w.recipients.committed ∧ r.notificationId = notificationId := by
  simp [World.recipientsOf]

theorem World.mem_deliveriesOf {notificationId : UUID} {r : Delivery} :
    r ∈ w.deliveriesOf notificationId ↔
      r ∈ w.deliveries.committed ∧ r.notificationId = notificationId := by
  simp [World.deliveriesOf]

theorem Notification.SameRequest.channels {n n' : Notification} (h : n.SameRequest n') :
    n'.channels = n.channels := by
  have h_request : n'.request = n.request := h
  exact (congrArg Notification.channels h_request :)

/-- A notification has one recipient for a user. -/
theorem Sound.recipientsOf_nodup (hS : Sound w) (notificationId : UUID) :
    ((w.recipientsOf notificationId).map Recipient.userId).Nodup :=
  hS.users_nodup Table.committed_sublist_rows notificationId

/-- A notification has one delivery for a user and a channel. -/
theorem Sound.deliveriesOf_nodup (hS : Sound w) (notificationId : UUID) :
    ((w.deliveriesOf notificationId).map Delivery.pair).Nodup :=
  hS.pairs_nodup Table.committed_sublist_rows notificationId

/-- The texts that are read as channels. -/
theorem mem_texts_of_mapM {texts : List String} {channels : List Channel}
    (h : texts.mapM parseChannel = .ok channels) {text : String} :
    text ∈ texts ↔ ∃ channel ∈ channels, channel.value = text := by
  constructor
  · intro h_text
    have h_read : parseChannel text ∈ channels.map Except.ok :=
      map_of_mapM_ok h ▸ List.mem_map_of_mem h_text
    obtain ⟨channel, h_channel, h_eq⟩ := List.mem_map.mp h_read
    exact ⟨channel, h_channel, (parseChannel_ok.mp h_eq.symm).symm⟩
  · rintro ⟨channel, h_channel, rfl⟩
    obtain ⟨text, h_text, h_parse⟩ := (mem_of_mapM_ok h).mp h_channel
    exact parseChannel_ok.mp h_parse ▸ h_text

theorem length_of_mapM {texts : List String} {channels : List Channel}
    (h : texts.mapM parseChannel = .ok channels) : channels.length = texts.length := by
  have h_length := congrArg List.length (map_of_mapM_ok h)
  rwa [List.length_map, List.length_map, eq_comm] at h_length

theorem withinLimits_ok {service : NotificationFanoutService} {userIds : List UUID}
    {channels : List Channel} (h : service.withinLimits userIds channels = .ok ()) :
    userIds.length ≤ service.maxRecipients ∧
      userIds.length * channels.length ≤ service.maxDeliveries := by
  unfold withinLimits at h
  dsimp only at h
  split at h
  · exact absurd h (by simp)
  next h_limits =>
    exact ⟨not_lt.mp fun h => h_limits (.inl h), not_lt.mp fun h => h_limits (.inr h)⟩

/-- **A fan-out commits in one step**, and every other step leaves the committed
rows of all fan-outs alone. -/
theorem Effect.fanout_cases (h : Effect d p w w') :
    (∃ x userIds, newEvents w w' = [.fanoutCommitted p x.notification.id] ∧
      FanoutCommit d p x userIds w w') ∨ FanoutIdle w w' := by
  -- a step that records nothing of the kind, and changes no table of fan-outs
  have h_idle : (∀ q id, .fanoutCommitted q id ∉ newEvents w w') →
      w'.recipients.committed = w.recipients.committed →
      w'.deliveries.committed = w.deliveries.committed →
      w'.notifications.committed = w.notifications.committed → FanoutIdle w w' :=
    fun h_silent h_recipients h_deliveries h_notifications =>
      ⟨h_silent, h_recipients, congrArg _ h_deliveries, fun n hn => .inl (h_notifications ▸ hn)⟩
  cases h with
  | commitFanout x service userIds channels recipientCount deliveryCount h_service h_own h_users
      h_counts h_channels h_limits h_recipients h_deliveries =>
    obtain ⟨consumerName, message, h_call⟩ := h_service
    obtain ⟨h_max, h_product⟩ := withinLimits_ok h_limits
    rw [length_of_mapM h_channels] at h_product
    refine .inl ⟨x, userIds, newEvents_of_append rfl, {
      limits := ⟨service, consumerName, message, h_call, h_max, h_product⟩
      own := h_own
      users := h_users
      counts := ⟨recipientCount, deliveryCount, h_counts.1, h_counts.2, rfl⟩
      recipients := rfl
      deliveries := rfl
      fanouts := rfl
      covers_users := fun userId h_user => ?_
      covers_pairs := fun userId h_user text h_text => ?_ }⟩
    · obtain ⟨r, hr, h_notification, h_r⟩ := h_recipients userId h_user
      exact ⟨r, World.mem_recipientsOf.mpr ⟨hr, h_notification⟩, h_r⟩
    · obtain ⟨channel, h_channel, rfl⟩ := (mem_texts_of_mapM h_channels).mp h_text
      obtain ⟨r, hr, h_notification, h_r⟩ := h_deliveries userId h_user channel h_channel
      exact ⟨r, World.mem_deliveriesOf.mpr ⟨hr, h_notification⟩, h_r⟩
  | claimDeliveries now lease workerId channels tokens claims =>
    refine .inr ⟨fun q id => ?_, rfl, ?_, fun n hn => .inl hn⟩
    · rw [newEvents_of_append rfl, List.mem_singleton]
      simp
    · exact map_key_of_keep (Delivery.applyClaims_key claims now lease workerId) _
  | finalizeDelivery x outcome now retryDelay delivery attemptId =>
    refine .inr ⟨fun q id => ?_, rfl, ?_, fun n hn => .inl hn⟩
    · rw [newEvents_of_append rfl, List.mem_singleton]
      simp
    · exact map_key_of_keep (fun r => by split <;> rfl) _
  | markRead deliveryId readAt =>
    refine .inr ⟨fun q id => ?_, rfl, ?_, fun n hn => .inl hn⟩
    · rw [newEvents_of_append rfl, List.mem_singleton]
      simp
    · exact map_key_of_keep (fun r => by split <;> rfl) _
  | readClock | finalizeEvent | missEvent | loadContext | missContext | beginSend
    | missDelivery =>
    refine .inr (h_idle (fun q id => ?_) rfl rfl rfl)
    rw [newEvents_of_append rfl, List.mem_singleton]
    simp
  | _ => exact .inr (h_idle (fun q id => not_mem_newEvents rfl) rfl rfl rfl)

theorem Finish.fanoutIdle (h : Finish d p w w') : FanoutIdle w w' := by
  refine ⟨fun q id => not_mem_newEvents h.history, congrArg Table.committed h.recipients, ?_, ?_⟩
  · cases h with
    | commitNotification => rfl
    | commitRetry => exact map_key_of_keep (fun r => by split <;> rfl) _
  · cases h with
    | commitNotification =>
      exact fun n hn => (List.mem_append.mp hn).imp_right fun h_own => ⟨p, h_own⟩
    | commitRetry => exact fun n hn => .inl hn

theorem WorldMove.fanout_cases (h : WorldMove d w w') :
    (∃ p x userIds, newEvents w w' = [.fanoutCommitted p x.notification.id] ∧
      FanoutCommit d p x userIds w w') ∨ FanoutIdle w w' := by
  cases h with
  | act p h =>
    cases h with
    | finish h => exact .inr h.fanoutIdle
    | effect h => exact h.fanout_cases.imp_left fun h => ⟨p, h⟩
  | env e h =>
    obtain ⟨clock, directory, rfl⟩ := env_apply h
    exact .inr ⟨fun q id => not_mem_newEvents rfl, rfl, rfl, fun n hn => .inl hn⟩
  | abort p h =>
    subst h
    exact .inr ⟨fun q id => not_mem_newEvents rfl, rfl, rfl, fun n hn => .inl hn⟩

/-! ### What fan-outs insert -/

/-- The recipients of a notification stay. -/
theorem WorldMove.recipientsOf_kept (h : WorldMove d w w') {id : UUID} {r : Recipient}
    (hr : r ∈ w.recipientsOf id) : r ∈ w'.recipientsOf id := by
  obtain ⟨p, h_change⟩ := h.recipients
  obtain ⟨h_mem, h_notification⟩ := World.mem_recipientsOf.mp hr
  obtain ⟨r', hr', rfl⟩ := (h_change.grows fun _ => rfl).mem h_mem
  exact World.mem_recipientsOf.mpr ⟨hr', h_notification⟩

/-- The deliveries of a notification stay, each for its user and channel. -/
theorem WorldMove.deliveriesOf_kept (hS : Sound w) (h : WorldMove d w w') {id : UUID}
    {r : Delivery} (hr : r ∈ w.deliveriesOf id) : ∃ r' ∈ w'.deliveriesOf id, r'.pair = r.pair := by
  obtain ⟨h_mem, h_notification⟩ := World.mem_deliveriesOf.mp hr
  obtain ⟨r', hr', h_follows⟩ := (h.deliveries_follow hS).mem h_mem
  have h_key := h_follows.key
  simp only [Delivery.key, Prod.mk.injEq] at h_key
  obtain ⟨-, -, h_same, h_user, h_channel⟩ := h_key
  exact ⟨r', World.mem_deliveriesOf.mpr ⟨hr', h_same.trans h_notification⟩,
    Prod.ext h_user h_channel⟩

theorem WorldMove.fanoutRows (hS : Sound w) (hF : OpenFanouts d w) (hR : FanoutRows w)
    (h : WorldMove d w w') : FanoutRows w' := by
  refine ⟨fun q r hr => ?_, fun r' hr' => ?_⟩
  · -- an uncommitted recipient is there from before, or its fan-out inserts it now
    obtain ⟨p, h_change⟩ := h.recipients
    obtain ⟨x, userIds, h_open, h_users, h_mem⟩ : ∃ x userIds, w.fanoutsOf q = [x] ∧
        x.userIds = some userIds ∧ r.userId ∈ userIds := by
      rcases h_change.own_origin hr with hr | ⟨rfl, x, userIds, h_own, h_users, -, h_mem⟩
      · exact hR.users q r hr
      · exact ⟨x, userIds, h_own, h_users, h_mem⟩
    rcases h.fanoutsOf h_open with ⟨x', h_open', -, h_keep⟩ | ⟨h_none, -⟩
    · exact ⟨x', userIds, h_open', h_keep userIds h_users, h_mem⟩
    · exact absurd hr (by simp [h_none])
  · obtain ⟨p, h_change⟩ := h.deliveries hS
    rcases h_change.origin Delivery.Step.keep hr' with ⟨r, hr, h_step⟩ | h_new
    · have h_key := h_step.follows.key
      simp only [Delivery.key, Prod.mk.injEq] at h_key
      obtain ⟨-, -, h_notification, -, h_channel⟩ := h_key
      obtain ⟨n, hn, h_id, h_mem⟩ := hR.channels r hr
      obtain ⟨n', hn', h_same⟩ := h.notifications_grow.mem hn
      rw [h_notification, h_channel]
      exact ⟨n', hn', h_same.id.trans h_id, h_same.channels ▸ h_mem⟩
    · obtain ⟨x, userIds, channels, channel, h_own, -, h_channels, h_notification, -, h_mem,
        h_channel⟩ := h_new.requested
      obtain ⟨n, hn, h_same⟩ := h.mem_fanouts_loaded hF (mem_fanouts_of_own h_own).1
      rw [h_notification, h_channel]
      refine ⟨n, hn, h_same.id, h_same.channels ▸ ?_⟩
      exact (mem_texts_of_mapM h_channels).mpr ⟨channel, h_mem, rfl⟩

theorem Deployment.Run.fanoutRows {clock : Instant} {directory : Directory} {ls : Schedule}
    {c : State} (h : d.Run clock directory ls c) : FanoutRows c.world := by
  have h_both : OpenFanouts d c.world ∧ FanoutRows c.world := by
    refine h.always (P := fun w => OpenFanouts d w ∧ FanoutRows w) ⟨⟨?_, ?_, ?_, ?_, ?_⟩, ?_, ?_⟩
      fun w w' hS hP hM => ⟨hM.openFanouts hS hP.1, hM.fanoutRows hS hP.1 hP.2⟩
    all_goals simp [World.initial, Table.rows, Table.own, Table.empty]
  exact h_both.2

end NotificationBroker
