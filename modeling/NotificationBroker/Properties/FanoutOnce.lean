import NotificationBroker.Properties.FanoutRows

/-!
# Fan-outs create every row once

As long as users, groups and labels stay as they are, the audience of a
notification is the same whenever it is resolved: by a record that is delivered
again, by a replay, by consumers that overlap or that take over after a crash. Every
row such a fan-out inserts is for that audience (`OneAudience.users`), and once one
of them has committed, no row is missing (`OneAudience.complete`). The unique indexes
rule out that one is there twice.

So after the first commit the rows of a notification are exactly one for each user
and one for each user and requested channel, and what comes later finds nothing to
create (`fanout_once`).
-/

namespace NotificationBroker

open Interleave Python
open ReadCommitted (Table Grows)
open NotificationFanoutService (audienceSelection)

/-- The users that a fan-out of `n` resolves. -/
def Directory.audienceOf (directory : Directory) (n : Notification) :
    Except PyError (List UUID) := do
  let audience ← audienceSelection n
  directory.resolve audience

/-- All rows of fan-outs are for the audience the directory resolves. -/
structure OneAudience (directory : Directory) (w : World) : Prop where
  unchanged : w.directory = directory
  resolved : ∀ x ∈ w.fanouts, ∀ userIds, x.userIds = some userIds →
    directory.audienceOf x.notification = .ok userIds
  users : ∀ r ∈ w.recipients.rows, ∃ n ∈ w.notifications.committed, n.id = r.notificationId ∧
    ∃ userIds, directory.audienceOf n = .ok userIds ∧ r.userId ∈ userIds
  complete : ∀ p id, .fanoutCommitted p id ∈ w.history →
    ∃ n ∈ w.notifications.committed, n.id = id ∧
      ∃ userIds, directory.audienceOf n = .ok userIds ∧
        (∀ userId ∈ userIds, ∃ r ∈ w.recipientsOf id, r.userId = userId) ∧
        ∀ userId ∈ userIds, ∀ channel ∈ n.channels,
          ∃ r ∈ w.deliveriesOf id, r.pair = (userId, channel)

/-- Users, groups and labels stay as they are. -/
def SameDirectory (w w' : World) : Prop := w'.directory = w.directory

instance (w w' : World) : Decidable (SameDirectory w w') := by
  unfold SameDirectory; infer_instance

section Moves

variable {d : Deployment} {p : Pid} {w w' : World} {directory : Directory}

/-- The audience is part of the request. -/
theorem audienceOf_congr {n n' : Notification} (h : n.SameRequest n') (directory : Directory) :
    directory.audienceOf n' = directory.audienceOf n := by
  have h_request : n'.request = n.request := h
  have h_selection : audienceSelection n' = audienceSelection n := by
    rw [show audienceSelection n' = audienceSelection n'.request from rfl, h_request]
    rfl
  rw [Directory.audienceOf, h_selection]
  rfl

theorem audienceOf_nodup {n : Notification} {userIds : List UUID}
    (h : directory.audienceOf n = .ok userIds) : userIds.Nodup := by
  unfold Directory.audienceOf at h
  cases h_audience : audienceSelection n with
  | error e => rw [h_audience] at h; exact absurd h (by simp [bind, Except.bind])
  | ok audience =>
    rw [h_audience] at h
    exact Directory.resolve_nodup (h :)

/-- One step under an unchanged directory. -/
theorem WorldMove.oneAudience (hS : Sound w) (hF : OpenFanouts d w)
    (hA : OneAudience directory w) (h : WorldMove d w w') (h_const : SameDirectory w w') :
    OneAudience directory w' := by
  refine ⟨h_const.trans hA.unchanged, fun x' hx' userIds h_users => ?_, fun r hr => ?_,
    fun p id h_event => ?_⟩
  · cases h.fanout_origin hx' with
    | kept x h_mem _ h_notification h_same =>
      rw [h_notification]
      exact hA.resolved x h_mem userIds (h_same ▸ h_users)
    | resolved x audience ids h_mem _ h_notification h_audience h_resolved h_ids =>
      obtain rfl := Option.some.inj (h_ids.symm.trans h_users)
      rw [h_notification, Directory.audienceOf, h_audience]
      exact hA.unchanged ▸ h_resolved
    | opened _ _ h_none => exact absurd (h_none.symm.trans h_users) (by simp)
  · obtain ⟨p, h_change⟩ := h.recipients
    rcases h_change.origin (fun _ => rfl) hr with
      ⟨r', hr', rfl⟩ | ⟨x, userIds, h_own, h_users, h_row, h_user⟩
    · obtain ⟨n, hn, h_id, userIds, h_audience, h_user⟩ := hA.users r' hr'
      obtain ⟨n', hn', h_same⟩ := h.notifications_grow.mem hn
      rw [← audienceOf_congr h_same] at h_audience
      exact ⟨n', hn', h_same.id.trans h_id, userIds, h_audience, h_user⟩
    · -- the row of an open fan-out is for a user it has resolved
      have hx := (mem_fanouts_of_own h_own).1
      obtain ⟨n, hn, h_same⟩ := h.mem_fanouts_loaded hF hx
      have h_audience := hA.resolved x hx userIds h_users
      rw [← audienceOf_congr h_same] at h_audience
      exact ⟨n, hn, h_same.id.trans h_row.symm, userIds, h_audience, h_user⟩
  · rcases h.mem_history h_event with h_old | h_new
    · obtain ⟨n, hn, h_id, userIds, h_audience, h_recipients, h_deliveries⟩ :=
        hA.complete p id h_old
      obtain ⟨n', hn', h_same⟩ := h.notifications_grow.mem hn
      rw [← audienceOf_congr h_same] at h_audience
      refine ⟨n', hn', h_same.id.trans h_id, userIds, h_audience, fun userId h_user => ?_,
        fun userId h_user channel h_channel => ?_⟩
      · obtain ⟨r, hr, h_r⟩ := h_recipients userId h_user
        exact ⟨r, h.recipientsOf_kept hr, h_r⟩
      · rw [h_same.channels] at h_channel
        obtain ⟨r, hr, h_r⟩ := h_deliveries userId h_user channel h_channel
        obtain ⟨r', hr', h_pair⟩ := h.deliveriesOf_kept hS hr
        exact ⟨r', hr', h_pair.trans h_r⟩
    · rcases h.fanout_cases with ⟨q, x, userIds, h_events, h_commit⟩ | h_idle
      · rw [h_events, List.mem_singleton] at h_new
        obtain ⟨-, rfl⟩ := Event.fanoutCommitted.inj h_new
        have hx := (mem_fanouts_of_own h_commit.own).1
        obtain ⟨n, hn, h_same⟩ := h.mem_fanouts_loaded hF hx
        have h_audience := hA.resolved x hx userIds h_commit.users
        rw [← audienceOf_congr h_same] at h_audience
        refine ⟨n, hn, h_same.id, userIds, h_audience, h_commit.covers_users,
          fun userId h_user channel h_channel => ?_⟩
        rw [h_same.channels] at h_channel
        obtain ⟨r, hr, h_user', h_channel'⟩ := h_commit.covers_pairs userId h_user channel h_channel
        exact ⟨r, hr, Prod.ext h_user' h_channel'⟩
      · exact absurd h_new (h_idle.silent p id)

/-- A consumer's step only adds deliveries. -/
theorem Acts.deliveries_extend (h : Acts d p w w') (h_call : (d.calls p).part = .consumer) :
    w.deliveries.committed <+: w'.deliveries.committed := by
  have h_not : ∀ {part : Part}, (d.calls p).part = part → part = .consumer := fun h_part =>
    h_part.symm.trans h_call
  -- the effects that change a delivery are those of other parts
  cases h with
  | effect h =>
    cases h with
    | commitFanout => exact List.prefix_append _ _
    | claimDeliveries now lease workerId channels tokens claims _ _ _ h_part =>
      exact absurd (h_not h_part) (by decide)
    | finalizeDelivery x outcome now retryDelay delivery attemptId _ _ _ _ _ _ _ _ h_part =>
      exact absurd (h_not h_part) (by decide)
    | markRead deliveryId readAt _ h_part => exact absurd (h_not h_part) (by decide)
    | _ => exact List.prefix_rfl
  | finish h =>
    cases h with
    | commitNotification => exact List.prefix_rfl
    | commitRetry requester notificationId eligible skipped requestedAt replayId eventId
        invocationId _ _ h_part => exact absurd (h_not h_part) (by decide)

end Moves

section Runs

variable {d : Deployment} {clock : Instant} {directory : Directory} {ls ls' : Schedule}
  {c c' : State}

theorem Deployment.Run.oneAudience (h : d.Run clock directory ls c)
    (h_const : surroundings.StepsMeet SameDirectory (d.start clock directory) ls) :
    OneAudience directory c.world := by
  have h_both : OpenFanouts d c.world ∧ OneAudience directory c.world := by
    refine h.invariant (P := fun w => OpenFanouts d w ∧ OneAudience directory w)
      ⟨⟨?_, ?_, ?_, ?_, ?_⟩, rfl, ?_, ?_, ?_⟩
      (fun w w' hS hP hM h_const => ⟨WorldMove.openFanouts hS hP.1 hM,
        WorldMove.oneAudience hS hP.1 hP.2 hM h_const⟩) h_const
    all_goals simp [World.initial, Table.rows, Table.own, Table.empty]
  exact h_both.2

/-- The rows of a notification that has been fanned out to `userIds`: one for each
of them, and one for each of them and each requested channel. -/
structure FannedOut (w : World) (n : Notification) (userIds : List UUID) : Prop where
  committed : n ∈ w.notifications.committed
  recipients : ((w.recipientsOf n.id).map Recipient.userId).Perm userIds
  deliveries_nodup : ((w.deliveriesOf n.id).map Delivery.pair).Nodup
  deliveries : ∀ userId channel, (userId, channel) ∈ (w.deliveriesOf n.id).map Delivery.pair ↔
    userId ∈ userIds ∧ channel ∈ n.channels

/-- **After its first fan-out** a notification has exactly the rows of its audience. -/
theorem Deployment.Run.fannedOut (h : d.Run clock directory ls c)
    (h_const : surroundings.StepsMeet SameDirectory (d.start clock directory) ls)
    {p : Pid} {id : UUID} (h_event : .fanoutCommitted p id ∈ c.world.history) :
    ∃ n userIds, n.id = id ∧ directory.audienceOf n = .ok userIds ∧
      FannedOut c.world n userIds := by
  have hA := h.oneAudience h_const
  have hS := h.sound
  obtain ⟨n, hn, rfl, userIds, h_audience, h_users, h_pairs⟩ := hA.complete p id h_event
  -- two committed notifications with one identifier are one
  have h_one : ∀ n' ∈ c.world.notifications.committed, n'.id = n.id → n' = n := fun n' hn' h_id =>
    hS.committed_notification_eq hn' hn h_id
  -- a recipient of the notification is in its audience
  have h_user : ∀ r ∈ c.world.recipientsOf n.id, r.userId ∈ userIds := by
    intro r hr
    obtain ⟨h_mem, h_notification⟩ := World.mem_recipientsOf.mp hr
    obtain ⟨n', hn', h_id, userIds', h_audience', h_user⟩ :=
      hA.users r (Table.mem_rows_of_committed h_mem)
    obtain rfl := h_one n' hn' (h_id.trans h_notification)
    obtain rfl := Except.ok.inj (h_audience'.symm.trans h_audience)
    exact h_user
  refine ⟨n, userIds, rfl, h_audience, hn, ?_, hS.deliveriesOf_nodup n.id, fun userId channel =>
    ⟨fun h_pair => ?_, fun ⟨h_mem, h_channel⟩ => ?_⟩⟩
  · refine (List.perm_ext_iff_of_nodup (hS.recipientsOf_nodup n.id)
      (audienceOf_nodup h_audience)).mpr fun userId => ⟨fun h_mem => ?_, fun h_mem => ?_⟩
    · obtain ⟨r, hr, rfl⟩ := List.mem_map.mp h_mem
      exact h_user r hr
    · obtain ⟨r, hr, h_r⟩ := h_users userId h_mem
      exact List.mem_map.mpr ⟨r, hr, h_r⟩
  · obtain ⟨r, hr, h_r⟩ := List.mem_map.mp h_pair
    obtain ⟨rfl, rfl⟩ := Prod.mk.inj h_r
    obtain ⟨h_mem, h_notification⟩ := World.mem_deliveriesOf.mp hr
    obtain ⟨recipient, h_recipient, h_belongs⟩ := hS.grounded.committed r h_mem
    obtain ⟨n', hn', h_id, h_channel⟩ := h.fanoutRows.channels r (Table.mem_rows_of_committed h_mem)
    obtain rfl := h_one n' hn' (h_id.trans h_notification)
    refine ⟨h_belongs.user ▸ h_user recipient ?_, h_channel⟩
    exact World.mem_recipientsOf.mpr ⟨h_recipient, h_belongs.notification.trans h_notification⟩
  · obtain ⟨r, hr, h_r⟩ := h_pairs userId h_mem channel h_channel
    exact List.mem_map.mpr ⟨r, hr, h_r⟩

/-- The recipients of a notification, and the keys of its deliveries, only get more. -/
theorem Deployment.Run.fanout_grows (h : d.Run clock directory ls c)
    (h' : surroundings.run c ls' = some c') (notificationId : UUID) :
    c.world.recipientsOf notificationId <+: c'.world.recipientsOf notificationId ∧
      (c.world.deliveriesOf notificationId).map Delivery.key <+:
        (c'.world.deliveriesOf notificationId).map Delivery.key := by
  have h_rows := (h.recipients_grow h').map_le (f := id) fun h_eq => h_eq.symm
  rw [List.map_id, List.map_id] at h_rows
  have h_keys := (h.deliveries_follow h').map_le (f := Delivery.key) fun h_follows => h_follows.key
  -- the notification is part of the key, which never changes
  have h_filter : ∀ rows : List Delivery,
      (rows.filter fun r => r.notificationId = notificationId).map Delivery.key =
        (rows.map Delivery.key).filter fun key => key.2.2.1 = notificationId := by
    intro rows
    rw [List.filter_map]
    rfl
  refine ⟨h_rows.filter _, ?_⟩
  unfold World.deliveriesOf
  rw [h_filter, h_filter]
  exact h_keys.filter _

/-- **Later fan-outs create nothing.** -/
theorem Deployment.Run.fanout_final (h : d.Run clock directory ls c)
    (h_const : surroundings.StepsMeet SameDirectory (d.start clock directory) ls)
    {p : Pid} {id : UUID} (h_event : .fanoutCommitted p id ∈ c.world.history)
    (h' : surroundings.run c ls' = some c')
    (h_const' : surroundings.StepsMeet SameDirectory c ls') :
    c'.world.recipientsOf id = c.world.recipientsOf id ∧
      (c'.world.deliveriesOf id).map Delivery.key = (c.world.deliveriesOf id).map Delivery.key := by
  -- both states have exactly the rows of the audience, and the earlier rows are still there
  have h_later : d.Run clock directory (ls ++ ls') c' := Machine.run_trans h h'
  have h_event' : .fanoutCommitted p id ∈ c'.world.history :=
    (h.history_extends h').subset h_event
  obtain ⟨n, userIds, rfl, h_audience, h_rows⟩ := h.fannedOut h_const h_event
  obtain ⟨n', userIds', h_id, h_audience', h_rows'⟩ :=
    h_later.fannedOut (h_const.append h h_const') h_event'
  obtain ⟨m, hm, h_same⟩ := (h.notifications_grow h').mem h_rows.committed
  obtain rfl : m = n' := h_later.sound.committed_notification_eq hm h_rows'.committed
    (h_same.id.trans h_id.symm)
  rw [audienceOf_congr h_same, h_audience] at h_audience'
  obtain rfl := Except.ok.inj h_audience'
  obtain ⟨h_recipients, h_deliveries⟩ := h.fanout_grows h' n.id
  constructor
  · have h_length := (h_rows.recipients.trans (h_id ▸ h_rows'.recipients).symm).length_eq
    rw [List.length_map, List.length_map] at h_length
    exact (h_recipients.eq_of_length h_length).symm
  · have h_pairs : ((c.world.deliveriesOf n.id).map Delivery.pair).Perm
        ((c'.world.deliveriesOf n.id).map Delivery.pair) := by
      refine (List.perm_ext_iff_of_nodup h_rows.deliveries_nodup
        (h_id ▸ h_rows'.deliveries_nodup)).mpr fun ⟨userId, channel⟩ => ?_
      rw [h_rows.deliveries, ← h_id, h_rows'.deliveries, h_same.channels]
    have h_length := h_pairs.length_eq
    rw [List.length_map, List.length_map] at h_length
    refine (h_deliveries.eq_of_length ?_).symm
    rw [List.length_map, List.length_map, h_length]

/-- A step of a consumer, or its crash, leaves every delivery that is there alone. -/
theorem Deployment.Run.consumer_step (h : d.Run clock directory ls c) {p : Pid}
    {l : Label Pid Choice EnvMove} (h_call : (d.calls p).part = .consumer)
    (h_label : l = .crash p ∨ ∃ i, l = .run p i) (h_step : surroundings.step c l = some c') :
    c.world.deliveries.committed <+: c'.world.deliveries.committed := by
  rcases h_label with rfl | ⟨i, rfl⟩
  · obtain ⟨β, f, k, -, rfl⟩ := Machine.step_crash h_step
    exact List.prefix_rfl
  · exact (h.act h_step).deliveries_extend h_call

/-- The lookup of a recipient's identifier never fails. -/
theorem Deployment.Run.consumer_lookup (h : d.Run clock directory ls c) {p : Pid}
    (h_call : (d.calls p).part = .consumer) : c.prog p ≠ some (.ret (.error .keyError)) := by
  intro hp
  have h_post := h.post hp
  unfold Post at h_post
  split at h_post
  case h_2 =>
    obtain ⟨r, h_eq, -, h_ne⟩ := h_post
    cases r with
    | ok b => exact absurd h_eq (by simp [Except.map])
    | error e => exact h_ne (congrArg Except.error (Except.error.inj h_eq).symm)
  all_goals
    next h_eq => rw [h_eq] at h_call; exact absurd h_call (by simp [Call.part])

/-- **Every row is created once.** With users, groups and labels unchanged, however
often the events of a notification are delivered, and whichever consumers overlap or
crash: once a fan-out of it has committed, its recipients are its audience and its
deliveries one for each of them and each requested channel, and that is final. No
step of a consumer touches a delivery that is there, and its lookup of a recipient
never fails. -/
theorem fanout_once (h : d.Run clock directory ls c)
    (h_const : surroundings.StepsMeet SameDirectory (d.start clock directory) ls) :
    (∀ p id, .fanoutCommitted p id ∈ c.world.history →
      (∃ n userIds, n.id = id ∧ directory.audienceOf n = .ok userIds ∧
        FannedOut c.world n userIds) ∧
      ∀ ls' c', surroundings.run c ls' = some c' → surroundings.StepsMeet SameDirectory c ls' →
        c'.world.recipientsOf id = c.world.recipientsOf id ∧
        (c'.world.deliveriesOf id).map Delivery.key =
          (c.world.deliveriesOf id).map Delivery.key) ∧
    (∀ p l c', (d.calls p).part = .consumer → (l = .crash p ∨ ∃ i, l = .run p i) →
      surroundings.step c l = some c' →
      c.world.deliveries.committed <+: c'.world.deliveries.committed) ∧
    ∀ p, (d.calls p).part = .consumer → c.prog p ≠ some (.ret (.error .keyError)) := by
  refine ⟨fun p id h_event => ⟨h.fannedOut h_const h_event, fun ls' c' h' h_const' => ?_⟩,
    fun p l c' h_call h_label h_step => h.consumer_step h_call h_label h_step,
    fun p h_call => h.consumer_lookup h_call⟩
  exact h.fanout_final h_const h_event h' h_const'

/-- Three consumers of one event. -/
def redeliveryDeployment : Deployment := .ofCalls id [
  .createNotification ⟨3600000000⟩ "orders" (.toAll [.web, .email] postInit_web_email) none,
  .consume {} "consumer" (.requested 11 10),
  .consume {} "consumer" (.requested 11 10),
  .consume {} "consumer" (.requested 11 10)]

/-- The first two overlap, and the first dies when it has committed; the third comes
later. -/
def redeliverySchedule : Schedule := [
  .run 0 (.time (.ofInstant 0)), .run 0 .go, .run 0 (.fresh 10), .run 0 (.fresh 11),
  .run 1 .go, .run 1 (.time (.ofInstant 5)), .run 1 .go, .run 1 .go, .run 1 .go,
  .run 2 .go, .run 2 (.time (.ofInstant 6)), .run 2 .go, .run 2 .go, .run 2 .go,
  .run 1 (.fresh 21), .run 1 .go, .run 1 .go, .run 1 (.fresh 22), .run 1 (.fresh 23),
  .run 1 .go, .run 1 .go, .crash 1,
  .run 2 (.fresh 31), .run 2 .go, .run 2 .go, .run 2 .go, .run 2 .go,
  .run 3 .go, .run 3 (.time (.ofInstant 9)), .run 3 .go, .run 3 .go, .run 3 .go,
  .run 3 .go, .run 3 .go, .run 3 .go, .run 3 .go]

/-- All three commit, and there are one recipient and two deliveries. -/
theorem fanout_once_redelivered :
    ∃ c, redeliveryDeployment.Run 0 (.ofUsers [1] (by decide)) redeliverySchedule c ∧
      (∀ p ∈ [1, 2, 3], .fanoutCommitted p 10 ∈ c.world.history) ∧
      (c.world.recipientsOf 10).length = 1 ∧ (c.world.deliveriesOf 10).length = 2 ∧
      ∃ n userIds, n.id = 10 ∧ (Directory.ofUsers [1] (by decide)).audienceOf n = .ok userIds ∧
        FannedOut c.world n userIds := by
  obtain ⟨c, h_run, h⟩ := redeliveryDeployment.exists_run 0 (.ofUsers [1] (by decide))
    redeliverySchedule
    (fun c => decide ((∀ p ∈ ([1, 2, 3] : List Pid), Event.fanoutCommitted p 10 ∈ c.world.history) ∧
      (c.world.recipientsOf 10).length = 1 ∧ (c.world.deliveriesOf 10).length = 2))
    (by decide +kernel)
  obtain ⟨h_events, h_recipients, h_deliveries⟩ := of_decide_eq_true h
  exact ⟨c, h_run, h_events, h_recipients, h_deliveries,
    ((fanout_once h_run (by decide +kernel)).1 1 10 (h_events 1 (by simp))).1⟩

end Runs

end NotificationBroker
