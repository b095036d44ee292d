import NotificationBroker.Framework.Broadcast
import NotificationBroker.Properties.ProcessedEvents

/-!
# The system is a broadcast

`World.broadcast` forgets everything about the system but what its users see: which notifications
are accepted, which audiences they have had, and what has become of the deliveries. Identifiers,
claims, leases, attempts, events and records are gone, and so are open transactions.

Every step of every run is then a few steps of the abstract machine, most of them none
(`WorldMove.broadcast`): the commit of a creation accepts a notification, the commit of a fan-out
addresses it, and what happens to committed deliveries settles promises or leaves them waiting. So
the system inherits what holds of a broadcast (`broadcast_refined`), and in particular that no
audience is addressed in part (`audiences_wholly`).
-/

namespace NotificationBroker

open Interleave Python
open Broadcast (Fate Steps)
open ReadCommitted (Table Grows)

/-! ### The abstraction -/

/-- What has become of a delivery, as far as its user is concerned. -/
def Delivery.fate (r : Delivery) : Fate :=
  match r.status with
  | .delivered => .delivered
  | .failedTerminal => .failed
  | _ => .waiting

/-- The broadcast that the world is at the end of a run through the given states. -/
noncomputable def World.broadcast (states : List World) (w : World) :
    Broadcast.State UUID UUID String where
  channels id := (w.notifications.committed.find? fun n => n.id = id).map fun n =>
    {channel | channel ∈ n.channels}
  audiences id := {users | ∃ n ∈ w.notifications.committed, n.id = id ∧
    ∃ userIds, ResolvedIn states n userIds ∧ users = {user | user ∈ userIds}}
  fate id user channel := ((w.deliveriesOf id).find? fun r => r.pair = (user, channel)).map
    Delivery.fate

section States

variable {d : Deployment} {w w' : World} {states states' : List World} {id user : UUID}
  {channel : String}

theorem channels_eq_none :
    (w.broadcast states).channels id = none ↔ ∀ n ∈ w.notifications.committed, n.id ≠ id := by
  simp [World.broadcast]

theorem channels_of_mem (hS : Sound w) {n : Notification} (hn : n ∈ w.notifications.committed) :
    (w.broadcast states).channels n.id = some {channel | channel ∈ n.channels} := by
  have h_find : w.notifications.committed.find? (fun n' => n'.id = n.id) = some n := by
    cases h : w.notifications.committed.find? fun n' => n'.id = n.id with
    | none => exact absurd (List.find?_eq_none.mp h n hn) (by simp)
    | some n' =>
      have h_id : n'.id = n.id := by simpa using List.find?_some h
      rw [hS.committed_notification_eq (List.mem_of_find?_eq_some h) hn h_id]
  show (w.notifications.committed.find? _).map _ = _
  rw [h_find]
  rfl

theorem fate_eq_none : (w.broadcast states).fate id user channel = none ↔
    ∀ r ∈ w.deliveriesOf id, r.pair ≠ (user, channel) := by
  simp [World.broadcast]

/-- A user has one delivery of a notification on a channel, so that its fate is the user's. -/
theorem fate_of_mem (hS : Sound w) {r : Delivery} (hr : r ∈ w.deliveriesOf id)
    (h_pair : r.pair = (user, channel)) :
    (w.broadcast states).fate id user channel = some r.fate := by
  have h_find : (w.deliveriesOf id).find? (fun r' => r'.pair = (user, channel)) = some r := by
    cases h : (w.deliveriesOf id).find? fun r' => r'.pair = (user, channel) with
    | none => exact absurd (List.find?_eq_none.mp h r hr) (by simp [h_pair])
    | some r' =>
      have h_pair' : r'.pair = (user, channel) := by simpa using List.find?_some h
      have h_mem := List.mem_of_find?_eq_some h
      rw [List.inj_on_of_nodup_map (hS.deliveriesOf_nodup id) h_mem hr (h_pair'.trans h_pair.symm)]
  show ((w.deliveriesOf id).find? _).map _ = _
  rw [h_find]
  rfl

/-- What can happen to a delivery is no matter to its user, or settles it. -/
theorem Delivery.Step.fate {r r' : Delivery} (h : r.Step r') :
    r'.fate = r.fate ∨ r.fate = .waiting := by
  cases h with
  | keep => exact .inl rfl
  | claim now lease workerId token channels h_due =>
    refine .inr ?_
    rcases due_iff h_due with h | h | h | ⟨h, -⟩ <;> simp [Delivery.fate, h]
  | finalize claim outcome now retryDelay h_held =>
    exact .inr (by simp [Delivery.fate, (heldBy_iff.mp h_held).2.1])
  | replay replayId requestedAt h_failed => exact .inr (by simp [Delivery.fate, h_failed])
  | markRead readAt => exact .inl rfl

/-! ### One step of the system -/

/-- What open fan-outs have inserted are new deliveries to users that they have resolved. -/
def FanoutDeliveries (w : World) : Prop :=
  ∀ p, ∀ r ∈ w.deliveries.own p, r.Initial ∧ ∃ x userIds, w.fanoutsOf p = [x] ∧
    x.userIds = some userIds ∧ r.notificationId = x.notification.id ∧ r.userId ∈ userIds ∧
    r.channel ∈ x.notification.channels

theorem WorldMove.fanoutDeliveries (hS : Sound w) (hD : FanoutDeliveries w)
    (h : WorldMove d w w') : FanoutDeliveries w' := by
  intro q r hr
  obtain ⟨h_initial, x, userIds, h_open, h_users, h_notification, h_mem, h_channel⟩ :
      r.Initial ∧ ∃ x userIds, w.fanoutsOf q = [x] ∧ x.userIds = some userIds ∧
        r.notificationId = x.notification.id ∧ r.userId ∈ userIds ∧
        r.channel ∈ x.notification.channels := by
    obtain ⟨p, h_change⟩ := h.deliveries hS
    rcases h_change.own_origin hr with hr | ⟨rfl, h_new⟩
    · exact hD q r hr
    · obtain ⟨x, userIds, channels, channel, h_own, h_users, h_channels, h_notification, h_user,
        h_mem, h_channel⟩ := h_new.requested
      refine ⟨h_new.initial, x, userIds, h_own, h_users, h_notification, h_user, ?_⟩
      rw [h_channel]
      exact (mem_texts_of_mapM h_channels).mpr ⟨channel, h_mem, rfl⟩
  -- an open fan-out goes on, or it ends and its uncommitted rows with it
  rcases h.fanoutsOf h_open with ⟨x', h_open', h_same, h_keep⟩ | ⟨-, h_none⟩
  · exact ⟨h_initial, x', userIds, h_open', h_keep userIds h_users, h_same ▸ h_notification, h_mem,
      h_same ▸ h_channel⟩
  · exact absurd hr (by simp [h_none])

/-- A new delivery waits. -/
theorem Delivery.Initial.fate {r : Delivery} (h : r.Initial) : r.fate = .waiting := by
  obtain ⟨notificationId, userId, recipientId, channel, nextAttemptAt, h_row⟩ := h
  rw [h_row]
  rfl

/-- What is requested is final. -/
theorem WorldMove.channels_final (hS : Sound w) (hS' : Sound w') (h : WorldMove d w w')
    (id : UUID) : (w.broadcast states).channels id = none ∨
      (w'.broadcast states').channels id = (w.broadcast states).channels id := by
  by_cases h_known : ∃ n ∈ w.notifications.committed, n.id = id
  · obtain ⟨n, hn, rfl⟩ := h_known
    obtain ⟨n', hn', h_same⟩ := h.notifications_grow.mem hn
    refine .inr ?_
    rw [channels_of_mem hS hn, ← h_same.id, channels_of_mem hS' hn', h_same.channels]
  · exact .inl (channels_eq_none.mpr fun n hn h_id => h_known ⟨n, hn, h_id⟩)

/-- An audience that a notification has had remains one. -/
theorem WorldMove.audiences_grow (h : WorldMove d w w') (id : UUID) :
    (w.broadcast states).audiences id ⊆ (w'.broadcast (states ++ [w])).audiences id := by
  rintro users ⟨n, hn, h_id, userIds, h_resolved, rfl⟩
  obtain ⟨n', hn', h_same⟩ := h.notifications_grow.mem hn
  exact ⟨n', hn', h_same.id.trans h_id, userIds, (h_resolved.congr h_same).mono _, rfl⟩

/-- The commit of a fan-out: everyone it has resolved and who had no delivery has one now, and
nobody else. -/
theorem FanoutCommit.fate {p : Pid} {x : Fanout} {userIds : List UUID} (hS : Sound w)
    (hS' : Sound w') (hD : FanoutDeliveries w) (h : FanoutCommit d p x userIds w w') :
    (w'.broadcast states').fate = (w.broadcast states).promise x.notification.id
      {userId | userId ∈ userIds} {channel | channel ∈ x.notification.channels} := by
  have h_committed : w'.deliveries.committed = w.deliveries.committed ++ w.deliveries.own p := by
    rw [h.deliveries, Table.committed_commit]
  -- the rows of the fan-out are the ones that are promised
  have h_new : ∀ r ∈ w.deliveries.own p, r.fate = .waiting ∧
      r.notificationId = x.notification.id ∧ r.userId ∈ userIds ∧
      r.channel ∈ x.notification.channels := by
    intro r hr
    obtain ⟨h_initial, x', userIds', h_open, h_users, h_row⟩ := hD p r hr
    obtain rfl := List.singleton_inj.mp (h.own.symm.trans h_open)
    obtain rfl := Option.some.inj (h.users.symm.trans h_users)
    exact ⟨h_initial.fate, h_row⟩
  funext id user channel
  cases h_before : (w.broadcast states).fate id user channel with
  | some fate =>
    -- an old row
    have h_some : (w.broadcast states).fate id user channel ≠ none := by simp [h_before]
    rw [Ne, fate_eq_none] at h_some
    push Not at h_some
    obtain ⟨r, hr, h_pair⟩ := h_some
    have hr' : r ∈ w'.deliveriesOf id := by
      obtain ⟨h_mem, h_id⟩ := World.mem_deliveriesOf.mp hr
      exact World.mem_deliveriesOf.mpr ⟨h_committed ▸ List.mem_append_left _ h_mem, h_id⟩
    rw [Broadcast.State.promise, if_neg (by simp [h_before]), fate_of_mem hS' hr' h_pair,
      fate_of_mem hS hr h_pair]
  | none =>
    have h_old := fate_eq_none.mp h_before
    rw [Broadcast.State.promise]
    split
    next h_promised =>
      obtain ⟨rfl, h_user, h_channel, -⟩ := h_promised
      obtain ⟨r, hr, rfl, rfl⟩ := h.covers_pairs user h_user channel h_channel
      obtain ⟨h_mem, h_id⟩ := World.mem_deliveriesOf.mp hr
      rw [fate_of_mem hS' hr rfl]
      rw [h_committed] at h_mem
      rcases List.mem_append.mp h_mem with h_mem | h_mem
      · exact absurd rfl (h_old r (World.mem_deliveriesOf.mpr ⟨h_mem, h_id⟩))
      · rw [(h_new r h_mem).1]
    next h_not =>
      rw [h_before]
      refine fate_eq_none.mpr fun r hr h_pair => ?_
      obtain ⟨h_mem, h_id⟩ := World.mem_deliveriesOf.mp hr
      rw [h_committed] at h_mem
      rcases List.mem_append.mp h_mem with h_mem | h_mem
      · exact h_old r (World.mem_deliveriesOf.mpr ⟨h_mem, h_id⟩) h_pair
      · obtain ⟨-, h_notification, h_user, h_channel⟩ := h_new r h_mem
        obtain ⟨rfl, rfl⟩ := Prod.mk.inj h_pair
        exact h_not ⟨h_id.symm.trans h_notification, h_user, h_channel, h_before⟩

/-- Every other step settles deliveries, or leaves them as they are. -/
theorem FanoutIdle.fate (states states' : List World) (hS : Sound w) (hS' : Sound w')
    (hM : WorldMove d w w') (h : FanoutIdle w w') (id user : UUID) (channel : String) :
    (w'.broadcast states').fate id user channel = (w.broadcast states).fate id user channel ∨
      ((w.broadcast states).fate id user channel = some .waiting ∧
        (w'.broadcast states').fate id user channel ≠ none) := by
  by_cases h_known : ∃ r ∈ w.deliveriesOf id, r.pair = (user, channel)
  · obtain ⟨r, hr, h_pair⟩ := h_known
    obtain ⟨h_mem, h_id⟩ := World.mem_deliveriesOf.mp hr
    obtain ⟨p, h_change⟩ := hM.deliveries hS
    obtain ⟨r', hr', h_step⟩ := (h_change.grows Delivery.Step.keep).mem h_mem
    have h_key := h_step.follows.key
    simp only [Delivery.key, Prod.mk.injEq] at h_key
    obtain ⟨-, -, h_notification, h_user, h_channel⟩ := h_key
    have hr' : r' ∈ w'.deliveriesOf id :=
      World.mem_deliveriesOf.mpr ⟨hr', h_notification.trans h_id⟩
    have h_pair' : r'.pair = (user, channel) := (Prod.ext h_user h_channel : r'.pair = r.pair).trans
      h_pair
    rw [fate_of_mem hS hr h_pair, fate_of_mem hS' hr' h_pair']
    rcases h_step.fate with h_same | h_waiting
    · exact .inl (congrArg some h_same)
    · exact .inr ⟨congrArg some h_waiting, by simp⟩
  · -- no row is inserted
    have h_none : (w.broadcast states).fate id user channel = none :=
      fate_eq_none.mpr fun r hr h_pair => h_known ⟨r, hr, h_pair⟩
    refine .inl ?_
    rw [h_none]
    refine fate_eq_none.mpr fun r' hr' h_pair => h_known ?_
    obtain ⟨h_mem, h_id⟩ := World.mem_deliveriesOf.mp hr'
    obtain ⟨r, hr, h_key⟩ := List.mem_map.mp (h.deliveries ▸ List.mem_map_of_mem h_mem)
    simp only [Delivery.key, Prod.mk.injEq] at h_key
    obtain ⟨-, -, h_notification, h_user, h_channel⟩ := h_key
    exact ⟨r, World.mem_deliveriesOf.mpr ⟨hr, h_notification.trans h_id⟩,
      (Prod.ext h_user h_channel : r.pair = r'.pair).trans h_pair⟩

/-- **One step of the system** is some steps of the broadcast. -/
theorem WorldMove.broadcast (hS : Sound w) (hS' : Sound w') (hF : OpenFanouts d w)
    (hO : Origins states w) (hD : FanoutDeliveries w) (h : WorldMove d w w') :
    Steps (w.broadcast states) (w'.broadcast (states ++ [w])) := by
  let s' := w'.broadcast (states ++ [w])
  have h_fate : Broadcast.Step
      ⟨s'.channels, (w.broadcast states).audiences, (w.broadcast states).fate⟩
      ⟨s'.channels, (w.broadcast states).audiences, s'.fate⟩ := by
    rcases h.fanout_cases with ⟨p, x, userIds, -, h_commit⟩ | h_idle
    · -- the notification of the fan-out, and the audience it has resolved
      have hx := (mem_fanouts_of_own h_commit.own).1
      obtain ⟨n, hn, h_same⟩ := hF.loaded x hx
      obtain ⟨n', hn', h_same'⟩ := h.mem_fanouts_loaded hF hx
      have h_new : s'.fate = (w.broadcast states).promise x.notification.id
          {userId | userId ∈ userIds} {channel | channel ∈ x.notification.channels} :=
        h_commit.fate hS hS' hD
      rw [h_new]
      refine .address x.notification.id {userId | userId ∈ userIds}
        {channel | channel ∈ x.notification.channels} ?_ ?_
      · show s'.channels x.notification.id = _
        rw [← h_same'.id, channels_of_mem hS' hn', h_same'.channels]
      · exact ⟨n, hn, h_same.id, userIds, (hO.resolved x hx userIds h_commit.users).congr h_same,
          rfl⟩
    · exact .settle _ (h_idle.fate states (states ++ [w]) hS hS' h)
  have h_observe : Broadcast.Step
      ⟨s'.channels, (w.broadcast states).audiences, s'.fate⟩ s' := by
    refine .observe s'.audiences h.audiences_grow fun id h_none => ?_
    -- without a notification there is no audience
    have h_none' : (w'.broadcast (states ++ [w])).channels id = none := h_none
    have h_unknown := channels_eq_none.mp h_none'
    ext users
    constructor
    · rintro ⟨n, hn, h_id, -⟩
      exact absurd h_id (h_unknown n hn)
    · rintro ⟨n, hn, h_id, -⟩
      obtain ⟨n', hn', h_same⟩ := h.notifications_grow.mem hn
      exact absurd (h_same.id.trans h_id) (h_unknown n' hn')
  exact .head (.accept _ (h.channels_final hS hS')) (.head h_fate (.single h_observe))

end States

/-! ### Whole runs -/

section Runs

variable {d : Deployment} {clock : Instant} {directory : Directory} {ls ls' : Schedule}
  {c c' : State}

/-- What the steps of a run add up to. -/
structure Broadcasts (d : Deployment) (s : Broadcast.State UUID UUID String)
    (states : List World) (w : World) : Prop where
  fanouts : OpenFanouts d w
  origins : Origins states w
  deliveries : FanoutDeliveries w
  steps : Steps s (w.broadcast states)

theorem WorldMove.broadcasts {s : Broadcast.State UUID UUID String} {states : List World}
    {w w' : World} (hS : Sound w) (hS' : Sound w') (hB : Broadcasts d s states w)
    (h : WorldMove d w w') : Broadcasts d s (states ++ [w]) w' where
  fanouts := h.openFanouts hS hB.fanouts
  origins := h.origins hB.fanouts hB.origins
  deliveries := h.fanoutDeliveries hS hB.deliveries
  steps := hB.steps.trans (h.broadcast hS hS' hB.fanouts hB.origins hB.deliveries)

/-- Before the first step nothing has been accepted. -/
theorem broadcast_initial : (World.initial clock directory).broadcast [] = .start := by
  unfold World.broadcast Broadcast.State.start
  congr 1
  funext id
  simp [World.initial]

theorem Deployment.Run.broadcasts (h : d.Run clock directory ls c) :
    Broadcasts d .start (d.states clock directory ls) c.world := by
  refine h.collected (f := fun w _ => [w]) (P := Broadcasts d .start) ⟨⟨?_, ?_, ?_, ?_, ?_⟩,
    ⟨?_, ?_⟩, ?_, ?_⟩ fun states w w' hS hS' hB hM => hM.broadcasts hS hS' hB
  case refine_9 => exact broadcast_initial ▸ .refl
  all_goals simp [World.initial, Table.rows, Table.own, Table.empty, FanoutDeliveries]

/-- The states of a run are those of its parts. -/
theorem Deployment.states_append (h : d.Run clock directory ls c) :
    d.states clock directory (ls ++ ls') =
      d.states clock directory ls ++ surroundings.collect (fun w _ => [w]) c ls' :=
  Machine.collect_append h

/-- **The system refines the broadcast.** Whatever calls overlap or crash, and however users,
groups and labels change: every run from the empty database, and every part of a run, is a run of
the abstract machine, between what the users see at its beginning and at its end. -/
theorem broadcast_refined (h : d.Run clock directory ls c)
    (h' : surroundings.run c ls' = some c') :
    Steps .start (c.world.broadcast (d.states clock directory ls)) ∧
      Steps (c.world.broadcast (d.states clock directory ls))
        (c'.world.broadcast (d.states clock directory (ls ++ ls'))) := by
  have hB := h.broadcasts
  have h_part := h.verified.collected (contract_discipline d) (f := fun w _ => [w])
    (P := Broadcasts d (c.world.broadcast (d.states clock directory ls)))
    (fun states w w' hS hS' hB hM => WorldMove.broadcasts hS hS' hB hM)
    { hB with steps := .refl } h'
  rw [Deployment.states_append h]
  exact ⟨hB.steps, h_part.steps⟩

/-- The request is accepted in the first part of the run, and sent in the second. -/
theorem broadcast_refined_leaver :
    ∃ c c', leaverDeployment.Run 0 (.ofUsers [1] (by decide)) (leaverSchedule.take 4) c ∧
      surroundings.run c (leaverSchedule.drop 4) = some c' ∧
      c.world.deliveries.committed = [] ∧ c'.world.deliveries.committed ≠ [] ∧
      Steps (c.world.broadcast (leaverDeployment.states 0 (.ofUsers [1] (by decide))
          (leaverSchedule.take 4)))
        (c'.world.broadcast (leaverDeployment.states 0 (.ofUsers [1] (by decide))
          leaverSchedule)) := by
  obtain ⟨c, h_run, h⟩ := leaverDeployment.exists_run 0 (.ofUsers [1] (by decide))
    (leaverSchedule.take 4) (fun c => decide (c.world.deliveries.committed = []) &&
      match surroundings.run c (leaverSchedule.drop 4) with
      | some c' => decide (c'.world.deliveries.committed ≠ [])
      | none => false) (by decide +kernel)
  obtain ⟨h_none, h_rest⟩ := Bool.and_eq_true_iff.mp h
  split at h_rest
  next c' h_run' =>
    exact ⟨c, c', h_run, h_run', of_decide_eq_true h_none, of_decide_eq_true h_rest,
      (broadcast_refined h_run h_run').2⟩
  next => exact absurd h_rest (by simp)

/-- **No audience is served in part.** In every state of every run, if a user has a delivery of a
notification, it is on a channel that the notification requests, and at some earlier moment the
user was in the audience of the notification, of which everyone now has a delivery on every
channel that it requests. -/
theorem audiences_wholly (h : d.Run clock directory ls c) {r : Delivery}
    (hr : r ∈ c.world.deliveries.committed) :
    ∃ n ∈ c.world.notifications.committed, n.id = r.notificationId ∧ r.channel ∈ n.channels ∧
      ∃ ls₀ ls₁ c₀ userIds, ls = ls₀ ++ ls₁ ∧ d.Run clock directory ls₀ c₀ ∧
        (∃ n₀ ∈ c₀.world.notifications.committed, n₀.id = n.id) ∧
        c₀.world.directory.audienceOf n = .ok userIds ∧ r.userId ∈ userIds ∧
        ∀ userId ∈ userIds, ∀ channel ∈ n.channels,
          ∃ r' ∈ c.world.deliveriesOf n.id, r'.pair = (userId, channel) := by
  have hS := h.sound
  have h_mem : r ∈ c.world.deliveriesOf r.notificationId := World.mem_deliveriesOf.mpr ⟨hr, rfl⟩
  -- the abstract broadcast has decided to send this delivery
  have h_fate : (c.world.broadcast (d.states clock directory ls)).fate _ _ _ = _ :=
    fate_of_mem hS h_mem rfl
  -- so it has decided for a whole audience and all channels
  obtain ⟨⟨channels, h_channels, h_channel⟩, users, ⟨h_audience, channels', h_channels', h_all⟩,
    h_user⟩ := Broadcast.Complete.steps h.broadcasts.steps r.notificationId r.userId r.channel
      (by simp [h_fate])
  obtain ⟨n, hn, h_id, userIds, ⟨w, h_w, h_known, h_resolved⟩, rfl⟩ := h_audience
  rw [← h_id, channels_of_mem hS hn] at h_channels h_channels'
  obtain rfl := Option.some.inj h_channels
  obtain rfl := Option.some.inj h_channels'
  -- back to the run: the audience is one of an earlier state, and a fate is a row
  obtain ⟨ls₀, ls₁, c₀, h_split, h_run, rfl⟩ := Deployment.mem_states h_w
  refine ⟨n, hn, h_id, h_channel, ls₀, ls₁, c₀, userIds, h_split, h_run, h_known, h_resolved,
    h_user, fun userId h_userId channel h_mem => ?_⟩
  have h_some := h_all userId h_userId channel h_mem
  rw [Ne, fate_eq_none] at h_some
  push Not at h_some
  exact h_id ▸ h_some

/-- A request to everyone, and two consumers of its event. -/
def joinedDeployment : Deployment := .ofCalls id [
  .createNotification ⟨3600000000⟩ "orders" (.toAll [.web] postInit_web) none,
  .consume {} "consumer" (.requested 11 10),
  .consume {} "consumer" (.requested 11 10)]

/-- The first consumer dies with half of its rows, a user joins, and the second one starts anew. -/
def joinedSchedule : Schedule := [
  .run 0 (.time (.ofInstant 0)), .run 0 .go, .run 0 (.fresh 10), .run 0 (.fresh 11),
  .run 1 .go, .run 1 (.time (.ofInstant 0)), .run 1 .go, .run 1 .go, .run 1 .go,
  .run 1 (.fresh 21), .run 1 (.fresh 22), .run 1 .go, .run 1 .go, .run 1 (.fresh 23),
  .crash 1, .env (.setDirectory (.ofUsers [1, 2, 3] (by decide))),
  .run 2 .go, .run 2 (.time (.ofInstant 5)), .run 2 .go, .run 2 .go, .run 2 .go,
  .run 2 (.fresh 24), .run 2 (.fresh 25), .run 2 (.fresh 26), .run 2 .go, .run 2 .go,
  .run 2 (.fresh 27), .run 2 (.fresh 28), .run 2 (.fresh 29), .run 2 .go, .run 2 .go]

theorem audiences_wholly_joined :
    ∃ c, joinedDeployment.Run 0 (.ofUsers [1, 2] (by decide)) joinedSchedule c ∧
      ∃ r ∈ c.world.deliveries.committed, r.userId = 3 ∧
      ∃ userIds : List UUID, r.userId ∈ userIds ∧
      ∀ userId ∈ userIds, ∃ r' ∈ c.world.deliveries.committed, r'.userId = userId := by
  obtain ⟨c, h_run, h⟩ := joinedDeployment.exists_run 0 (.ofUsers [1, 2] (by decide))
    joinedSchedule (fun c => decide (∃ r ∈ c.world.deliveries.committed, r.userId = 3))
    (by decide +kernel)
  obtain ⟨r, hr, h_user⟩ := of_decide_eq_true h
  obtain ⟨n, -, -, h_channel, -, -, -, userIds, -, -, -, -, h_mem, h_all⟩ :=
    audiences_wholly h_run hr
  refine ⟨c, h_run, r, hr, h_user, userIds, h_mem, fun userId h_userId => ?_⟩
  obtain ⟨r', hr', h_pair⟩ := h_all userId h_userId r.channel h_channel
  exact ⟨r', (World.mem_deliveriesOf.mp hr').1, congrArg Prod.fst h_pair⟩

end Runs

end NotificationBroker
