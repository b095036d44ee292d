import Mathlib.Data.List.ProdSigma
import NotificationBroker.Properties.FanoutCounts
import NotificationBroker.Properties.FanoutRefused

/-!
# The limits of a fan-out

The guard of a fan-out looks at the users it has resolved, not at the rows the
notification has already. When users leave the audience between two fan-outs, the rows
of the first stay and those of the second are added to them: together they can be more
than the limit (`not_limitsRows`).

What the guard does bound is each audience. `fannedAudiences` reads off the steps of a
run which audiences have been fanned out; each is within the limits of the consumer
that committed it, and together they are exactly the users and the pairs that have
rows. So the rows of a notification stay within the limits as long as one of its
audiences contains the others. A fan-out that is refused changes nothing: its program
spares the committed rows whenever it ends that way.
-/

namespace NotificationBroker

open Interleave Python
open ReadCommitted (Table Grows)

/-- No notification has more rows than the limits, if all consumers are configured
with the same. -/
def LimitsRows : Prop :=
  ∀ d clock directory ls c (limits : NotificationFanoutService),
    (∀ p service consumerName message,
      d.calls p = .consume service consumerName message → service = limits) →
    Deployment.Run d clock directory ls c → ∀ id,
      (c.world.recipientsOf id).length ≤ limits.maxRecipients ∧
      (c.world.deliveriesOf id).length ≤ limits.maxDeliveries

/-- Two consumers of one event, with a limit of one recipient. -/
def limitedConsumers : Deployment := .ofCalls id [
  .createNotification ⟨3600000000⟩ "orders" (.toAll [.web] postInit_web) none,
  .consume ⟨1, 1⟩ "consumer" (.requested 11 10),
  .consume ⟨1, 1⟩ "consumer" (.requested 11 10)]

/-- Between the two fan-outs one user becomes inactive and another one active: each
audience has one user, and there are two recipients. -/
theorem not_limitsRows : ¬ LimitsRows := by
  intro h
  obtain ⟨c, h_run, h_c⟩ := limitedConsumers.exists_run 0 firstUser consecutiveSchedule
    (fun c => decide ((c.world.recipientsOf 10).length = 2)) (by decide +kernel)
  have h_limits : ∀ p service consumerName message,
      limitedConsumers.calls p = .consume service consumerName message → service = ⟨1, 1⟩ := by
    intro p service consumerName message h_call
    match p with
    | 0 => exact absurd h_call (by simp [limitedConsumers, Deployment.ofCalls])
    | 1 | 2 => exact ((Call.consume.inj h_call).1).symm
    | p + 3 => exact absurd h_call (by simp [limitedConsumers, Deployment.ofCalls])
  have h_le := (h _ _ _ _ c ⟨1, 1⟩ h_limits h_run 10).1
  rw [of_decide_eq_true h_c] at h_le
  exact absurd h_le (by decide)

/-- The audience of the fan-out that a step commits. -/
def fannedAudiences (w w' : World) : List (UUID × List UUID) :=
  (newEvents w w').filterMap fun event =>
    match event with
    | .fanoutCommitted p notificationId =>
      (w.fanoutsOf p).head?.bind fun x => x.userIds.map fun userIds => (notificationId, userIds)
    | _ => none

/-- What the audiences that have been fanned out say about the rows. -/
structure Audiences (d : Deployment) (audiences : List (UUID × List UUID)) (w : World) :
    Prop where
  limits : ∀ id userIds, (id, userIds) ∈ audiences → ∃ n ∈ w.notifications.committed, n.id = id ∧
    ∃ p service consumerName message, d.calls p = .consume service consumerName message ∧
      userIds.length ≤ service.maxRecipients ∧
      userIds.length * n.channels.length ≤ service.maxDeliveries
  users : ∀ r ∈ w.recipients.committed,
    ∃ userIds, (r.notificationId, userIds) ∈ audiences ∧ r.userId ∈ userIds
  covers_users : ∀ id userIds, (id, userIds) ∈ audiences → ∀ userId ∈ userIds,
    ∃ r ∈ w.recipientsOf id, r.userId = userId
  covers_pairs : ∀ id userIds, (id, userIds) ∈ audiences → ∀ userId ∈ userIds,
    ∀ n ∈ w.notifications.committed, n.id = id → ∀ channel ∈ n.channels,
      ∃ r ∈ w.deliveriesOf id, r.pair = (userId, channel)

section Moves

variable {d : Deployment} {p : Pid} {w w' : World}

theorem FanoutCommit.fannedAudiences {x : Fanout} {userIds : List UUID}
    (h : FanoutCommit d p x userIds w w')
    (h_events : newEvents w w' = [.fanoutCommitted p x.notification.id]) :
    fannedAudiences w w' = [(x.notification.id, userIds)] := by
  simp [NotificationBroker.fannedAudiences, h_events, h.own, h.users]

theorem FanoutIdle.fannedAudiences (h : FanoutIdle w w') : fannedAudiences w w' = [] := by
  refine List.filterMap_eq_nil_iff.mpr fun event h_event => ?_
  cases event with
  | fanoutCommitted p id => exact absurd h_event (h.silent p id)
  | _ => rfl

/-- One step of a run, and what it adds to the audiences. -/
theorem WorldMove.audiences (hS : Sound w) (hS' : Sound w') (hF : OpenFanouts d w)
    (hR : FanoutRows w) {audiences : List (UUID × List UUID)} (hA : Audiences d audiences w)
    (h : WorldMove d w w') : Audiences d (audiences ++ fannedAudiences w w') w' := by
  -- what is known of an audience stays true
  have h_limits : ∀ id userIds, (id, userIds) ∈ audiences →
      ∃ n ∈ w'.notifications.committed, n.id = id ∧
        ∃ p service consumerName message, d.calls p = .consume service consumerName message ∧
          userIds.length ≤ service.maxRecipients ∧
          userIds.length * n.channels.length ≤ service.maxDeliveries := by
    intro id userIds h_mem
    obtain ⟨n, hn, h_id, h_rest⟩ := hA.limits id userIds h_mem
    obtain ⟨n', hn', h_same⟩ := h.notifications_grow.mem hn
    exact ⟨n', hn', h_same.id.trans h_id, h_same.channels ▸ h_rest⟩
  have h_users : ∀ id userIds, (id, userIds) ∈ audiences → ∀ userId ∈ userIds,
      ∃ r ∈ w'.recipientsOf id, r.userId = userId := by
    intro id userIds h_mem userId h_user
    obtain ⟨r, hr, h_r⟩ := hA.covers_users id userIds h_mem userId h_user
    exact ⟨r, h.recipientsOf_kept hr, h_r⟩
  have h_pairs : ∀ id userIds, (id, userIds) ∈ audiences → ∀ userId ∈ userIds,
      ∀ n ∈ w'.notifications.committed, n.id = id → ∀ channel ∈ n.channels,
        ∃ r ∈ w'.deliveriesOf id, r.pair = (userId, channel) := by
    intro id userIds h_mem userId h_user n' hn' h_id' channel h_channel
    obtain ⟨n, hn, h_id, -⟩ := hA.limits id userIds h_mem
    obtain ⟨n₁, hn₁, h_same⟩ := h.notifications_grow.mem hn
    obtain rfl : n₁ = n' := hS'.committed_notification_eq hn₁ hn'
      (h_same.id.trans (h_id.trans h_id'.symm))
    rw [h_same.channels] at h_channel
    obtain ⟨r, hr, h_r⟩ := hA.covers_pairs id userIds h_mem userId h_user n hn h_id channel
      h_channel
    obtain ⟨r', hr', h_pair⟩ := h.deliveriesOf_kept hS hr
    exact ⟨r', hr', h_pair.trans h_r⟩
  rcases h.fanout_cases with ⟨p, x, userIds, h_events, h_commit⟩ | h_idle
  · rw [h_commit.fannedAudiences h_events]
    obtain ⟨n, hn, h_same⟩ := h.mem_fanouts_loaded hF (mem_fanouts_of_own h_commit.own).1
    refine ⟨fun id ids h_mem => ?_, fun r hr => ?_, fun id ids h_mem => ?_, fun id ids h_mem => ?_⟩
    · rcases List.mem_append.mp h_mem with h_mem | h_mem
      · exact h_limits id ids h_mem
      · obtain ⟨rfl, rfl⟩ := Prod.mk.inj (List.mem_singleton.mp h_mem)
        obtain ⟨service, consumerName, message, h_call, h_max, h_product⟩ := h_commit.limits
        rw [← h_same.channels] at h_product
        exact ⟨n, hn, h_same.id, p, service, consumerName, message, h_call, h_max, h_product⟩
    · rw [h_commit.recipients, Table.committed_commit] at hr
      rcases List.mem_append.mp hr with hr | hr
      · obtain ⟨ids, h_mem, h_user⟩ := hA.users r hr
        exact ⟨ids, List.mem_append_left _ h_mem, h_user⟩
      · -- a new recipient is one of the fan-out that commits
        obtain ⟨y, h_open, h_row⟩ := hF.recipients p r hr
        obtain ⟨z, ids, h_open', h_ids, h_user⟩ := hR.users p r hr
        obtain rfl := List.singleton_inj.mp (h_open.symm.trans h_commit.own)
        obtain rfl := List.singleton_inj.mp (h_open'.symm.trans h_commit.own)
        obtain rfl := Option.some.inj (h_ids.symm.trans h_commit.users)
        exact ⟨ids, h_row ▸ List.mem_append_right _ (List.mem_singleton_self _), h_user⟩
    · rcases List.mem_append.mp h_mem with h_mem | h_mem
      · exact h_users id ids h_mem
      · obtain ⟨rfl, rfl⟩ := Prod.mk.inj (List.mem_singleton.mp h_mem)
        exact h_commit.covers_users
    · rcases List.mem_append.mp h_mem with h_mem | h_mem
      · exact h_pairs id ids h_mem
      · obtain ⟨rfl, rfl⟩ := Prod.mk.inj (List.mem_singleton.mp h_mem)
        intro userId h_user n' hn' h_id channel h_channel
        obtain rfl : n = n' := hS'.committed_notification_eq hn hn'
          (h_same.id.trans h_id.symm)
        rw [h_same.channels] at h_channel
        obtain ⟨r, hr, h_u, h_c⟩ := h_commit.covers_pairs userId h_user channel h_channel
        exact ⟨r, hr, Prod.ext h_u h_c⟩
  · rw [h_idle.fannedAudiences, List.append_nil]
    refine ⟨h_limits, fun r hr => ?_, h_users, h_pairs⟩
    exact hA.users r (h_idle.recipients ▸ hr)

end Moves

section Runs

variable {d : Deployment} {clock : Instant} {directory : Directory} {ls : Schedule} {c : State}

theorem Deployment.Run.audiences (h : d.Run clock directory ls c) :
    Audiences d (surroundings.collect fannedAudiences (d.start clock directory) ls) c.world := by
  have h_all := h.collected (f := fannedAudiences)
    (P := fun audiences w => OpenFanouts d w ∧ FanoutRows w ∧ Audiences d audiences w)
    ⟨⟨?_, ?_, ?_, ?_, ?_⟩, ⟨?_, ?_⟩, ⟨?_, ?_, ?_, ?_⟩⟩ fun t w w' hS hS' hP hM =>
      ⟨WorldMove.openFanouts hS hP.1 hM, WorldMove.fanoutRows hS hP.1 hP.2.1 hM,
        WorldMove.audiences hS hS' hP.1 hP.2.1 hP.2.2 hM⟩
  · exact h_all.2.2
  all_goals simp [World.initial, Table.rows, Table.own, Table.empty]

/-- The users and the pairs that have rows are those of the audiences. -/
theorem Deployment.Run.audience_rows (h : d.Run clock directory ls c)
    {audiences : List (UUID × List UUID)} (hA : Audiences d audiences c.world) :
    (∀ id userId, userId ∈ (c.world.recipientsOf id).map Recipient.userId ↔
      ∃ userIds, (id, userIds) ∈ audiences ∧ userId ∈ userIds) ∧
    ∀ n ∈ c.world.notifications.committed, ∀ userId channel,
      (userId, channel) ∈ (c.world.deliveriesOf n.id).map Delivery.pair ↔
        (∃ userIds, (n.id, userIds) ∈ audiences ∧ userId ∈ userIds) ∧ channel ∈ n.channels := by
  have h_users : ∀ id userId, userId ∈ (c.world.recipientsOf id).map Recipient.userId ↔
      ∃ userIds, (id, userIds) ∈ audiences ∧ userId ∈ userIds := by
    intro id userId
    rw [List.mem_map]
    constructor
    · rintro ⟨r, hr, rfl⟩
      obtain ⟨h_mem, rfl⟩ := World.mem_recipientsOf.mp hr
      exact hA.users r h_mem
    · rintro ⟨userIds, h_mem, h_user⟩
      exact hA.covers_users id userIds h_mem userId h_user
  refine ⟨h_users, fun n hn userId channel => ?_⟩
  rw [List.mem_map]
  constructor
  · rintro ⟨r, hr, h_pair⟩
    obtain ⟨rfl, rfl⟩ := Prod.mk.inj h_pair
    obtain ⟨h_mem, h_notification⟩ := World.mem_deliveriesOf.mp hr
    -- the delivery's recipient has its user, and its notification admits the channel
    obtain ⟨recipient, h_recipient, h_belongs⟩ := h.sound.grounded.committed r h_mem
    obtain ⟨n', hn', h_id, h_channel⟩ :=
      h.fanoutRows.channels r (Table.mem_rows_of_committed h_mem)
    obtain rfl : n' = n := h.sound.committed_notification_eq hn' hn
      (h_id.trans h_notification)
    refine ⟨(h_users n'.id r.userId).mp (List.mem_map.mpr ⟨recipient, ?_, h_belongs.user⟩),
      h_channel⟩
    exact World.mem_recipientsOf.mpr ⟨h_recipient, h_belongs.notification.trans h_notification⟩
  · rintro ⟨⟨userIds, h_mem, h_user⟩, h_channel⟩
    exact hA.covers_pairs n.id userIds h_mem userId h_user n hn rfl channel h_channel

/-- If one of its audiences contains the others, a notification has no more rows than
the limits of the consumer that committed this one. -/
theorem Deployment.Run.rows_of_largest (h : d.Run clock directory ls c)
    {audiences : List (UUID × List UUID)} (hA : Audiences d audiences c.world) {id : UUID}
    {userIds : List UUID} (h_mem : (id, userIds) ∈ audiences)
    (h_largest : ∀ userIds', (id, userIds') ∈ audiences → userIds' ⊆ userIds) :
    ∃ p service consumerName message, d.calls p = .consume service consumerName message ∧
      (c.world.recipientsOf id).length ≤ service.maxRecipients ∧
      (c.world.deliveriesOf id).length ≤ service.maxDeliveries := by
  obtain ⟨n, hn, rfl, p, service, consumerName, message, h_call, h_max, h_product⟩ :=
    hA.limits id userIds h_mem
  obtain ⟨h_users, h_pairs⟩ := h.audience_rows hA
  refine ⟨p, service, consumerName, message, h_call, ?_, ?_⟩
  · -- no user has two recipients, and all users are in the largest audience
    have h_sub : (c.world.recipientsOf n.id).map Recipient.userId ⊆ userIds := by
      intro userId h_userId
      obtain ⟨userIds', h_mem', h_user⟩ := (h_users n.id userId).mp h_userId
      exact h_largest userIds' h_mem' h_user
    have h_le := (List.subperm_of_subset (h.sound.recipientsOf_nodup n.id) h_sub).length_le
    rw [List.length_map] at h_le
    exact h_le.trans h_max
  · -- no pair has two deliveries, and all pairs are in the product of the audience and the channels
    have h_sub : (c.world.deliveriesOf n.id).map Delivery.pair ⊆
        userIds ×ˢ n.channels := by
      rintro ⟨userId, channel⟩ h_pair
      obtain ⟨⟨userIds', h_mem', h_user⟩, h_channel⟩ := (h_pairs n hn userId channel).mp h_pair
      exact List.pair_mem_product.mpr ⟨h_largest userIds' h_mem' h_user, h_channel⟩
    have h_le := (List.subperm_of_subset (h.sound.deliveriesOf_nodup n.id) h_sub).length_le
    rw [List.length_map, List.length_product] at h_le
    exact h_le.trans h_product

/-- **Every fan-out is within the limits**, and the rows of a notification are those
of its fan-outs. -/
theorem fanouts_withinLimits (h : d.Run clock directory ls c) :
    ∃ audiences, audiences = surroundings.collect fannedAudiences (d.start clock directory) ls ∧
      (∀ id userIds, (id, userIds) ∈ audiences →
        ∃ n ∈ c.world.notifications.committed, n.id = id ∧
          ∃ p service consumerName message, d.calls p = .consume service consumerName message ∧
            userIds.length ≤ service.maxRecipients ∧
            userIds.length * n.channels.length ≤ service.maxDeliveries) ∧
      (∀ id userId, userId ∈ (c.world.recipientsOf id).map Recipient.userId ↔
        ∃ userIds, (id, userIds) ∈ audiences ∧ userId ∈ userIds) ∧
      (∀ n ∈ c.world.notifications.committed, ∀ userId channel,
        (userId, channel) ∈ (c.world.deliveriesOf n.id).map Delivery.pair ↔
          (∃ userIds, (n.id, userIds) ∈ audiences ∧ userId ∈ userIds) ∧ channel ∈ n.channels) ∧
      (∀ id userIds, (id, userIds) ∈ audiences →
        (∀ userIds', (id, userIds') ∈ audiences → userIds' ⊆ userIds) →
        ∃ p service consumerName message, d.calls p = .consume service consumerName message ∧
          (c.world.recipientsOf id).length ≤ service.maxRecipients ∧
          (c.world.deliveriesOf id).length ≤ service.maxDeliveries) ∧
      ∀ p service consumerName message recipients deliveries,
        d.calls p = .consume service consumerName message →
        c.prog p = some (.ret (.error (.fanoutLimitExceeded recipients deliveries))) →
        ∀ ls₀ i ls₁ c₀ c₁, ls = ls₀ ++ .run p i :: ls₁ → d.Run clock directory ls₀ c₀ →
          surroundings.step c₀ (.run p i) = some c₁ → SameRows c₀.world c₁.world := by
  -- what the fan-outs have resolved, and the rows for it
  have hA := h.audiences
  obtain ⟨h_users, h_pairs⟩ := h.audience_rows hA
  refine ⟨_, rfl, hA.limits, h_users, h_pairs, fun id userIds h_mem h_largest =>
    h.rows_of_largest hA h_mem h_largest, ?_⟩
  intro p service consumerName message recipients deliveries h_call hp ls₀ i ls₁ c₀ c₁ h_eq h₀
    h_step
  exact h.refused h_call hp h_eq h₀ h_step

/-- Both audiences are within the limit of one recipient; together they are the two
users that have a row. -/
theorem fanouts_withinLimits_changed :
    ∃ c, limitedConsumers.Run 0 firstUser consecutiveSchedule c ∧
      (c.world.recipientsOf 10).map Recipient.userId = [1, 2] ∧
      ∃ audiences, audiences = surroundings.collect fannedAudiences
          (limitedConsumers.start 0 firstUser) consecutiveSchedule ∧
        ∀ id userId, userId ∈ (c.world.recipientsOf id).map Recipient.userId ↔
          ∃ userIds, (id, userIds) ∈ audiences ∧ userId ∈ userIds := by
  obtain ⟨c, h_run, h⟩ := limitedConsumers.exists_run 0 firstUser consecutiveSchedule
    (fun c => decide ((c.world.recipientsOf 10).map Recipient.userId = [1, 2]))
    (by decide +kernel)
  obtain ⟨audiences, h_eq, -, h_users, -⟩ := fanouts_withinLimits h_run
  exact ⟨c, h_run, of_decide_eq_true h, audiences, h_eq, h_users⟩

end Runs

end NotificationBroker
