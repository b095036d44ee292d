import NotificationBroker.Properties.FanoutRows

/-!
# The counters of a notification

A fan-out counts the rows it sees, its own among them, and stores the numbers when it
commits. The numbers are absolute: if two fan-outs of one notification overlap, each
inserts rows for users the other does not know, and each counts before the other
commits, then the counters that are written last miss the other's rows
(`not_keepsCounts`).

That is the only way to lose rows. As long as a fan-out that has inserted rows commits
before any other open fan-out of the notification has counted (`CommitsUncounted`),
the counters are the numbers of rows in every state (`countsMatch_of_commitsUncounted`).
The invariant behind it (`Counted`) says what the number a transaction holds is worth
meanwhile: it is the number of committed rows and of its own.
-/

namespace NotificationBroker

open Interleave Python
open ReadCommitted (Table Grows)
open NotificationFanoutService (storeCounts note)

/-- The counters of the notification are the numbers of its rows. -/
def World.CountsMatch (w : World) (n : Notification) : Prop :=
  n.recipientCount = (w.recipientsOf n.id).length ∧ n.deliveryCount = (w.deliveriesOf n.id).length

/-- When no fan-out is in progress, every notification that has been fanned out has
the right counters. -/
def KeepsCounts : Prop :=
  ∀ d clock directory ls c, Deployment.Run d clock directory ls c → c.world.fanouts = [] →
    ∀ n ∈ c.world.notifications.committed, ∀ p, .fanoutCommitted p n.id ∈ c.world.history →
      c.world.CountsMatch n

/-- One user is active at first, and another one later. -/
def firstUser : Directory :=
  ⟨[⟨1, true⟩, ⟨2, false⟩], [], [], [], by decide, List.nodup_nil, List.nodup_nil, List.nodup_nil,
    Directory.nodup_no_labels⟩

def secondUser : Directory :=
  ⟨[⟨1, false⟩, ⟨2, true⟩], [], [], [], by decide, List.nodup_nil, List.nodup_nil, List.nodup_nil,
    Directory.nodup_no_labels⟩

/-- Two consumers of one event. -/
def twoConsumers : Deployment := .ofCalls id [
  .createNotification ⟨3600000000⟩ "orders" (.toAll [.web] postInit_web) none,
  .consume {} "consumer" (.requested 11 10),
  .consume {} "consumer" (.requested 11 10)]

/-- The directory changes between the two resolutions; both count, then both
commit. -/
def overlappingSchedule : Schedule := [
  .run 0 (.time (.ofInstant 0)), .run 0 .go, .run 0 (.fresh 10), .run 0 (.fresh 11),
  .run 1 .go, .run 1 (.time (.ofInstant 5)), .run 1 .go, .run 1 .go,
  .env (.setDirectory secondUser),
  .run 2 .go, .run 2 (.time (.ofInstant 6)), .run 2 .go, .run 2 .go,
  .run 1 .go, .run 1 (.fresh 21), .run 1 .go, .run 1 .go, .run 1 (.fresh 22), .run 1 .go,
  .run 2 .go, .run 2 (.fresh 31), .run 2 .go, .run 2 .go, .run 2 (.fresh 32), .run 2 .go,
  .run 1 .go, .run 2 .go]

instance (w : World) (n : Notification) : Decidable (w.CountsMatch n) := by
  unfold World.CountsMatch; infer_instance

/-- Both fan-outs have counted one row of each kind, and there are two. -/
theorem not_keepsCounts : ¬ KeepsCounts := by
  intro h
  obtain ⟨c, h_run, h_c⟩ := twoConsumers.exists_run 0 firstUser overlappingSchedule
    (fun c => c.world.fanouts.isEmpty && decide (c.world.notifications.committed.any fun n =>
      decide (n.id = 10 ∧ ¬ c.world.CountsMatch n) = true) &&
      decide (Event.fanoutCommitted 1 10 ∈ c.world.history)) (by decide +kernel)
  simp only [Bool.and_eq_true, List.isEmpty_iff, decide_eq_true_eq, List.any_eq_true] at h_c
  obtain ⟨⟨h_idle, n, hn, h_id, h_wrong⟩, h_event⟩ := h_c
  exact h_wrong (h _ _ _ _ c h_run h_idle n hn 1 (h_id ▸ h_event))

/-! ### The condition -/

/-- When a fan-out that has inserted rows commits, no other open fan-out of the
notification has counted rows of this kind. -/
def Event.commitsUncounted (w : World) : Event → Prop
  | .fanoutCommitted p notificationId =>
    (w.recipients.own p = [] ∨ ∀ y ∈ w.fanouts, y.pid ≠ p →
      y.notification.id = notificationId → y.recipientCount = none) ∧
    (w.deliveries.own p = [] ∨ ∀ y ∈ w.fanouts, y.pid ≠ p →
      y.notification.id = notificationId → y.deliveryCount = none)
  | _ => True

instance (w : World) : DecidablePred (Event.commitsUncounted w)
  | .clockRead .. | .deliveriesClaimed .. | .contextLoaded .. | .adapterCalled ..
  | .deliveryFinalized .. | .eventFinalized .. | .fanoutCommitted .. | .readMarked .. => by
    unfold Event.commitsUncounted
    infer_instance

/-- No fan-out adds rows that another one of the notification, still open, has
missed when it counted. -/
def CommitsUncounted (w w' : World) : Prop := ∀ e ∈ newEvents w w', e.commitsUncounted w

instance (w w' : World) : Decidable (CommitsUncounted w w') := by
  unfold CommitsUncounted; infer_instance

/-! ### The invariant -/

/-- What the counters of notifications, and the numbers that open fan-outs hold, are
worth. -/
structure Counted (w : World) : Prop where
  stored : ∀ n ∈ w.notifications.committed, w.CountsMatch n
  fresh : ∀ p, ∀ n ∈ w.notifications.own p, n.recipientCount = 0 ∧ n.deliveryCount = 0
  loaded : ∀ x ∈ w.fanouts,
    x.notification.recipientCount ≤ (w.recipientsOf x.notification.id).length ∧
    x.notification.deliveryCount ≤ (w.deliveriesOf x.notification.id).length
  recipients : ∀ x ∈ w.fanouts, ∀ k, x.recipientCount = some k →
    k = (w.recipientsOf x.notification.id).length + (w.recipients.own x.pid).length
  deliveries : ∀ x ∈ w.fanouts, ∀ k, x.deliveryCount = some k →
    k = (w.deliveriesOf x.notification.id).length + (w.deliveries.own x.pid).length

/-- Where a number that the open fan-out `x'` holds comes from: it has been held
before, and the own rows are the same, or it has just been counted. -/
structure CountOrigin (w w' : World) (x' : Fanout) : Prop where
  recipients : ∀ k, x'.recipientCount = some k →
    (∃ x ∈ w.fanouts, x.pid = x'.pid ∧ x.notification = x'.notification ∧
      x.recipientCount = some k ∧ w'.recipients.own x'.pid = w.recipients.own x'.pid) ∨
    ((∃ x, w.fanoutsOf x'.pid = [x] ∧ x.notification = x'.notification) ∧
      k = dictLen (listRecipientIdsByUser (w.recipients.visible x'.pid) x'.notification.id) ∧
      w'.recipients = w.recipients)
  deliveries : ∀ k, x'.deliveryCount = some k →
    (∃ x ∈ w.fanouts, x.pid = x'.pid ∧ x.notification = x'.notification ∧
      x.deliveryCount = some k ∧ w'.deliveries.own x'.pid = w.deliveries.own x'.pid) ∨
    ((∃ x, w.fanoutsOf x'.pid = [x] ∧ x.notification = x'.notification) ∧
      (∃ pairs, listDeliveryPairs (w.deliveries.visible x'.pid) x'.notification.id = .ok pairs ∧
        k = pairs.length) ∧
      w'.deliveries = w.deliveries)

section Moves

variable {d : Deployment} {p q : Pid} {w w' : World}

/-- An entry that was there, with its own rows. -/
theorem CountOrigin.kept {x x' : Fanout} (hx : x ∈ w.fanouts) (h_pid : x.pid = x'.pid)
    (h_notification : x.notification = x'.notification)
    (h_counts : x.recipientCount = x'.recipientCount ∧ x.deliveryCount = x'.deliveryCount)
    (h_recipients : w'.recipients.own x'.pid = w.recipients.own x'.pid ∨ x.recipientCount = none)
    (h_deliveries : w'.deliveries.own x'.pid = w.deliveries.own x'.pid ∨ x.deliveryCount = none) :
    CountOrigin w w' x' where
  recipients k hk := by
    rcases h_recipients with h_own | h_none
    · exact .inl ⟨x, hx, h_pid, h_notification, h_counts.1.trans hk, h_own⟩
    · exact absurd (h_none.symm.trans (h_counts.1.trans hk)) (by simp)
  deliveries k hk := by
    rcases h_deliveries with h_own | h_none
    · exact .inl ⟨x, hx, h_pid, h_notification, h_counts.2.trans hk, h_own⟩
    · exact absurd (h_none.symm.trans (h_counts.2.trans hk)) (by simp)

theorem Effect.count_origin (h : Effect d p w w') {x' : Fanout} (hx' : x' ∈ w'.fanouts) :
    CountOrigin w w' x' := by
  -- an entry of the process is the one it has open
  have h_one : ∀ {x y : Fanout}, w.fanoutsOf p = [x] → y ∈ w.fanouts → y.pid = p → y = x := by
    intro x y h_own hy h_pid
    have h_mem := mem_fanoutsOf hy
    rw [h_pid, h_own] at h_mem
    exact List.mem_singleton.mp h_mem
  cases h with
  | openFanout n h_own h_mem h_call =>
    rcases List.mem_append.mp hx' with hx | hx
    · exact .kept hx rfl rfl ⟨rfl, rfl⟩ (.inl rfl) (.inl rfl)
    · obtain rfl := List.mem_singleton.mp hx
      exact ⟨fun k hk => absurd hk (by simp), fun k hk => absurd hk (by simp)⟩
  | resolveAudience x userIds =>
    rcases mem_note hx' with ⟨y, hy, rfl⟩ | ⟨hx, -⟩
    · exact .kept (List.mem_filter.mp hy).1 rfl rfl ⟨rfl, rfl⟩ (.inl rfl) (.inl rfl)
    · exact .kept hx rfl rfl ⟨rfl, rfl⟩ (.inl rfl) (.inl rfl)
  | countRecipients x h_own h_uncounted =>
    rcases mem_note hx' with ⟨y, hy, rfl⟩ | ⟨hx, -⟩
    · rw [h_own] at hy
      obtain rfl := List.mem_singleton.mp hy
      obtain ⟨hy, rfl⟩ := mem_fanouts_of_own h_own
      refine ⟨fun k hk => .inr ⟨⟨y, h_own, rfl⟩, (Option.some.inj hk).symm, rfl⟩, fun k hk => ?_⟩
      exact absurd (h_uncounted.2.symm.trans hk) (by simp)
    · exact .kept hx rfl rfl ⟨rfl, rfl⟩ (.inl rfl) (.inl rfl)
  | countDeliveries x pairs h_own h_uncounted h_pairs =>
    rcases mem_note hx' with ⟨y, hy, rfl⟩ | ⟨hx, -⟩
    · rw [h_own] at hy
      obtain rfl := List.mem_singleton.mp hy
      obtain ⟨hy, rfl⟩ := mem_fanouts_of_own h_own
      refine ⟨fun k hk => .inl ⟨y, hy, rfl, rfl, hk, rfl⟩, fun k hk => ?_⟩
      exact .inr ⟨⟨y, h_own, rfl⟩, ⟨pairs, h_pairs, (Option.some.inj hk).symm⟩, rfl⟩
    · exact .kept hx rfl rfl ⟨rfl, rfl⟩ (.inl rfl) (.inl rfl)
  | insertRecipient x userIds row h_own _ h_uncounted =>
    by_cases h_pid : x'.pid = p
    · obtain rfl := h_one h_own hx' h_pid
      exact .kept hx' rfl rfl ⟨rfl, rfl⟩ (.inr h_uncounted.1) (.inl rfl)
    · exact .kept hx' rfl rfl ⟨rfl, rfl⟩ (.inl (Table.own_insert_of_ne h_pid)) (.inl rfl)
  | insertDelivery x userIds channels recipient channel nextAttemptAt row h_own _ _ h_uncounted =>
    by_cases h_pid : x'.pid = p
    · obtain rfl := h_one h_own hx' h_pid
      exact .kept hx' rfl rfl ⟨rfl, rfl⟩ (.inl rfl) (.inr h_uncounted)
    · exact .kept hx' rfl rfl ⟨rfl, rfl⟩ (.inl rfl) (.inl (Table.own_insert_of_ne h_pid))
  | commitFanout =>
    obtain ⟨hx, h_pid⟩ := List.mem_filter.mp hx'
    have h_ne := of_decide_eq_true h_pid
    exact .kept hx rfl rfl ⟨rfl, rfl⟩ (.inl (Table.own_commit_of_ne h_ne))
      (.inl (Table.own_commit_of_ne h_ne))
  | rollback =>
    obtain ⟨hx, h_pid⟩ := List.mem_filter.mp hx'
    have h_ne := of_decide_eq_true h_pid
    exact .kept hx rfl rfl ⟨rfl, rfl⟩ (.inl (Table.own_abort_of_ne h_ne))
      (.inl (Table.own_abort_of_ne h_ne))
  | _ => exact .kept hx' rfl rfl ⟨rfl, rfl⟩ (.inl rfl) (.inl rfl)

theorem WorldMove.count_origin (h : WorldMove d w w') {x' : Fanout} (hx' : x' ∈ w'.fanouts) :
    CountOrigin w w' x' := by
  cases h with
  | act p h =>
    cases h with
    | effect h => exact h.count_origin hx'
    | finish h => cases h <;> exact .kept hx' rfl rfl ⟨rfl, rfl⟩ (.inl rfl) (.inl rfl)
  | env e h =>
    obtain ⟨clock, directory, rfl⟩ := env_apply h
    exact .kept hx' rfl rfl ⟨rfl, rfl⟩ (.inl rfl) (.inl rfl)
  | abort p h =>
    subst h
    obtain ⟨hx, h_pid⟩ := List.mem_filter.mp hx'
    have h_ne := of_decide_eq_true h_pid
    exact .kept hx rfl rfl ⟨rfl, rfl⟩ (.inl (Table.own_abort_of_ne h_ne))
      (.inl (Table.own_abort_of_ne h_ne))

/-! ### What is counted -/

/-- The rows of one notification that a transaction sees: the committed ones, and its
own if they are all of this notification. -/
theorem length_filter_visible {Row : Type} {t : Table Pid Row} {f : Row → Bool}
    (h_own : ∀ r ∈ t.own p, f r = true) :
    ((t.visible p).filter f).length = (t.committed.filter f).length + (t.own p).length := by
  rw [Table.visible, List.filter_append, List.length_append, List.filter_eq_self.mpr h_own]

theorem length_of_dictLen (hS : Sound w) {notificationId : UUID}
    (h_own : ∀ r ∈ w.recipients.own p, r.notificationId = notificationId) :
    dictLen (listRecipientIdsByUser (w.recipients.visible p) notificationId) =
      (w.recipientsOf notificationId).length + (w.recipients.own p).length := by
  have h_nodup := hS.users_nodup (Table.visible_sublist_rows (p := p)) notificationId
  have h_users : (listRecipientIdsByUser (w.recipients.visible p) notificationId).map Prod.fst =
      ((w.recipients.visible p).filter fun r => r.notificationId = notificationId).map
        Recipient.userId := by
    rw [listRecipientIdsByUser, List.map_map]
    rfl
  rw [dictLen, h_users, List.dedup_eq_self.mpr h_nodup, List.length_map,
    length_filter_visible fun r hr => decide_eq_true (h_own r hr)]
  rfl

theorem length_of_pairs (hS : Sound w) {notificationId : UUID} {pairs : List (UUID × Channel)}
    (h_pairs : listDeliveryPairs (w.deliveries.visible p) notificationId = .ok pairs)
    (h_own : ∀ r ∈ w.deliveries.own p, r.notificationId = notificationId) :
    pairs.length =
      (w.deliveriesOf notificationId).length + (w.deliveries.own p).length := by
  have h_nodup := hS.pairs_nodup (Table.visible_sublist_rows (p := p)) notificationId
  rw [length_listDeliveryPairs h_pairs h_nodup,
    length_filter_visible fun r hr => decide_eq_true (h_own r hr)]
  rfl

/-- After a commit, the key of the transaction's rows has these in addition, and every
other key has what it had. -/
theorem length_filter_commit {Row : Type} {t : Table Pid Row} {key : Row → UUID} {own : UUID}
    (h_own : ∀ r ∈ t.own p, key r = own) (id : UUID) :
    ((t.commit p).committed.filter fun r => key r = id).length =
      (t.committed.filter fun r => key r = id).length +
        if own = id then (t.own p).length else 0 := by
  rw [Table.committed_commit, List.filter_append, List.length_append]
  split
  next h_id =>
    rw [List.filter_eq_self.mpr fun r hr => decide_eq_true ((h_own r hr).trans h_id)]
  next h_ne =>
    have h_none : ((t.own p).filter fun r => key r = id) = [] :=
      List.filter_eq_nil_iff.mpr fun r hr h_eq =>
        h_ne ((h_own r hr).symm.trans (of_decide_eq_true h_eq))
    rw [h_none, List.length_nil]

theorem FanoutCommit.length_recipientsOf {x : Fanout} {userIds : List UUID}
    (h : FanoutCommit d p x userIds w w') (hF : OpenFanouts d w) (notificationId : UUID) :
    (w'.recipientsOf notificationId).length = (w.recipientsOf notificationId).length +
      if x.notification.id = notificationId then (w.recipients.own p).length else 0 := by
  rw [World.recipientsOf, h.recipients]
  refine length_filter_commit (fun r hr => ?_) notificationId
  obtain ⟨y, h_open, h_row⟩ := hF.recipients p r hr
  obtain rfl := List.singleton_inj.mp (h_open.symm.trans h.own)
  exact h_row

theorem FanoutCommit.length_deliveriesOf {x : Fanout} {userIds : List UUID}
    (h : FanoutCommit d p x userIds w w') (hF : OpenFanouts d w) (notificationId : UUID) :
    (w'.deliveriesOf notificationId).length = (w.deliveriesOf notificationId).length +
      if x.notification.id = notificationId then (w.deliveries.own p).length else 0 := by
  rw [World.deliveriesOf, h.deliveries]
  refine length_filter_commit (fun r hr => ?_) notificationId
  obtain ⟨y, h_open, h_row⟩ := hF.deliveries p r hr
  obtain rfl := List.singleton_inj.mp (h_open.symm.trans h.own)
  exact h_row

/-- The deliveries of a notification are as many as their keys. -/
theorem length_deliveriesOf_of_key
    (h : w'.deliveries.committed.map Delivery.key = w.deliveries.committed.map Delivery.key)
    (notificationId : UUID) :
    (w'.deliveriesOf notificationId).length = (w.deliveriesOf notificationId).length := by
  have h_count : ∀ rows : List Delivery,
      (rows.filter fun r => r.notificationId = notificationId).length =
        ((rows.map Delivery.key).filter fun key => key.2.2.1 = notificationId).length := by
    intro rows
    rw [List.filter_map, List.length_map]
    rfl
  rw [World.deliveriesOf, h_count, h, ← h_count]
  rfl

/-- A notification that is not committed has no rows. -/
theorem rows_of_uncommitted (hS : Sound w) (hF : OpenFanouts d w) {n : Notification}
    (hn : n ∈ w.notifications.own p) :
    w.recipientsOf n.id = [] ∧ w.deliveriesOf n.id = [] := by
  have h_recipients : ∀ r ∈ w.recipients.committed, r.notificationId ≠ n.id := by
    intro r hr h_eq
    obtain ⟨m, hm, h_id⟩ := hF.known r (Table.mem_rows_of_committed hr)
    exact Table.key_ne_of_own hS.notifications.nodup hm hn (h_id.trans h_eq)
  refine ⟨List.filter_eq_nil_iff.mpr fun r hr h_eq => h_recipients r hr (of_decide_eq_true h_eq),
    List.filter_eq_nil_iff.mpr fun r hr h_eq => ?_⟩
  obtain ⟨recipient, h_recipient, h_belongs⟩ := hS.grounded.committed r hr
  exact h_recipients recipient h_recipient (h_belongs.notification.trans (of_decide_eq_true h_eq))

/-! ### The invariant is kept -/

/-- The counter that is stored: if the mapper leaves the column alone because the
number is the one it has loaded, then nothing has been added since. -/
theorem stored_count {loaded stored counted rows own : ℕ} (h_stored : stored = rows)
    (h_loaded : loaded ≤ rows) (h_counted : counted = rows + own) :
    (if counted = loaded then stored else counted) = rows + own := by
  split <;> omega

/-- What is stored by a commit. -/
theorem FanoutCommit.stored {x : Fanout} {userIds : List UUID}
    (h : FanoutCommit d p x userIds w w') (hF : OpenFanouts d w) (hC : Counted w)
    {n' : Notification} (hn' : n' ∈ w'.notifications.committed) : w'.CountsMatch n' := by
  obtain ⟨recipientCount, deliveryCount, h_rc, h_dc, h_rows⟩ := h.counts
  rw [h_rows, Table.committed_modify] at hn'
  obtain ⟨n, hn, rfl⟩ := List.mem_map.mp hn'
  obtain ⟨hx, h_pid⟩ := mem_fanouts_of_own h.own
  have h_recipients := hC.recipients x hx recipientCount h_rc
  have h_deliveries := hC.deliveries x hx deliveryCount h_dc
  obtain ⟨h_stored_rc, h_stored_dc⟩ := hC.stored n hn
  obtain ⟨h_loaded_rc, h_loaded_dc⟩ := hC.loaded x hx
  rw [h_pid] at h_recipients h_deliveries
  unfold World.CountsMatch storeCounts
  split
  next h_id =>
    -- the notification of the fan-out: the counts are those it made, and it inserted what was
    -- missing
    rw [h.length_recipientsOf hF, h.length_deliveriesOf hF]
    dsimp only
    rw [if_pos h_id.symm, if_pos h_id.symm]
    rw [h_id] at h_stored_rc h_stored_dc ⊢
    exact ⟨stored_count h_stored_rc h_loaded_rc h_recipients,
      stored_count h_stored_dc h_loaded_dc h_deliveries⟩
  next h_ne =>
    -- any other notification keeps its counts and its rows
    rw [h.length_recipientsOf hF, h.length_deliveriesOf hF, if_neg (Ne.symm h_ne),
      if_neg (Ne.symm h_ne)]
    exact ⟨h_stored_rc, h_stored_dc⟩

/-- The rows of a notification get no fewer. -/
theorem WorldMove.length_mono (hF : OpenFanouts d w) (h : WorldMove d w w') (id : UUID) :
    (w.recipientsOf id).length ≤ (w'.recipientsOf id).length ∧
      (w.deliveriesOf id).length ≤ (w'.deliveriesOf id).length := by
  rcases h.fanout_cases with ⟨q, x, userIds, -, h_commit⟩ | h_idle
  · rw [h_commit.length_recipientsOf hF, h_commit.length_deliveriesOf hF]
    exact ⟨Nat.le_add_right _ _, Nat.le_add_right _ _⟩
  · rw [length_deliveriesOf_of_key h_idle.deliveries, World.recipientsOf, World.recipientsOf,
      h_idle.recipients]
    exact ⟨le_rfl, le_rfl⟩

/-- Under the condition, no rows are added to a notification whose recipients another
open fan-out has counted, and likewise for deliveries. -/
theorem WorldMove.length_of_counted (hF : OpenFanouts d w) (h : WorldMove d w w')
    (h_meet : CommitsUncounted w w') {x x' : Fanout} (hx : x ∈ w.fanouts) (hx' : x' ∈ w'.fanouts)
    (h_pid : x.pid = x'.pid) :
    (∀ k, x.recipientCount = some k → (w'.recipientsOf x.notification.id).length =
      (w.recipientsOf x.notification.id).length) ∧
    (∀ k, x.deliveryCount = some k → (w'.deliveriesOf x.notification.id).length =
      (w.deliveriesOf x.notification.id).length) := by
  rcases h.fanout_cases with ⟨q, y, userIds, h_events, h_commit⟩ | h_idle
  · -- another fan-out has committed; had it inserted rows, this one would not have counted
    have h_ne : x.pid ≠ q := by
      rw [h_commit.fanouts] at hx'
      exact h_pid ▸ of_decide_eq_true (List.mem_filter.mp hx').2
    obtain ⟨h_recipients, h_deliveries⟩ := h_meet _ (h_events ▸ List.mem_singleton_self _)
    refine ⟨fun k hk => ?_, fun k hk => ?_⟩
    · rw [h_commit.length_recipientsOf hF]
      split
      next h_id =>
        rcases h_recipients with h_nil | h_none
        · rw [h_nil]
          rfl
        · exact absurd ((h_none x hx h_ne h_id.symm).symm.trans hk) (by simp)
      next => rfl
    · rw [h_commit.length_deliveriesOf hF]
      split
      next h_id =>
        rcases h_deliveries with h_nil | h_none
        · rw [h_nil]
          rfl
        · exact absurd ((h_none x hx h_ne h_id.symm).symm.trans hk) (by simp)
      next => rfl
  · -- no fan-out has committed, so the number of rows is the same
    refine ⟨fun k _ => ?_, fun k _ => length_deliveriesOf_of_key h_idle.deliveries _⟩
    rw [World.recipientsOf, h_idle.recipients]
    rfl

/-- One step under the condition. -/
theorem WorldMove.counted (hS : Sound w) (hF : OpenFanouts d w) (hC : Counted w)
    (h : WorldMove d w w') (h_meet : CommitsUncounted w w') : Counted w' := by
  refine ⟨fun n hn => ?_, fun q n hn => ?_, fun x' hx' => ?_, fun x' hx' k hk => ?_,
    fun x' hx' k hk => ?_⟩
  · -- committed notifications: their counts are written by the commit that adds the rows
    rcases h.fanout_cases with ⟨q, x, userIds, -, h_commit⟩ | h_idle
    · exact h_commit.stored hF hC hn
    · unfold World.CountsMatch
      rw [length_deliveriesOf_of_key h_idle.deliveries, World.recipientsOf, h_idle.recipients]
      rcases h_idle.notifications n hn with h_com | ⟨q, h_own⟩
      · exact hC.stored n h_com
      · -- a notification that has just been created has no rows and counts none
        obtain ⟨h_recipients, h_deliveries⟩ := rows_of_uncommitted hS hF h_own
        obtain ⟨h_rc, h_dc⟩ := hC.fresh q n h_own
        rw [← World.recipientsOf, h_recipients, h_deliveries]
        exact ⟨h_rc, h_dc⟩
  · -- open notifications have no counts yet
    obtain ⟨p, h_change⟩ := h.notifications
    rcases h_change.own_origin hn with hn | ⟨rfl, h_row, -⟩
    · exact hC.fresh q n hn
    · obtain ⟨service, source, request, key, value, identity, -, -, -, h_eq⟩ := h_row
      rw [h_eq]
      exact ⟨rfl, rfl⟩
  · -- what an open fan-out has read is no more than there is
    cases h.fanout_origin hx' with
    | kept x h_mem _ h_notification | resolved x _ _ h_mem _ h_notification =>
      rw [h_notification]
      obtain ⟨h_rc, h_dc⟩ := hC.loaded x h_mem
      obtain ⟨h_recipients, h_deliveries⟩ := h.length_mono hF x.notification.id
      exact ⟨h_rc.trans h_recipients, h_dc.trans h_deliveries⟩
    | opened h_mem h_call =>
      rcases Table.mem_visible.mp h_mem with h_com | h_own
      · obtain ⟨h_rc, h_dc⟩ := hC.stored _ h_com
        obtain ⟨h_recipients, h_deliveries⟩ := h.length_mono hF x'.notification.id
        exact ⟨h_rc.le.trans h_recipients, h_dc.le.trans h_deliveries⟩
      · exact absurd ((hF.requesters _ _ h_own).symm.trans h_call) (by decide)
  · -- recipients: counted before this move, or by it
    rcases (h.count_origin hx').recipients k hk with
      ⟨x, hx, h_pid, h_notification, h_held, h_own⟩ | ⟨⟨x, h_open, h_notification⟩, rfl, h_same⟩
    · have h_length := (h.length_of_counted hF h_meet hx hx' h_pid).1 k h_held
      rw [← h_notification, h_length, h_own, ← h_pid]
      exact hC.recipients x hx k h_held
    · rw [World.recipientsOf, h_same, ← World.recipientsOf]
      refine length_of_dictLen hS fun r hr => ?_
      obtain ⟨y, h_open', h_row⟩ := hF.recipients _ r hr
      obtain rfl := List.singleton_inj.mp (h_open.symm.trans h_open')
      exact h_row.trans (congrArg Notification.id h_notification)
  · -- deliveries likewise
    rcases (h.count_origin hx').deliveries k hk with
      ⟨x, hx, h_pid, h_notification, h_held, h_own⟩ |
      ⟨⟨x, h_open, h_notification⟩, ⟨pairs, h_pairs, rfl⟩, h_same⟩
    · have h_length := (h.length_of_counted hF h_meet hx hx' h_pid).2 k h_held
      rw [← h_notification, h_length, h_own, ← h_pid]
      exact hC.deliveries x hx k h_held
    · rw [World.deliveriesOf, h_same, ← World.deliveriesOf]
      refine length_of_pairs hS h_pairs fun r hr => ?_
      obtain ⟨y, h_open', h_row⟩ := hF.deliveries _ r hr
      obtain rfl := List.singleton_inj.mp (h_open.symm.trans h_open')
      exact h_row.trans (congrArg Notification.id h_notification)

end Moves

section Runs

variable {d : Deployment} {clock : Instant} {directory : Directory} {ls : Schedule} {c : State}

/-- **The counters are the numbers of rows**, in every state of every run in which a
fan-out that adds rows commits before the others of its notification have counted. -/
theorem countsMatch_of_commitsUncounted (h : d.Run clock directory ls c)
    (h_meet : surroundings.StepsMeet CommitsUncounted (d.start clock directory) ls) :
    ∀ n ∈ c.world.notifications.committed, c.world.CountsMatch n := by
  have h_both : OpenFanouts d c.world ∧ Counted c.world := by
    refine h.invariant (P := fun w => OpenFanouts d w ∧ Counted w)
      ⟨⟨?_, ?_, ?_, ?_, ?_⟩, ?_, ?_, ?_, ?_, ?_⟩
      (fun w w' hS hP hM h_meet => ⟨WorldMove.openFanouts hS hP.1 hM,
        WorldMove.counted hS hP.1 hP.2 hM h_meet⟩) h_meet
    all_goals simp [World.initial, Table.rows, Table.own, Table.empty]
  exact h_both.2.stored

/-- The second fan-out starts when the first has committed and the directory has
changed. -/
def consecutiveSchedule : Schedule := [
  .run 0 (.time (.ofInstant 0)), .run 0 .go, .run 0 (.fresh 10), .run 0 (.fresh 11),
  .run 1 .go, .run 1 (.time (.ofInstant 5)), .run 1 .go, .run 1 .go, .run 1 .go,
  .run 1 (.fresh 21), .run 1 .go, .run 1 .go, .run 1 (.fresh 22), .run 1 .go, .run 1 .go,
  .env (.setDirectory secondUser),
  .run 2 .go, .run 2 (.time (.ofInstant 6)), .run 2 .go, .run 2 .go, .run 2 .go,
  .run 2 (.fresh 31), .run 2 .go, .run 2 .go, .run 2 (.fresh 32), .run 2 .go, .run 2 .go]

/-- Both rows of each kind are counted. -/
theorem countsMatch_consecutive :
    ∃ c, twoConsumers.Run 0 firstUser consecutiveSchedule c ∧
      (c.world.notifications.committed.map fun n => (n.id, n.recipientCount, n.deliveryCount)) =
        [(10, 2, 2)] ∧
      ∀ n ∈ c.world.notifications.committed, c.world.CountsMatch n := by
  obtain ⟨c, h_run, h⟩ := twoConsumers.exists_run 0 firstUser consecutiveSchedule
    (fun c => decide ((c.world.notifications.committed.map fun n =>
      (n.id, n.recipientCount, n.deliveryCount)) = [(10, 2, 2)])) (by decide +kernel)
  exact ⟨c, h_run, of_decide_eq_true h,
    countsMatch_of_commitsUncounted h_run (by decide +kernel)⟩

end Runs

end NotificationBroker
