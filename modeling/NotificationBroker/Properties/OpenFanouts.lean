import NotificationBroker.System.Verified

/-!
# Open fan-outs

A fan-out transaction works on the notification it has loaded: a copy of a
committed row, which the row does not outgrow but for its counters. What it has
inserted and not committed are rows of this notification (`OpenFanouts`).

`FanoutOrigin` says where an entry of the list of open fan-outs comes from: it was
there before, perhaps with its audience resolved since, or it has just been opened.
-/

namespace NotificationBroker

open Interleave Python
open ReadCommitted (Table Grows)
open NotificationFanoutService (audienceSelection note)

/-- Where the entry `x'` comes from, if the world was `w` before. -/
inductive FanoutOrigin (d : Deployment) (w : World) (x' : Fanout) : Prop
  | kept (x : Fanout) (h_mem : x ∈ w.fanouts) (h_pid : x'.pid = x.pid)
      (h_notification : x'.notification = x.notification) (h_users : x'.userIds = x.userIds)
  | resolved (x : Fanout) (audience : AudienceSelection) (userIds : List UUID)
      (h_mem : x ∈ w.fanouts) (h_pid : x'.pid = x.pid)
      (h_notification : x'.notification = x.notification)
      (h_audience : audienceSelection x.notification = .ok audience)
      (h_resolved : w.directory.resolve audience = .ok userIds)
      (h_users : x'.userIds = some userIds)
  | opened (h_mem : x'.notification ∈ w.notifications.visible x'.pid)
      (h_call : (d.calls x'.pid).part = .consumer) (h_users : x'.userIds = none)

/-- The rows of open transactions. -/
structure OpenFanouts (d : Deployment) (w : World) : Prop where
  /-- Only creations have uncommitted notifications. -/
  requesters : ∀ p, ∀ n ∈ w.notifications.own p, (d.calls p).part = .creation
  loaded : ∀ x ∈ w.fanouts, ∃ n ∈ w.notifications.committed, x.notification.SameRequest n
  recipients : ∀ p, ∀ r ∈ w.recipients.own p, ∃ x, w.fanoutsOf p = [x] ∧
    r.notificationId = x.notification.id
  deliveries : ∀ p, ∀ r ∈ w.deliveries.own p, ∃ x, w.fanoutsOf p = [x] ∧
    r.notificationId = x.notification.id
  known : ∀ r ∈ w.recipients.rows, ∃ n ∈ w.notifications.committed, n.id = r.notificationId

variable {d : Deployment} {p q : Pid} {w w' : World}

theorem mem_fanoutsOf {x : Fanout} (h : x ∈ w.fanouts) : x ∈ w.fanoutsOf x.pid :=
  List.mem_filter.mpr ⟨h, by simp⟩

theorem mem_fanouts_of_own {x : Fanout} (h : w.fanoutsOf p = [x]) : x ∈ w.fanouts ∧ x.pid = p := by
  have h_mem : x ∈ w.fanoutsOf p := by simp [h]
  simpa [World.fanoutsOf] using h_mem

/-- An entry after `note` is an entry, or the own one updated. -/
theorem mem_note {f : Fanout → Fanout} {x' : Fanout} (h : x' ∈ (note p f w).fanouts) :
    (∃ x ∈ w.fanoutsOf p, x' = f x) ∨ (x' ∈ w.fanouts ∧ x'.pid ≠ p) := by
  obtain ⟨x, hx, rfl⟩ := List.mem_map.mp h
  by_cases h_pid : x.pid = p
  · rw [if_pos h_pid]
    exact .inl ⟨x, h_pid ▸ mem_fanoutsOf hx, rfl⟩
  · rw [if_neg h_pid]
    exact .inr ⟨hx, h_pid⟩

theorem Effect.fanout_origin (h : Effect d p w w') {x' : Fanout} (hx' : x' ∈ w'.fanouts) :
    FanoutOrigin d w x' := by
  -- noting a count does not change whose fan-out it is
  have h_kept : ∀ {f : Fanout → Fanout}, x' ∈ (note p f w).fanouts →
      (∀ x, (f x).pid = x.pid ∧ (f x).notification = x.notification ∧
        (f x).userIds = x.userIds) → FanoutOrigin d w x' := by
    intro f h_mem hf
    rcases mem_note h_mem with ⟨x, hx, rfl⟩ | ⟨hx, -⟩
    · obtain ⟨h_pid, h_notification, h_users⟩ := hf x
      exact .kept x (List.mem_filter.mp hx).1 h_pid h_notification h_users
    · exact .kept x' hx rfl rfl rfl
  cases h with
  | openFanout n h_own h_mem h_call =>
    rcases List.mem_append.mp hx' with hx | hx
    · exact .kept x' hx rfl rfl rfl
    · obtain rfl := List.mem_singleton.mp hx
      exact .opened h_mem h_call rfl
  | resolveAudience x userIds audience h_own h_new h_audience h_resolved =>
    -- the audience is resolved once, by the fan-out that is open
    rcases mem_note hx' with ⟨y, hy, rfl⟩ | ⟨hx, -⟩
    · rw [h_own] at hy
      obtain rfl := List.mem_singleton.mp hy
      exact .resolved y audience userIds (mem_fanouts_of_own h_own).1 rfl rfl h_audience h_resolved
        rfl
    · exact .kept x' hx rfl rfl rfl
  | countRecipients | countDeliveries => exact h_kept hx' fun _ => ⟨rfl, rfl, rfl⟩
  | commitFanout | rollback => exact .kept x' (List.mem_filter.mp hx').1 rfl rfl rfl
  | _ => exact .kept x' hx' rfl rfl rfl

theorem WorldMove.fanout_origin (h : WorldMove d w w') {x' : Fanout} (hx' : x' ∈ w'.fanouts) :
    FanoutOrigin d w x' := by
  cases h with
  | act p h =>
    cases h with
    | effect h => exact h.fanout_origin hx'
    | finish h => cases h <;> exact .kept x' hx' rfl rfl rfl
  | env e h =>
    obtain ⟨clock, directory, rfl⟩ := env_apply h
    exact .kept x' hx' rfl rfl rfl
  | abort p h =>
    subst h
    exact .kept x' (List.mem_filter.mp hx').1 rfl rfl rfl

/-- An open fan-out stays open, on the same notification and for the users it has
resolved, or its transaction ends. -/
theorem WorldMove.fanoutsOf (h : WorldMove d w w') {x : Fanout} (h_open : w.fanoutsOf q = [x]) :
    (∃ x', w'.fanoutsOf q = [x'] ∧ x'.notification = x.notification ∧
      ∀ userIds, x.userIds = some userIds → x'.userIds = some userIds) ∨
      (w'.recipients.own q = [] ∧ w'.deliveries.own q = []) := by
  cases h with
  | act p h =>
    cases h with
    | effect h =>
      -- only its own effects change the fan-out of a party
      by_cases h_ne : q = p
      · subst h_ne
        cases h with
        | openFanout n h_own => exact absurd (h_own.symm.trans h_open) (by simp)
        | resolveAudience y userIds audience h_own h_new =>
          obtain rfl := List.singleton_inj.mp (h_open.symm.trans h_own)
          exact .inl ⟨_, OpenAs.note h_open (fun x => { x with userIds := some userIds })
            (fun _ => rfl), rfl, fun ids h_ids => absurd (h_new.1.symm.trans h_ids) (by simp)⟩
        | countRecipients =>
          exact .inl ⟨_, OpenAs.note h_open (fun x => { x with recipientCount := some _ })
            (fun _ => rfl), rfl, fun _ h_ids => h_ids⟩
        | countDeliveries =>
          exact .inl ⟨_, OpenAs.note h_open (fun x => { x with deliveryCount := some _ })
            (fun _ => rfl), rfl, fun _ h_ids => h_ids⟩
        | commitFanout => exact .inr ⟨Table.own_commit_self, Table.own_commit_self⟩
        | rollback => exact .inr ⟨Table.own_abort_self, Table.own_abort_self⟩
        | _ => exact .inl ⟨x, h_open, rfl, fun _ h_ids => h_ids⟩
      · exact .inl ⟨x, (h.fanouts_of_ne h_ne).trans h_open, rfl, fun _ h_ids => h_ids⟩
    | finish h => cases h <;> exact .inl ⟨x, h_open, rfl, fun _ h_ids => h_ids⟩
  | env e h =>
    obtain ⟨clock, directory, rfl⟩ := env_apply h
    exact .inl ⟨x, h_open, rfl, fun _ h_ids => h_ids⟩
  | abort p h =>
    subst h
    -- a crash rolls its rows back
    by_cases h_ne : q = p
    · subst h_ne
      exact .inr ⟨Table.own_abort_self, Table.own_abort_self⟩
    · exact .inl ⟨x, (filter_pid_of_ne h_ne w.fanouts).trans h_open, rfl, fun _ h_ids => h_ids⟩

/-- The notification of an open fan-out stays committed. -/
theorem WorldMove.mem_fanouts_loaded (h : WorldMove d w w') (hF : OpenFanouts d w) {x : Fanout}
    (hx : x ∈ w.fanouts) : ∃ n ∈ w'.notifications.committed, x.notification.SameRequest n := by
  obtain ⟨n, hn, h_same⟩ := hF.loaded x hx
  obtain ⟨n', hn', h_same'⟩ := h.notifications_grow.mem hn
  exact ⟨n', hn', Eq.trans h_same' h_same⟩

theorem WorldMove.openFanouts (hS : Sound w) (hF : OpenFanouts d w) (h : WorldMove d w w') :
    OpenFanouts d w' := by
  refine ⟨fun q n hn => ?_, fun x' hx' => ?_, fun q r hr => ?_, fun q r hr => ?_, fun r hr => ?_⟩
  · -- pending notifications belong to callers that create them
    obtain ⟨p, h_change⟩ := h.notifications
    rcases h_change.own_origin hn with hn | ⟨rfl, h_row, -⟩
    · exact hF.requesters q n hn
    · obtain ⟨service, source, request, key, value, identity, h_call, -⟩ := h_row
      exact congrArg Call.part h_call
  · -- the notification of an open fan-out is committed
    cases h.fanout_origin hx' with
    | kept x h_mem _ h_notification | resolved x _ _ h_mem _ h_notification =>
      exact h_notification ▸ WorldMove.mem_fanouts_loaded h hF h_mem
    | opened h_mem h_call =>
      rcases Table.mem_visible.mp h_mem with h_com | h_own
      · exact h.notifications_grow.mem h_com
      · exact absurd ((hF.requesters _ _ h_own).symm.trans h_call) (by decide)
  · -- pending recipients belong to an open fan-out
    obtain ⟨p, h_change⟩ := h.recipients
    obtain ⟨x, h_open, h_row⟩ :
        ∃ x, w.fanoutsOf q = [x] ∧ r.notificationId = x.notification.id := by
      rcases h_change.own_origin hr with hr | ⟨rfl, x, userIds, h_own, -, h_row, -⟩
      · exact hF.recipients q r hr
      · exact ⟨x, h_own, h_row⟩
    rcases h.fanoutsOf h_open with ⟨x', h_open', h_same, -⟩ | ⟨h_none, -⟩
    · exact ⟨x', h_open', h_row.trans (congrArg Notification.id h_same).symm⟩
    · exact absurd hr (by simp [h_none])
  · -- and so do pending deliveries
    obtain ⟨p, h_change⟩ := h.deliveries hS
    obtain ⟨x, h_open, h_row⟩ :
        ∃ x, w.fanoutsOf q = [x] ∧ r.notificationId = x.notification.id := by
      rcases h_change.own_origin hr with hr | ⟨rfl, h_new⟩
      · exact hF.deliveries q r hr
      · obtain ⟨x, userIds, channels, channel, h_own, -, -, h_row, -⟩ := h_new.requested
        exact ⟨x, h_own, h_row⟩
    rcases h.fanoutsOf h_open with ⟨x', h_open', h_same, -⟩ | ⟨-, h_none⟩
    · exact ⟨x', h_open', h_row.trans (congrArg Notification.id h_same).symm⟩
    · exact absurd hr (by simp [h_none])
  · -- every recipient is of a notification that is known
    obtain ⟨p, h_change⟩ := h.recipients
    rcases h_change.origin (fun _ => rfl) hr with ⟨r', hr', rfl⟩ | ⟨x, userIds, h_own, -, h_row, -⟩
    · obtain ⟨n, hn, h_id⟩ := hF.known r' hr'
      obtain ⟨n', hn', h_same⟩ := h.notifications_grow.mem hn
      exact ⟨n', hn', h_same.id.trans h_id⟩
    · obtain ⟨n, hn, h_same⟩ := WorldMove.mem_fanouts_loaded h hF (mem_fanouts_of_own h_own).1
      exact ⟨n, hn, h_same.id.trans h_row.symm⟩

theorem Deployment.Run.openFanouts {clock : Instant} {directory : Directory} {ls : Schedule}
    {c : State} (h : d.Run clock directory ls c) : OpenFanouts d c.world := by
  refine h.always (P := OpenFanouts d) ⟨?_, ?_, ?_, ?_, ?_⟩
    fun w w' hS hF hM => hM.openFanouts hS hF
  all_goals simp [World.initial, Table.rows, Table.own, Table.empty]

end NotificationBroker
