import NotificationBroker.Properties.AudienceTargets
import NotificationBroker.Properties.CreationIdempotency
import NotificationBroker.Properties.DeliveryOnce
import NotificationBroker.Properties.FanoutOnce

/-!
# Where deliveries come from

Users, groups and labels may change at any time, and so may differ between two fan-outs of one
notification. What can be said of a delivery is that its user was in the audience once: at the
moment some fan-out of the notification resolved it, when the notification was there already.

`Origins` carries this through a run. It speaks of the states the run has passed through, which
are collected on the way. An open fan-out has resolved its users in one of them, and every
recipient is one of the users of such a fan-out.

With the request behind the notification this gives what the system as a whole promises about
the messages it sends (`deliveries_requested`).
-/

namespace NotificationBroker

open Interleave Python
open ReadCommitted (Table Grows)
open NotificationFanoutService (audienceSelection)

/-- In one of the states the notification was there, and `userIds` was its audience. -/
def ResolvedIn (states : List World) (n : Notification) (userIds : List UUID) : Prop :=
  ∃ w ∈ states, (∃ n₀ ∈ w.notifications.committed, n₀.id = n.id) ∧
    w.directory.audienceOf n = .ok userIds

/-- The rows of fan-outs are for users that were resolved in one of the states. -/
structure Origins (states : List World) (w : World) : Prop where
  resolved : ∀ x ∈ w.fanouts, ∀ userIds, x.userIds = some userIds →
    ResolvedIn states x.notification userIds
  users : ∀ r ∈ w.recipients.rows, ∃ n ∈ w.notifications.committed, n.id = r.notificationId ∧
    ∃ userIds, ResolvedIn states n userIds ∧ r.userId ∈ userIds

/-- The call `q` of a service asked for the delivery `r`: the notification is its request, and
the channel is one that it named. -/
structure Deployment.AskedFor (d : Deployment) (q : Pid) (request : NotificationCreationInput)
    (w : World) (r : Delivery) : Prop where
  call : ∃ service sourceService idempotencyKey,
    d.calls q = .createNotification service sourceService request idempotencyKey ∧
    ∃ n ∈ w.notifications.committed, n.id = r.notificationId ∧ (n.id, q) ∈ w.issued ∧
      n.sourceService = sourceService ∧ n.message = request.message ∧
      n.severity = request.severity
  channel : ∃ channel ∈ request.channels, r.channel = channel.value

section Moves

variable {d : Deployment} {w w' : World} {states : List World}

theorem ResolvedIn.mono {n : Notification} {userIds : List UUID}
    (h : ResolvedIn states n userIds) (later : List World) :
    ResolvedIn (states ++ later) n userIds := by
  obtain ⟨w, h_mem, h_w⟩ := h
  exact ⟨w, List.mem_append_left _ h_mem, h_w⟩

theorem ResolvedIn.congr {n n' : Notification} {userIds : List UUID}
    (h : ResolvedIn states n userIds) (h_same : n.SameRequest n') :
    ResolvedIn states n' userIds := by
  obtain ⟨w, h_mem, ⟨n₀, hn₀, h_id⟩, h_audience⟩ := h
  refine ⟨w, h_mem, ⟨n₀, hn₀, h_id.trans h_same.id.symm⟩, ?_⟩
  rw [audienceOf_congr h_same, h_audience]

/-- One step, from the state `w`. -/
theorem WorldMove.origins (hF : OpenFanouts d w) (hO : Origins states w)
    (h : WorldMove d w w') : Origins (states ++ [w]) w' := by
  refine ⟨fun x' hx' userIds h_users => ?_, fun r hr => ?_⟩
  · cases h.fanout_origin hx' with
    | kept x h_mem _ h_notification h_same =>
      rw [h_notification]
      exact (hO.resolved x h_mem userIds (h_same ▸ h_users)).mono _
    | resolved x audience ids h_mem _ h_notification h_audience h_resolved h_ids =>
      -- the audience is resolved in `w`, where the notification is committed
      obtain rfl := Option.some.inj (h_ids.symm.trans h_users)
      obtain ⟨n, hn, h_same⟩ := hF.loaded x h_mem
      rw [h_notification]
      refine ⟨w, by simp, ⟨n, hn, h_same.id⟩, ?_⟩
      rw [Directory.audienceOf, h_audience]
      exact h_resolved
    | opened _ _ h_none => exact absurd (h_none.symm.trans h_users) (by simp)
  · obtain ⟨p, h_change⟩ := h.recipients
    rcases h_change.origin (fun _ => rfl) hr with
      ⟨r', hr', rfl⟩ | ⟨x, userIds, h_own, h_users, h_row, h_user⟩
    · obtain ⟨n, hn, h_id, userIds, h_resolved, h_user⟩ := hO.users r' hr'
      obtain ⟨n', hn', h_same⟩ := h.notifications_grow.mem hn
      exact ⟨n', hn', h_same.id.trans h_id, userIds, (h_resolved.congr h_same).mono _, h_user⟩
    · -- the row of an open fan-out is for a user it has resolved
      have hx := (mem_fanouts_of_own h_own).1
      obtain ⟨n, hn, h_same⟩ := h.mem_fanouts_loaded hF hx
      exact ⟨n, hn, h_same.id.trans h_row.symm, userIds,
        ((hO.resolved x hx userIds h_users).congr h_same).mono _, h_user⟩

end Moves

section Runs

variable {d : Deployment} {clock : Instant} {directory : Directory} {ls : Schedule} {c : State}

/-- The states that a run passes through before each of its steps. -/
def Deployment.states (d : Deployment) (clock : Instant) (directory : Directory) (ls : Schedule) :
    List World :=
  surroundings.collect (fun w _ => [w]) (d.start clock directory) ls

theorem Deployment.Run.origins (h : d.Run clock directory ls c) :
    Origins (d.states clock directory ls) c.world := by
  have h_both := h.collected (f := fun w _ => [w])
    (P := fun states w => OpenFanouts d w ∧ Origins states w) ⟨⟨?_, ?_, ?_, ?_, ?_⟩, ?_, ?_⟩
    fun states w w' hS _ hP hM => ⟨hM.openFanouts hS hP.1, hM.origins hP.1 hP.2⟩
  · exact h_both.2
  all_goals simp [World.initial, Table.rows, Table.own, Table.empty]

/-- A state that a run passes through is the end of the first part of it. -/
theorem Deployment.mem_states {w : World} (h : w ∈ d.states clock directory ls) :
    ∃ ls₀ ls₁ c₀, ls = ls₀ ++ ls₁ ∧ d.Run clock directory ls₀ c₀ ∧ c₀.world = w := by
  obtain ⟨ls₀, l, ls₁, c₀, c₁, h_split, h_run, -, h_mem⟩ := Machine.mem_collect h
  exact ⟨ls₀, l :: ls₁, c₀, h_split, h_run, (List.mem_singleton.mp h_mem).symm⟩

/-- The rows of a request are those of its creation call. -/
theorem Deployment.Requests.audience {q : Pid} {w : World} {row : Notification}
    (h : d.Requests q w row) : ∃ service sourceService request idempotencyKey,
      d.calls q = .createNotification service sourceService request idempotencyKey ∧
      row.sourceService = sourceService ∧ row.message = request.message ∧
      row.severity = request.severity ∧ row.channels = request.channels.map Channel.value ∧
      ∃ audience, audienceSelection row = .ok audience ∧ audience.Same request.audience := by
  obtain ⟨service, sourceService, request, key, value, identity, h_call, -, -, h_row⟩ := h
  refine ⟨service, sourceService, request, key, h_call, ?_⟩
  rw [h_row]
  exact ⟨rfl, rfl, rfl, rfl, audienceSelection_stored _ rfl (canonicalAudience_sorted _)⟩

/-- The users that are resolved are targets of the request. -/
theorem mem_audienceOf {n : Notification} {audience : AudienceSelection} {userIds : List UUID}
    (h_audience : directory.audienceOf n = .ok userIds)
    (h_read : audienceSelection n = .ok audience) {userId : UUID} :
    userId ∈ userIds ↔ directory.IsActive userId ∧ directory.Targets audience userId := by
  unfold Directory.audienceOf at h_audience
  rw [h_read] at h_audience
  obtain ⟨ids, h_ids, -, h_mem⟩ := directory.resolve_targets audience
  obtain rfl : ids = userIds := Except.ok.inj (h_ids.symm.trans h_audience)
  exact h_mem userId

/-- A delivery was asked for, and its user was then in the audience. -/
theorem Deployment.Run.askedFor (h : d.Run clock directory ls c) {r : Delivery}
    (hr : r ∈ c.world.deliveries.committed) :
    ∃ q request, d.AskedFor q request c.world r ∧
      ∃ ls₀ ls₁ c₀, ls = ls₀ ++ ls₁ ∧ d.Run clock directory ls₀ c₀ ∧
        (∃ n ∈ c₀.world.notifications.committed, n.id = r.notificationId) ∧
        c₀.world.directory.IsActive r.userId ∧
        c₀.world.directory.Targets request.audience r.userId := by
  -- the recipient of the delivery, and the notification with its audience
  obtain ⟨recipient, h_recipient, h_belongs⟩ := h.sound.grounded.committed r hr
  obtain ⟨n, hn, h_id, userIds, h_resolved, h_user⟩ :=
    h.origins.users recipient (Table.mem_rows_of_committed h_recipient)
  have h_notification : n.id = r.notificationId := h_id.trans h_belongs.notification
  -- the call behind the notification
  obtain ⟨q, row, h_issued, h_row, h_same⟩ := h.created.rows n (Table.mem_rows_of_committed hn)
  obtain ⟨service, sourceService, request, key, h_call, h_source, h_message, h_severity,
    h_channels, audience, h_read, h_audience⟩ := h_row.audience
  have h_request : n.request = row.request := h_same
  obtain ⟨n', hn', h_id', h_channel⟩ := h.fanoutRows.channels r (Table.mem_rows_of_committed hr)
  obtain rfl : n' = n :=
    h.sound.committed_notification_eq hn' hn (h_id'.trans h_notification.symm)
  rw [h_same.channels, h_channels] at h_channel
  obtain ⟨channel, h_mem, h_value⟩ := List.mem_map.mp h_channel
  refine ⟨q, request, ⟨⟨service, sourceService, key, h_call, n', hn, h_notification, h_issued, ?_,
    ?_, ?_⟩, channel, h_mem, h_value.symm⟩, ?_⟩
  · exact (congrArg Notification.sourceService h_request :).trans h_source
  · exact (congrArg Notification.message h_request :).trans h_message
  · exact (congrArg Notification.severity h_request :).trans h_severity
  · -- the state in which the fan-out resolved the audience
    obtain ⟨w, h_w, ⟨n₀, hn₀, h_id₀⟩, h_ids⟩ := h_resolved
    rw [audienceOf_congr h_same] at h_ids
    obtain ⟨ls₀, ls₁, c₀, h_split, h_run, rfl⟩ := Deployment.mem_states h_w
    obtain ⟨h_active, h_targets⟩ := (mem_audienceOf h_ids h_read).mp h_user
    rw [h_belongs.user] at h_active h_targets
    exact ⟨ls₀, ls₁, c₀, h_split, h_run, ⟨n₀, hn₀, h_id₀.trans h_notification⟩, h_active,
      (Directory.targets_congr h_audience).mp h_targets⟩

/-- The delivery that an adapter is called for is in the table, under the same key. -/
theorem Deployment.Run.called_committed (h : d.Run clock directory ls c) {p : Pid}
    {claim : ClaimedDelivery} {r : Delivery}
    (h_called : .adapterCalled p claim r ∈ c.world.history) :
    ∃ r' ∈ c.world.deliveries.committed, r'.key = r.key := by
  obtain ⟨ls₀, l, ls₁, c₀, c₁, h_split, h_run, h_step, h_rest, h_old, h_new⟩ :=
    Machine.exists_moment (P := fun c => .contextLoaded p claim (some r) ∈ c.world.history)
      (by simp [Deployment.start, World.initial]) h (h.called_loaded h_called)
  obtain ⟨q, h_effect⟩ := (Deployment.Run.move h_run h_step).recorded h_new h_old
  obtain ⟨h_mem, -⟩ := h_effect.context_loaded h_new h_old
  have h_later : surroundings.run c₀ (l :: ls₁) = some c :=
    Option.bind_eq_some_iff.mpr ⟨c₁, h_step, h_rest⟩
  obtain ⟨r', hr', h_follows⟩ := (Deployment.Run.deliveries_follow h_run h_later).mem h_mem
  exact ⟨r', hr', h_follows.key⟩

/-- **Nothing is sent that was not asked for.** Users, groups and labels may change at any time,
any calls may overlap, and any of them may crash. Whenever an adapter is called, some service has
asked for this: the notification is the request of its call, the channel is one that it named,
and there was a moment, after the notification had been committed, at which the user was active
and in the audience of the request. The same holds of every delivery in the table. -/
theorem deliveries_requested (h : d.Run clock directory ls c) {r : Delivery}
    (hr : r ∈ c.world.deliveries.committed ∨
      ∃ p claim, .adapterCalled p claim r ∈ c.world.history) :
    ∃ q request, d.AskedFor q request c.world r ∧
      ∃ ls₀ ls₁ c₀, ls = ls₀ ++ ls₁ ∧ d.Run clock directory ls₀ c₀ ∧
        (∃ n ∈ c₀.world.notifications.committed, n.id = r.notificationId) ∧
        c₀.world.directory.IsActive r.userId ∧
        c₀.world.directory.Targets request.audience r.userId := by
  rcases hr with hr | ⟨p, claim, h_called⟩
  · exact h.askedFor hr
  · -- what has been loaded is an earlier value of the row
    obtain ⟨r', hr', h_key⟩ := h.called_committed h_called
    obtain ⟨q, request, h_asked, h_moment⟩ := h.askedFor hr'
    simp only [Delivery.key, Prod.mk.injEq] at h_key
    obtain ⟨-, -, h_notification, h_user, h_channel⟩ := h_key
    rw [h_notification, h_user] at h_moment
    refine ⟨q, request, ⟨?_, h_channel ▸ h_asked.channel⟩, h_moment⟩
    exact h_notification ▸ h_asked.call

/-- A creation, a consumer of its event and a worker. -/
def leaverDeployment : Deployment := .ofCalls id [
  .createNotification ⟨3600000000⟩ "orders" (.toAll [.web] postInit_web) none,
  .consume {} "consumer" (.requested 11 10),
  .processDueDeliveries ⟨[.web], none, "worker", 60000000, 30000000⟩ 10]

/-- The only user is no longer active. -/
def leaverDirectory : Directory :=
  { Directory.ofUsers [1] (by decide) with
    users := [⟨1, false⟩]
    users_nodup := by decide }

/-- The user leaves between the fan-out and the call of the adapter. -/
def leaverSchedule : Schedule := [
  .run 0 (.time (.ofInstant 0)), .run 0 .go, .run 0 (.fresh 10), .run 0 (.fresh 11),
  .run 1 .go, .run 1 (.time (.ofInstant 0)), .run 1 .go, .run 1 .go, .run 1 .go,
  .run 1 (.fresh 21), .run 1 .go, .run 1 .go, .run 1 (.fresh 22), .run 1 .go, .run 1 .go,
  .env (.setDirectory leaverDirectory),
  .run 2 (.time (.ofInstant 5)), .run 2 (.claim [] [31]), .run 2 .go, .run 2 .go]

theorem deliveries_requested_leaver :
    ∃ c, leaverDeployment.Run 0 (.ofUsers [1] (by decide)) leaverSchedule c ∧
      c.world.directory = leaverDirectory ∧
      ∃ r, .adapterCalled 2 ⟨22, 31⟩ r ∈ c.world.history ∧ r.userId = 1 ∧
        ∃ ls₀ ls₁ c₀, leaverSchedule = ls₀ ++ ls₁ ∧
          leaverDeployment.Run 0 (.ofUsers [1] (by decide)) ls₀ c₀ ∧
          c₀.world.directory.IsActive 1 := by
  obtain ⟨c, h_run, h⟩ := leaverDeployment.exists_run 0 (.ofUsers [1] (by decide))
    leaverSchedule (fun c => decide (c.world.directory = leaverDirectory) &&
      c.world.history.any fun event => match event with
        | .adapterCalled p claim r => decide (p = 2 ∧ claim = ⟨22, 31⟩ ∧ r.userId = 1)
        | _ => false) (by decide +kernel)
  obtain ⟨h_directory, h_any⟩ := Bool.and_eq_true_iff.mp h
  obtain ⟨event, h_mem, h_event⟩ := List.any_eq_true.mp h_any
  -- the directory has lost the user, who was active before
  cases event with
  | adapterCalled p claim r =>
    obtain ⟨rfl, rfl, h_user⟩ := of_decide_eq_true h_event
    obtain ⟨q, request, -, ls₀, ls₁, c₀, h_split, h_run₀, -, h_active, -⟩ :=
      deliveries_requested h_run (.inr ⟨_, _, h_mem⟩)
    exact ⟨c, h_run, of_decide_eq_true h_directory, r, h_mem, h_user, ls₀, ls₁, c₀, h_split,
      h_run₀, h_user ▸ h_active⟩
  | _ => exact absurd h_event (by simp)

end Runs

end NotificationBroker
