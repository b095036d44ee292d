import NotificationBroker.Properties.AudienceTargets
import NotificationBroker.Properties.DeliveryAttempts
import NotificationBroker.Properties.DeliveryRows
import NotificationBroker.Properties.NotStranded
import NotificationBroker.Properties.ProcessedEvents
import NotificationBroker.Properties.RetryAudit

/-!
# The constraints of the schema

The tables are declared with primary keys, unique constraints, checks and foreign keys. Of these
the statements of the model look at the unique constraints and checks that some code reacts to;
no statement looks at a foreign key. Some checks hold of every row that there is: the types of
its fields allow only the values of the enumerations (severity, audience, status) and no negative
count. `SchemaHolds` lists all others, and every state of every run satisfies it, rows of open
transactions included: PostgreSQL has no reason to refuse a statement that the model carries out.

Most of it is known from the effects of the calls. That a retry records its audit row for a
notification, and for a web delivery, that is there, is known from its program only: it has read
both rows before (`retryAll_awaits`, `retryUserNotification_awaits`), and rows are never deleted.
-/

namespace NotificationBroker

open Interleave Interleave.Prog Python
open ReadCommitted (Table Grows)

/-- `ck_notification_action_invocations_replay_result`. -/
def ActionInvocation.resultFits (a : ActionInvocation) : Prop :=
  (a.result = .queued ∧ a.replayId.isSome) ∨ (a.result = .noEligible ∧ a.replayId = none)

/-- The declared constraints, table by table, less those that the types of the rows carry: the
values of the enumerations and the counts that are not negative. A row of an open transaction may
refer to rows of the same transaction. -/
structure SchemaHolds (w : World) : Prop where
  notifications_key : (w.notifications.rows.map Notification.id).Nodup
  /-- `uq_notification_requests_source_idempotency_key` and
  `uq_notification_requests_source_deduplication`. -/
  notifications_unique : w.notifications.Unique Notification.conflicts
  notifications_deduplication : ∀ n ∈ w.notifications.rows, n.deduplicationPresent = true
  recipients_key : (w.recipients.rows.map Recipient.id).Nodup
  recipients_unique : w.recipients.Unique Recipient.conflicts
  recipients_notification : ∀ r ∈ w.recipients.rows,
    ∃ n ∈ w.notifications.committed, n.id = r.notificationId
  recipients_user : ∀ r ∈ w.recipients.rows, r.userId ∈ w.directory.users.map User.id
  deliveries_key : (w.deliveries.rows.map Delivery.id).Nodup
  deliveries_unique : w.deliveries.Unique Delivery.conflicts
  deliveries_bounds : ∀ r ∈ w.deliveries.rows, r.attemptBounds = true
  /-- `ck_notification_deliveries_channel`. -/
  deliveries_channel : ∀ r ∈ w.deliveries.rows, ∃ channel : Channel, r.channel = channel.value
  deliveries_recipient : ∀ r ∈ w.deliveries.committed,
    ∃ x ∈ w.recipients.committed, x.id = r.notificationRecipientId
  deliveries_recipient_own : ∀ p, ∀ r ∈ w.deliveries.own p,
    ∃ x ∈ w.recipients.visible p, x.id = r.notificationRecipientId
  deliveries_notification : ∀ r ∈ w.deliveries.rows,
    ∃ n ∈ w.notifications.committed, n.id = r.notificationId
  deliveries_user : ∀ r ∈ w.deliveries.rows, r.userId ∈ w.directory.users.map User.id
  attempts_key : (w.attempts.map DeliveryAttempt.id).Nodup
  attempts_unique : w.attempts.Pairwise fun a b => a.conflicts b = false
  /-- `ck_delivery_attempts_positive_attempt_number`. -/
  attempts_positive : ∀ a ∈ w.attempts, 0 < a.attemptNumber
  attempts_delivery : ∀ a ∈ w.attempts, ∃ r ∈ w.deliveries.committed, r.id = a.deliveryId
  invocations_key : (w.invocations.map ActionInvocation.id).Nodup
  invocations_result : ∀ a ∈ w.invocations, a.resultFits
  invocations_notification : ∀ a ∈ w.invocations,
    ∃ n ∈ w.notifications.committed, n.id = a.notificationId
  invocations_delivery : ∀ a ∈ w.invocations, ∀ deliveryId, a.webDeliveryId = some deliveryId →
    ∃ r ∈ w.deliveries.committed, r.id = deliveryId
  outbox_key : (w.outbox.map OutboxEvent.id).Nodup
  processed_key : w.processed.Pairwise fun a b => ¬ a.conflicts b

/-! ### What a retry has read -/

section Programs

variable {p : Pid} {A : World → World → Prop} {a : ActionInvocation}

/-- `a` is not recorded. -/
def NotRecorded (a : ActionInvocation) (w w' : World) : Prop :=
  a ∈ w'.invocations → a ∈ w.invocations

theorem recordRetry_awaits (requester : RetryService.Requester) {notificationId : UUID}
    (h : ¬ (a.notificationId = notificationId ∧ a.webDeliveryId = requester.webDeliveryId))
    (eligible : List Delivery) (requestedAt : Instant) :
    Prog.Awaits p A (NotRecorded a) (OnReturn fun _ => True)
      (RetryService.recordRetry requester notificationId eligible requestedAt) := by
  refine Awaits.bind_raising (R := fun _ => True) (awaits_perform fun i w _ w' hf => ?_)
    fun _ _ => awaits_return trivial
  refine .inr ⟨fun h_mem => ?_, trivial⟩
  cases i with
  | retry skipped replayId eventId invocationId =>
    simp only [Option.ite_none_right_eq_some] at hf
    obtain ⟨-, rfl⟩ := Prod.mk.inj (Option.some.inj hf.2)
    refine (List.mem_append.mp h_mem).resolve_right fun h_new => h ?_
    rw [List.mem_singleton.mp h_new]
    exact ⟨rfl, rfl⟩
  | _ => exact absurd hf (by simp)

/-- A retry by a service has read the notification it records. -/
theorem retryAll_awaits (permitted : Notification → Except PyError Unit) (notificationId : UUID)
    (requester : RetryService.Requester)
    (hA : ∀ w n, n ∈ w.notifications.visible p → n.id = a.notificationId →
      a.webDeliveryId = requester.webDeliveryId → A w w) :
    Prog.Awaits p A (NotRecorded a) (OnReturn fun _ => True)
      (RetryService.retryAll permitted notificationId requester) := by
  refine Awaits.bind_raising (awaits_awareUtcNow fun _ _ => id) fun requestedAt _ => ?_
  refine awaits_unitOfWork (fun _ => id) ?_
  refine Awaits.bind_raising (R := fun found => ∀ n, found = some n →
    ¬ (a.notificationId = n.id ∧ a.webDeliveryId = requester.webDeliveryId))
    (awaits_query fun w => ?_) fun found h_found => ?_
  · -- the query finds the notification of the row, and then the row is known
    cases h_find : getNotification (w.notifications.visible p) notificationId with
    | none => exact .inr ⟨id, fun n hn => nomatch hn⟩
    | some n =>
      by_cases h_key : a.notificationId = n.id ∧ a.webDeliveryId = requester.webDeliveryId
      · exact .inl (hA w n (List.mem_of_find?_eq_some h_find) h_key.1.symm h_key.2)
      · refine .inr ⟨id, fun m hm => ?_⟩
        obtain rfl := Option.some.inj hm
        exact h_key
  · cases found with
    | none => exact awaits_throw _
    | some n =>
      -- what is recorded names the notification that was found
      refine Awaits.bind_raising (R := fun _ => True) (awaits_compute fun _ _ => trivial)
        fun _ _ => ?_
      exact Awaits.bind_raising (R := fun _ => True) (awaits_query fun _ => .inr ⟨id, trivial⟩)
        fun eligible _ => recordRetry_awaits requester (h_found n rfl) eligible requestedAt

/-- A retry by a user has read the web delivery and the notification it records. -/
theorem retryUserNotification_awaits (webNotificationId userId : UUID)
    (hA : (∀ w n, n ∈ w.notifications.visible p → n.id = a.notificationId → A w w) ∨
      ∀ w r, r ∈ w.deliveries.visible p → a.webDeliveryId = some r.id → A w w) :
    Prog.Awaits p A (NotRecorded a) (OnReturn fun _ => True)
      (RetryService.retryUserNotification webNotificationId userId) := by
  refine Awaits.bind_raising (awaits_awareUtcNow fun _ _ => id) fun requestedAt _ => ?_
  refine awaits_unitOfWork (fun _ => id) ?_
  refine Awaits.bind_raising (R := fun found => ∀ r, found = some r →
      a.webDeliveryId = some r.id →
        ∀ w n, n ∈ w.notifications.visible p → n.id = a.notificationId → A w w)
    (awaits_query fun w => ?_) fun found h_found => ?_
  · -- the first query finds the web delivery
    cases h_find : getVisibleWebDeliveryForUser (w.deliveries.visible p) webNotificationId
        userId with
    | none => exact .inr ⟨id, fun r hr => nomatch hr⟩
    | some r =>
      rcases hA with hA | hA
      · exact .inr ⟨id, fun _ _ _ => hA⟩
      · by_cases h_web : a.webDeliveryId = some r.id
        · exact .inl (hA w r (List.mem_of_find?_eq_some h_find) h_web)
        · refine .inr ⟨id, fun r' hr' h_web' => absurd h_web' ?_⟩
          obtain rfl := Option.some.inj hr'
          exact h_web
  · cases found with
    | none => exact awaits_throw _
    | some r =>
      refine Awaits.bind_raising (R := fun found => ∀ n, found = some n →
        ¬ (a.notificationId = n.id ∧ a.webDeliveryId = some r.id))
        (awaits_query fun w => ?_) fun found' h_found' => ?_
      · -- the second one finds its notification
        cases h_find : getNotification (w.notifications.visible p) r.notificationId with
        | none => exact .inr ⟨id, fun n hn => nomatch hn⟩
        | some n =>
          by_cases h_key : a.notificationId = n.id ∧ a.webDeliveryId = some r.id
          · exact .inl (h_found r rfl h_key.2 w n (List.mem_of_find?_eq_some h_find) h_key.1.symm)
          · refine .inr ⟨id, fun m hm => ?_⟩
            obtain rfl := Option.some.inj hm
            exact h_key
      · cases found' with
        | none => exact awaits_throw _
        | some n =>
          -- what is recorded names both
          exact Awaits.bind_raising (R := fun _ => True)
            (awaits_query fun _ => .inr ⟨id, trivial⟩) fun eligible _ =>
              recordRetry_awaits ⟨.user, userId.str, some r.id⟩ (h_found' n rfl)
                eligible requestedAt

end Programs

/-! ### What the effects keep -/

/-- What the other constraints rest on: an audience is resolved among the users there are, and
only consumers fan out. -/
structure SchemaRows (d : Deployment) (w : World) : Prop where
  consumers : ∀ x ∈ w.fanouts, (d.calls x.pid).part = .consumer
  resolved : ∀ x ∈ w.fanouts, ∀ userIds, x.userIds = some userIds →
    ∀ userId ∈ userIds, userId ∈ w.directory.users.map User.id
  users : ∀ r ∈ w.recipients.rows, r.userId ∈ w.directory.users.map User.id
  attempts : Issued w.issued (w.attempts.map DeliveryAttempt.id)
  results : ∀ a ∈ w.invocations, a.resultFits

section Moves

variable {d : Deployment} {p : Pid} {w w' : World}

theorem Acts.directory (h : Acts d p w w') : w'.directory = w.directory := by
  cases h with
  | effect h => cases h <;> rfl
  | finish h => cases h <;> rfl

/-- Users stay. -/
theorem WorldMove.users_stay (h : WorldMove d w w') {userId : UUID}
    (h_user : userId ∈ w.directory.users.map User.id) :
    userId ∈ w'.directory.users.map User.id := by
  cases h with
  | act p h => exact h.directory ▸ h_user
  | abort p h => exact h ▸ h_user
  | env e h =>
    cases e with
    | tick clock =>
      simp only [surroundings, EnvMove.apply, Option.ite_none_right_eq_some] at h
      exact Option.some.inj h.2 ▸ h_user
    | setDirectory directory =>
      simp only [surroundings, EnvMove.apply, Option.ite_none_right_eq_some] at h
      rw [← Option.some.inj h.2]
      exact of_decide_eq_true (List.all_eq_true.mp h.1 userId h_user)

theorem Directory.mem_users_of_resolve {directory : Directory} {audience : AudienceSelection}
    {userIds : List UUID} (h : directory.resolve audience = .ok userIds) {userId : UUID}
    (h_mem : userId ∈ userIds) : userId ∈ directory.users.map User.id := by
  obtain ⟨ids, h_ids, -, h_targets⟩ := directory.resolve_targets audience
  obtain rfl : ids = userIds := Except.ok.inj (h_ids.symm.trans h)
  obtain ⟨u, hu, -, rfl⟩ := ((h_targets userId).mp h_mem).1
  exact List.mem_map_of_mem hu

theorem Acts.attempts (h : Acts d p w w') (hI : Issued w.issued (w.attempts.map (·.id))) :
    Issued w'.issued (w'.attempts.map (·.id)) := by
  obtain ⟨new, h_new⟩ := h.issued
  have h_kept : w'.attempts = w.attempts → Issued w'.issued (w'.attempts.map (·.id)) := by
    intro h_same
    rw [h_same, h_new]
    exact hI.mono _
  cases h with
  | finish h => cases h <;> exact h_kept rfl
  | effect h =>
    cases h with
    | finalizeDelivery x outcome now retryDelay delivery attemptId _ _ _ _ _ _ _ h_fresh =>
      -- the one effect that adds an attempt, under a fresh identifier
      have h_mem : attemptId ∈ [(attemptId, p)].map Prod.fst := List.mem_singleton_self _
      refine (hI.cons_of_mem h_fresh h_mem).perm ?_
      rw [List.map_append]
      exact List.perm_append_singleton _ _
    | _ => exact h_kept rfl

theorem Acts.results (h : Acts d p w w') (hR : ∀ a ∈ w.invocations, a.resultFits) :
    ∀ a ∈ w'.invocations, a.resultFits := by
  cases h with
  | effect h => exact h.invocations ▸ hR
  | finish h =>
    cases h with
    | commitNotification => exact hR
    | commitRetry requester notificationId eligible skipped requestedAt replayId =>
      intro a ha
      rcases List.mem_append.mp ha with ha | ha
      · exact hR a ha
      · rw [List.mem_singleton.mp ha]
        unfold ActionInvocation.resultFits RetryService.invocation
        split <;> simp

theorem WorldMove.schemaRows (h : WorldMove d w w') (hR : SchemaRows d w) : SchemaRows d w' where
  consumers x' hx' := by
    cases h.fanout_origin hx' with
    | kept x h_mem h_pid => exact h_pid ▸ hR.consumers x h_mem
    | resolved x _ _ h_mem h_pid => exact h_pid ▸ hR.consumers x h_mem
    | opened _ h_call _ => exact h_call
  resolved x' hx' userIds h_users userId h_user := by
    cases h.fanout_origin hx' with
    | kept x h_mem _ _ h_same =>
      exact h.users_stay (hR.resolved x h_mem userIds (h_same ▸ h_users) userId h_user)
    | resolved x audience ids h_mem _ _ _ h_resolved h_ids =>
      -- an audience is made of users of the directory
      obtain rfl := Option.some.inj (h_ids.symm.trans h_users)
      exact h.users_stay (Directory.mem_users_of_resolve h_resolved h_user)
    | opened _ _ h_none => exact absurd (h_none.symm.trans h_users) (by simp)
  users r hr := by
    obtain ⟨p, h_change⟩ := h.recipients
    -- a new recipient is in an audience that has been resolved
    rcases h_change.origin (fun _ => rfl) hr with
      ⟨r', hr', rfl⟩ | ⟨x, userIds, h_own, h_users, -, h_user⟩
    · exact h.users_stay (hR.users r' hr')
    · exact h.users_stay (hR.resolved x (mem_fanouts_of_own h_own).1 userIds h_users _ h_user)
  attempts := by
    cases h with
    | act p h => exact h.attempts hR.attempts
    | env e h =>
      obtain ⟨clock, directory, rfl⟩ := env_apply h
      exact hR.attempts
    | abort p h => exact h ▸ hR.attempts
  results := by
    cases h with
    | act p h => exact h.results hR.results
    | env e h =>
      obtain ⟨clock, directory, rfl⟩ := env_apply h
      exact hR.results
    | abort p h => exact h ▸ hR.results

end Moves

/-! ### Whole runs -/

section Runs

variable {d : Deployment} {clock : Instant} {directory : Directory} {ls ls' : Schedule}
  {c c' : State}

theorem Deployment.Run.schemaRows (h : d.Run clock directory ls c) : SchemaRows d c.world := by
  refine h.always (P := SchemaRows d) ⟨?_, ?_, ?_, ⟨?_, ?_⟩, ?_⟩ fun _ _ _ hP hM =>
    WorldMove.schemaRows hM hP
  all_goals simp [World.initial, Table.rows, Table.empty]

/-- A notification that a retry sees is committed. -/
theorem Deployment.Run.visible_notification (h : d.Run clock directory ls c) {p : Pid}
    (h_call : (d.calls p).part = .retry) {n : Notification}
    (hn : n ∈ c.world.notifications.visible p) : n ∈ c.world.notifications.committed := by
  rcases Table.mem_visible.mp hn with h_com | h_own
  · exact h_com
  · exact absurd (h_call.symm.trans (h.openFanouts.requesters p n h_own)) (by simp)

theorem Deployment.Run.visible_delivery (h : d.Run clock directory ls c) {p : Pid}
    (h_call : (d.calls p).part = .retry) {r : Delivery}
    (hr : r ∈ c.world.deliveries.visible p) : r ∈ c.world.deliveries.committed := by
  rcases Table.mem_visible.mp hr with h_com | h_own
  · exact h_com
  · obtain ⟨x, h_open, -⟩ := h.openFanouts.deliveries p r h_own
    obtain ⟨hx, rfl⟩ := mem_fanouts_of_own h_open
    exact absurd (h_call.symm.trans (h.schemaRows.consumers x hx)) (by simp)

/-- A call that records `a` is a retry, and has read what `a` refers to. -/
theorem Deployment.Run.recorded_after (h : d.Run clock directory ls c) {p : Pid} {i : Choice}
    (h_step : surroundings.step c (.run p i) = some c') {a : ActionInvocation}
    (h_new : a ∈ c'.world.invocations) (h_old : a ∉ c.world.invocations) {P : World → Prop}
    (hP : (∀ w n, n ∈ w.notifications.visible p → n.id = a.notificationId → P w) ∨
      a.webDeliveryId ≠ none ∧
        ∀ w r, r ∈ w.deliveries.visible p → a.webDeliveryId = some r.id → P w) :
    (d.calls p).part = .retry ∧
      ∃ ls₀ ls₁ c₀, ls = ls₀ ++ ls₁ ∧ d.Run clock directory ls₀ c₀ ∧ P c₀.world := by
  have h_part : (d.calls p).part = .retry := by
    cases h.act h_step with
    | effect h_effect => exact absurd (h_effect.invocations ▸ h_new) h_old
    | finish h_finish =>
      generalize c.world = w at *
      generalize c'.world = w' at *
      cases h_finish with
      | commitNotification => exact absurd h_new h_old
      | commitRetry _ _ _ _ _ _ _ _ _ _ h_call => exact h_call
  refine ⟨h_part, ?_⟩
  have h_awaits : Prog.Awaits p (fun w _ => P w) (NotRecorded a) (fun _ => True)
      ((d.calls p).program d.sha256) := by
    have h_answer : ∀ {m : Program RetryResult},
        Prog.Awaits p (fun w _ => P w) (NotRecorded a) (OnReturn fun _ => True) m →
        Prog.Awaits p (fun w _ => P w) (NotRecorded a) (fun _ => True)
          (Program.answer .retried m) := fun hm =>
      (awaits_answer .retried hm).mono (fun _ _ h => h) (fun _ _ h => h) fun _ _ => trivial
    -- a retry by a service records no web delivery
    have h_service : ∀ w n, n ∈ w.notifications.visible p → n.id = a.notificationId →
        a.webDeliveryId = none → P w := by
      rcases hP with hP | ⟨h_web, -⟩
      · exact fun w n hn h_id _ => hP w n hn h_id
      · exact fun w n _ _ h_none => absurd h_none h_web
    cases h_call : d.calls p with
    | retryNotification notificationId byType byId =>
      exact h_answer (retryAll_awaits _ notificationId ⟨byType, byId, none⟩ h_service)
    | retryNotificationForService notificationId byId canRetryAny =>
      exact h_answer (retryAll_awaits _ notificationId ⟨.service, byId, none⟩ h_service)
    | retryUserNotification webNotificationId userId =>
      exact h_answer
        (retryUserNotification_awaits webNotificationId userId (hP.imp_right And.right))
    | _ => exact absurd (h_call ▸ h_part) (by simp [Call.part])
  rcases Machine.awaited h rfl h_awaits h_step with
    ⟨ls₀, j, ls₁, c₀, c₁, h_split, h₀, -, h_read⟩ | h_now | h_not
  · exact ⟨ls₀, _, c₀, h_split, h₀, h_read⟩
  · exact ⟨ls, [], c, (List.append_nil ls).symm, h, h_now⟩
  · exact absurd (h_not h_new) h_old

/-- The rows an audit row refers to were there when it was recorded, and still are. -/
theorem Deployment.Run.invocation_refers (h : d.Run clock directory ls c) {a : ActionInvocation}
    (ha : a ∈ c.world.invocations) :
    (∃ n ∈ c.world.notifications.committed, n.id = a.notificationId) ∧
      ∀ deliveryId, a.webDeliveryId = some deliveryId →
        ∃ r ∈ c.world.deliveries.committed, r.id = deliveryId := by
  obtain ⟨ls₀, l, ls₁, c₀, c₁, rfl, h₀, h₁, -, h_old, h_new⟩ :=
    Machine.exists_moment (P := fun c : State => a ∈ c.world.invocations)
      (by simp [Deployment.start, World.initial]) h ha
  -- only a step of a process adds a row
  cases l with
  | env e =>
    obtain ⟨w, h_env, rfl⟩ := Machine.step_env h₁
    obtain ⟨clock, directory, rfl⟩ := env_apply h_env
    exact absurd h_new h_old
  | crash p =>
    obtain ⟨_, _, _, -, rfl⟩ := Machine.step_crash h₁
    exact absurd h_new h_old
  | run p i =>
    refine ⟨?_, fun deliveryId h_web => ?_⟩
    · -- its program has read the notification before, and rows stay
      obtain ⟨h_part, ls₂, ls₃, c₂, rfl, h₂, n, hn, h_id⟩ :=
        Deployment.Run.recorded_after h₀ h₁ h_new h_old
          (P := fun w => ∃ n ∈ w.notifications.visible p, n.id = a.notificationId)
          (.inl fun w n hn h_id => ⟨n, hn, h_id⟩)
      rw [List.append_assoc] at h
      obtain ⟨n', hn', h_same⟩ :=
        (h₂.notifications_grow (Machine.run_rest h h₂)).mem (h₂.visible_notification h_part hn)
      exact ⟨n', hn', h_same.id.trans h_id⟩
    · -- and the delivery likewise
      obtain ⟨h_part, ls₂, ls₃, c₂, rfl, h₂, r, hr, h_id⟩ :=
        Deployment.Run.recorded_after h₀ h₁ h_new h_old
          (P := fun w => ∃ r ∈ w.deliveries.visible p, r.id = deliveryId)
          (.inr ⟨by simp [h_web], fun w r hr h_r =>
            ⟨r, hr, (Option.some.inj (h_web.symm.trans h_r)).symm⟩⟩)
      rw [List.append_assoc] at h
      obtain ⟨r', hr', h_follows⟩ :=
        (h₂.deliveries_follow (Machine.run_rest h h₂)).mem (h₂.visible_delivery h_part hr)
      exact ⟨r', hr', (congrArg Prod.fst h_follows.key).trans h_id⟩

/-- No two attempts at a delivery have one number. -/
theorem Deployment.Run.attempts_unique (h : d.Run clock directory ls c) :
    c.world.attempts.Pairwise fun a b => a.conflicts b = false := by
  refine List.pairwise_iff_forall_sublist.mpr fun {a b} h_sub => ?_
  by_contra h_conflict
  simp only [DeliveryAttempt.conflicts, Bool.not_eq_false, Bool.and_eq_true,
    decide_eq_true_eq] at h_conflict
  obtain ⟨h_delivery, h_number⟩ := h_conflict
  obtain ⟨r, hr, h_id⟩ := h.attemptLog.known a (h_sub.subset List.mem_cons_self)
  -- both are among the attempts at one delivery, which are numbered consecutively
  have h_both : [a, b].filter (fun x => decide (x.deliveryId = r.id)) = [a, b] := by
    simp [h_id, ← h_delivery]
  have h_pair : [a, b].Sublist (c.world.attemptsOf r.id) := h_both ▸ h_sub.filter _
  have h_numbers := h_pair.map DeliveryAttempt.attemptNumber
  rw [(h.attemptLog.audited r hr).numbers] at h_numbers
  have h_nodup := (List.nodup_range' (s := 1) (n := r.attemptCount)).sublist h_numbers
  simp [h_number] at h_nodup

/-- **The schema's constraints hold in every state of every run.** -/
theorem schema_holds (h : d.Run clock directory ls c) : SchemaHolds c.world where
  notifications_key := h.sound.notifications.nodup
  notifications_unique := h.sound.notifications_unique
  notifications_deduplication n hn := by
    obtain ⟨q, row, -, ⟨service, sourceService, request, key, value, identity, -, -, -, h_row⟩,
      h_same⟩ := h.created.rows n hn
    -- the row still has the request it was created with
    have h_request : n.request = row.request := h_same
    show n.request.deduplicationPresent = true
    rw [h_request, h_row]
    exact NotificationCreationService.newNotification_deduplicationPresent _ _ identity _ _ row.id
  recipients_key := h.sound.recipients.nodup
  recipients_unique := h.sound.recipients_unique
  recipients_notification := h.openFanouts.known
  recipients_user := h.schemaRows.users
  deliveries_key := h.sound.deliveries.nodup
  deliveries_unique := h.sound.deliveries_unique
  deliveries_bounds r hr := by
    have h_row := h.deliveries_consistent r hr
    simp [Delivery.attemptBounds, h_row.max_pos, h_row.attempts_le]
  deliveries_channel r hr := (h.deliveries_onChannel r hr).imp fun _ => Eq.symm
  deliveries_recipient r hr := by
    obtain ⟨x, hx, h_belongs⟩ := h.sound.grounded.committed r hr
    exact ⟨x, hx, h_belongs.recipient⟩
  deliveries_recipient_own p r hr := by
    obtain ⟨x, hx, h_belongs⟩ := h.sound.grounded.own p r hr
    exact ⟨x, hx, h_belongs.recipient⟩
  deliveries_notification r hr := by
    obtain ⟨n, hn, h_id, -⟩ := h.fanoutRows.channels r hr
    exact ⟨n, hn, h_id⟩
  deliveries_user r hr := by
    obtain ⟨x, hx, h_belongs⟩ := h.sound.grounded.rows hr
    exact h_belongs.user ▸ h.schemaRows.users x hx
  attempts_key := h.schemaRows.attempts.nodup
  attempts_unique := h.attempts_unique
  attempts_positive a ha := by
    obtain ⟨r, hr, h_id⟩ := h.attemptLog.known a ha
    -- the attempts at a delivery are numbered from one
    have h_mem : a ∈ c.world.attemptsOf r.id := List.mem_filter.mpr ⟨ha, by simp [h_id]⟩
    have h_number := List.mem_map_of_mem (f := DeliveryAttempt.attemptNumber) h_mem
    rw [(h.attemptLog.audited r hr).numbers, List.mem_range'_1] at h_number
    exact h_number.1
  attempts_delivery := h.attemptLog.known
  invocations_key := h.sound.invocations.nodup
  invocations_result := h.schemaRows.results
  invocations_notification a ha := (h.invocation_refers ha).1
  invocations_delivery a ha := (h.invocation_refers ha).2
  outbox_key := h.sound.outbox.nodup
  processed_key := h.processed_unique

/-- A web and an email delivery of one notification, and a retry through the former. -/
def auditedDeployment : Deployment := .ofCalls id [
  .createNotification ⟨3600000000⟩ "orders" (.toAll [.web, .email] postInit_web_email) none,
  .consume {} "consumer" (.requested 11 10),
  .processDueDeliveries ⟨[.web, .email], none, "worker", 60000000, 30000000⟩ 10,
  .retryUserNotification 22 1]

/-- The web delivery arrives, and the email does not. -/
def auditedSchedule : Schedule := [
  .run 0 (.time (.ofInstant 0)), .run 0 .go, .run 0 (.fresh 10), .run 0 (.fresh 11),
  .run 1 .go, .run 1 (.time (.ofInstant 0)), .run 1 .go, .run 1 .go, .run 1 .go,
  .run 1 (.fresh 21), .run 1 .go, .run 1 .go, .run 1 (.fresh 22), .run 1 (.fresh 23),
  .run 1 .go, .run 1 .go, .run 1 (.time (.ofInstant 1)), .run 1 .go,
  .run 2 (.time (.ofInstant 5)), .run 2 (.claim [] [31, 32]),
  .run 2 .go, .run 2 .go, .run 2 (.adapter (.ok ⟨.delivered, none, none, none⟩)),
  .run 2 (.fresh 33),
  .run 2 .go, .run 2 .go, .run 2 (.adapter (.error "TimeoutError")), .run 2 (.fresh 34),
  .run 3 (.time (.ofInstant 9)), .run 3 .go, .run 3 .go, .run 3 .go, .run 3 (.retry [] 51 52 53)]

/-- A state with a row in every table. -/
theorem schema_holds_audited :
    ∃ c, auditedDeployment.Run 0 (.ofUsers [1] (by decide)) auditedSchedule c ∧
      c.world.attempts.map DeliveryAttempt.deliveryId = [22, 23] ∧
      c.world.invocations.map (fun a => (a.notificationId, a.webDeliveryId)) = [(10, some 22)] ∧
      c.world.outbox.map OutboxEvent.id = [11, 52] ∧
      c.world.processed.map ProcessedEvent.eventId = [11] ∧ SchemaHolds c.world := by
  obtain ⟨c, h_run, h_rows⟩ := auditedDeployment.exists_run 0 (.ofUsers [1] (by decide))
    auditedSchedule (fun c => decide (
      c.world.attempts.map DeliveryAttempt.deliveryId = [22, 23] ∧
      c.world.invocations.map (fun a => (a.notificationId, a.webDeliveryId)) = [(10, some 22)] ∧
      c.world.outbox.map OutboxEvent.id = [11, 52] ∧
      c.world.processed.map ProcessedEvent.eventId = [11])) (by decide +kernel)
  obtain ⟨h_attempts, h_invocations, h_outbox, h_processed⟩ := of_decide_eq_true h_rows
  exact ⟨c, h_run, h_attempts, h_invocations, h_outbox, h_processed, schema_holds h_run⟩

end Runs

end NotificationBroker
