import NotificationBroker.System.Verified

/-!
# Retries, their events and their audit rows

A retry lists the deliveries that have failed, and moves those of them that an
`UPDATE` still finds failed. In between, workers may claim the deliveries and
other retries may move them. Three tables have to agree on what was moved: the
deliveries, the outbox and the audit trail.

`World.moved` reads off a step which deliveries it moves to `replay_requested`.
A step of a retry moves deliveries, writes the event and writes the audit row at
once (`Recorded`), and no other step does any of this (`Quiet`). So the moves of
a whole run, the replay events in the outbox and the queued audit rows are one
and the same list of replays (`Audited`).
-/

namespace NotificationBroker

open Interleave Python
open ReadCommitted (Table Grows)
open DeliveryWorker (recordOutcome)

/-- A retry that has moved deliveries. -/
structure Replay where
  notificationId : UUID
  replayId : UUID
  deliveryIds : List UUID

namespace Replay

/-- The key, the aggregate and the payload of its event. -/
def message (x : Replay) : String × UUID × Json :=
  (x.replayId.str, x.notificationId,
    .obj [("delivery_ids", .arr (x.deliveryIds.map fun deliveryId => .str deliveryId.str)),
      ("notification_id", .str x.notificationId.str), ("replay_id", .str x.replayId.str)])

/-- What its audit row says. -/
def audit (x : Replay) : UUID × Option UUID × ℕ :=
  (x.notificationId, some x.replayId, x.deliveryIds.length)

/-- The deliveries it moves, with the replay they are moved for. -/
def moves (x : Replay) : List (UUID × Option UUID) :=
  x.deliveryIds.map fun deliveryId => (deliveryId, some x.replayId)

end Replay

namespace World

/-- The deliveries that a step moves from `failed_retryable` to
`replay_requested`, with their new `replay_id`. -/
def moved (w w' : World) : List (UUID × Option UUID) :=
  w.deliveries.committed.filterMap fun r =>
    if r.status = .failedRetryable then
      (w'.deliveries.committed.find? fun r' => r'.id = r.id ∧ r'.status = .replayRequested).map
        fun r' => (r.id, r'.replayId)
    else none

/-- The audit rows of retries that were queued. -/
def queuedAudits (w : World) : List (UUID × Option UUID × ℕ) :=
  w.invocations.filterMap fun a =>
    if a.result = .queued then some (a.notificationId, a.replayId, a.replayedDeliveryCount)
    else none

end World

variable {d : Deployment} {p : Pid} {w w' : World}

/-! ### The moves of a step -/

/-- What a step moves, if it updates the committed rows by `f` and adds others. -/
theorem moved_of_map {f : Delivery → Delivery} {n : List Delivery} (hS' : Sound w')
    (h_rows : w'.deliveries.committed = w.deliveries.committed.map f ++ n)
    (hf : ∀ r, (f r).id = r.id) :
    w.moved w' = w.deliveries.committed.filterMap fun r =>
      if r.status = .failedRetryable ∧ (f r).status = .replayRequested then
        some (r.id, (f r).replayId)
      else none := by
  refine List.filterMap_congr fun r hr => ?_
  -- the row is found again by its identifier
  have h_mem : f r ∈ w'.deliveries.committed :=
    h_rows ▸ List.mem_append_left _ (List.mem_map_of_mem hr)
  by_cases h_failed : r.status = .failedRetryable
  · rw [if_pos h_failed]
    by_cases h_moved : (f r).status = .replayRequested
    · rw [if_pos ⟨h_failed, h_moved⟩]
      cases h_find : w'.deliveries.committed.find? fun r' =>
          r'.id = r.id ∧ r'.status = .replayRequested with
      | none =>
        exact absurd (List.find?_eq_none.mp h_find (f r) h_mem) (by simp [hf, h_moved])
      | some r' =>
        have h_id : r'.id = r.id := (of_decide_eq_true (List.find?_some h_find :)).1
        -- no other row has it
        rw [hS'.committed_delivery_eq (List.mem_of_find?_eq_some h_find) h_mem
          (h_id.trans (hf r).symm)]
        rfl
    · rw [if_neg fun h => h_moved h.2, Option.map_eq_none_iff, List.find?_eq_none]
      intro r' hr' h
      obtain ⟨h_id, h_status⟩ := of_decide_eq_true h
      rw [hS'.committed_delivery_eq hr' h_mem (h_id.trans (hf r).symm)] at h_status
      exact h_moved h_status
  · rw [if_neg h_failed, if_neg fun h => h_failed h.1]

/-- An update that leaves failed rows failed, or does something else with them,
moves none. -/
theorem moved_nil {f : Delivery → Delivery} {n : List Delivery} (hS' : Sound w')
    (h_rows : w'.deliveries.committed = w.deliveries.committed.map f ++ n)
    (hf : ∀ r, (f r).id = r.id)
    (h_status : ∀ r, r.status = .failedRetryable → (f r).status ≠ .replayRequested) :
    w.moved w' = [] := by
  rw [moved_of_map hS' h_rows hf, List.filterMap_eq_nil_iff]
  exact fun r _ => if_neg fun h => h_status r h.1 h.2

theorem moved_nil_of_eq (hS' : Sound w')
    (h_rows : w'.deliveries.committed = w.deliveries.committed) : w.moved w' = [] :=
  moved_nil (f := id) (n := []) hS' (by simpa using h_rows) (fun _ => rfl)
    fun r h h' => absurd (h.symm.trans h') (by decide)

/-! ### What a step does -/

/-- The step has nothing to do with retries. -/
structure Quiet (w w' : World) : Prop where
  moved : w.moved w' = []
  events : w'.eventsOf "notification.replay_requested" = w.eventsOf "notification.replay_requested"
  invocations : w'.invocations = w.invocations

/-- The step is the commit of a retry of `p`, which moves the deliveries of the
replay `x`: an event lists them, and an audit row counts them. -/
structure Recorded (p : Pid) (x : Replay) (w w' : World) : Prop where
  moved : w.moved w' = x.moves
  nodup : x.deliveryIds.Nodup
  scope : ∀ id ∈ x.deliveryIds, ∃ r ∈ w'.deliveries.committed,
    r.id = id ∧ r.notificationId = x.notificationId
  /-- The other rows are left alone. -/
  others : ∀ r' ∈ w'.deliveries.committed, r' ∈ w.deliveries.committed ∨
    r'.id ∈ x.deliveryIds ∧ r'.status = .replayRequested ∧
      ∃ r ∈ w.deliveries.committed, r.id = r'.id ∧ r.status = .failedRetryable
  fresh : w.Fresh x.replayId
  issued : (x.replayId, p) ∈ w'.issued
  outbox : if x.deliveryIds = [] then w'.outbox = w.outbox else
    ∃ e, w'.outbox = w.outbox ++ [e] ∧ e.eventType = "notification.replay_requested" ∧
      (e.eventKey, e.aggregateId, e.payload) = x.message
  audit : ∃ a, w'.invocations = w.invocations ++ [a] ∧ (a.id, p) ∈ w'.issued ∧
    a.notificationId = x.notificationId ∧ a.replayedDeliveryCount = x.deliveryIds.length ∧
    if x.deliveryIds = [] then a.result = .noEligible ∧ a.replayId = none
    else a.result = .queued ∧ a.replayId = some x.replayId

theorem Effect.quiet (hS' : Sound w') (h : Effect d p w w') : Quiet w w' := by
  refine ⟨?_, ?_, h.invocations⟩
  · cases h with
    | claimDeliveries now lease workerId channels tokens claims =>
      -- a claim sets the status to `processing`
      refine moved_nil (f := Delivery.applyClaims claims now lease workerId) (n := []) hS'
        (List.append_nil _).symm
        (fun r => congrArg Prod.fst (Delivery.applyClaims_key claims now lease workerId r))
        fun r h_failed => ?_
      unfold Delivery.applyClaims
      split
      · simp [Delivery.claim]
      · simp [h_failed]
    | finalizeDelivery x outcome now retryDelay delivery attemptId =>
      refine moved_nil (f := fun r => if r.heldBy x.claim then
        recordOutcome outcome now retryDelay r else r) (n := []) hS' (List.append_nil _).symm
        (fun r => by split <;> rfl) fun r h_failed => ?_
      -- a failed delivery is held by no claim
      have h_not : ¬ r.heldBy x.claim := fun h_held => by
        rw [(Delivery.heldBy_iff.mp h_held).2.1] at h_failed
        exact absurd h_failed (by decide)
      simp [h_not, h_failed]
    | markRead deliveryId readAt =>
      refine moved_nil (f := fun r => if r.id = deliveryId then r.markRead readAt else r)
        (n := []) hS' (List.append_nil _).symm (fun r => by split <;> rfl) fun r h_failed => ?_
      -- reading leaves the status as it is
      have h_status : (if r.id = deliveryId then r.markRead readAt else r).status = r.status := by
        split <;> rfl
      rw [h_status, h_failed]
      decide
    | commitFanout x service userIds channels recipientCount deliveryCount =>
      refine moved_nil (f := id) (n := w.deliveries.own p) hS' (by simp) (fun _ => rfl)
        fun r h_failed => ?_
      simp [h_failed]
    | _ => exact moved_nil_of_eq hS' rfl
  · cases h with
    | claimEvents now lease workerId tokens claims =>
      exact eventsOf_map (OutboxEvent.applyClaims_sameMessage claims now lease workerId) rfl _
    | finalizeEvent publisher claim now errorMessage e =>
      refine eventsOf_map (f := fun r => if r.heldBy claim.eventId claim.claimToken then
        publisher.finalized now errorMessage r else r) (fun r => ?_) rfl _
      split
      · exact OutboxEvent.finalized_sameMessage publisher now errorMessage r
      · exact .refl r
    | _ => rfl

/-- Before its commit a retry changes none of the three tables. -/
theorem Effect.of_retry (h : Effect d p w w') (h_call : (d.calls p).part = .retry) :
    w'.deliveries.committed = w.deliveries.committed ∧ w'.outbox = w.outbox ∧
      w'.invocations = w.invocations := by
  cases h with
  | claimEvents _ _ _ _ _ _ _ _ h_part | claimDeliveries _ _ _ _ _ _ _ _ _ h_part
  | finalizeDelivery _ _ _ _ _ _ _ _ _ _ _ _ _ _ h_part | markRead _ _ _ h_part =>
    exact absurd (h_part.symm.trans h_call) (by decide)
  | finalizeEvent publisher claim now errorMessage e h_publisher =>
    obtain ⟨limit, h_eq⟩ := h_publisher
    exact absurd ((congrArg Call.part h_eq).symm.trans h_call) (by simp [Call.part])
  | commitFanout x service userIds channels recipientCount deliveryCount h_service =>
    obtain ⟨consumerName, message, h_eq⟩ := h_service
    exact absurd ((congrArg Call.part h_eq).symm.trans h_call) (by simp [Call.part])
  | _ => exact ⟨rfl, rfl, rfl⟩

theorem Finish.recorded (hS : Sound w) (hS' : Sound w') (h : Finish d p w w') :
    (Quiet w w' ∧ (d.calls p).part = .creation) ∨
      ((d.calls p).part = .retry ∧ ∃ x, Recorded p x w w') := by
  cases h with
  | commitNotification row now eventId h_own h_issued h_row =>
    obtain ⟨service, sourceService, request, idempotencyKey, value, identity, h_eq, -⟩ := h_row
    -- a creation moves no delivery, and its event is of another type
    refine .inl ⟨⟨moved_nil_of_eq hS' rfl, ?_, rfl⟩, congrArg Call.part h_eq⟩
    refine (eventsOf_append rfl _).trans ?_
    simp [NotificationCreationService.notificationRequestedEvent]
  | commitRetry requester notificationId eligible skipped requestedAt replayId eventId invocationId
      h_fresh h_scope h_call =>
    refine .inr ⟨h_call, ⟨notificationId, replayId,
      markDeliveriesReplayRequested w.deliveries.committed eligible skipped⟩, ?_⟩
    -- the deliveries that are replayed are those whose rows are changed
    have h_nodup : (w.deliveries.committed.map Delivery.id).Nodup :=
      hS.deliveries.nodup.sublist ((List.sublist_append_left _ _).map _)
    refine {
      moved := ?_
      nodup := h_nodup.sublist (List.filter_sublist.map _)
      scope := ?_
      others := ?_
      fresh := h_fresh.2 replayId (by simp)
      issued := by simp [World.issue]
      outbox := ?_
      audit := ?_ }
    · refine (moved_of_map (f := fun r => if r.replayable eligible skipped then
        r.requestReplay replayId requestedAt else r) (n := []) hS' (List.append_nil _).symm
        fun r => by split <;> rfl).trans ?_
      unfold Replay.moves markDeliveriesReplayRequested
      rw [List.map_map, ← List.filterMap_eq_map, List.filterMap_filter]
      refine List.filterMap_congr fun r _ => ?_
      by_cases h_replay : r.replayable eligible skipped
      · simp [h_replay, (Delivery.replayable_iff.mp h_replay).2.2, Delivery.requestReplay]
      · simp +contextual [h_replay]
    · intro id h_id
      obtain ⟨r, hr, rfl⟩ := List.mem_map.mp h_id
      obtain ⟨hr, h_replay⟩ := List.mem_filter.mp hr
      have h_notification := h_scope r hr (Delivery.replayable_iff.mp h_replay).1
      refine ⟨_, List.mem_map_of_mem hr, ?_, ?_⟩ <;> rw [if_pos h_replay]
      · rfl
      · exact h_notification
    · intro r' hr'
      obtain ⟨r, hr, rfl⟩ := List.mem_map.mp hr'
      by_cases h_replay : r.replayable eligible skipped
      · rw [if_pos h_replay]
        exact .inr ⟨List.mem_map.mpr ⟨r, List.mem_filter.mpr ⟨hr, h_replay⟩, rfl⟩, rfl, r, hr, rfl,
          (Delivery.replayable_iff.mp h_replay).2.2⟩
      · rw [if_neg h_replay]
        exact .inl hr
    · dsimp only
      split
      next => exact List.append_nil _
      next => exact ⟨_, rfl, rfl, rfl⟩
    · refine ⟨_, rfl, by simp [World.issue, RetryService.invocation], rfl, rfl, ?_⟩
      dsimp only [RetryService.invocation]
      split <;> simp

theorem WorldMove.retry (hS : Sound w) (hS' : Sound w') (h : WorldMove d w w') :
    Quiet w w' ∨ ∃ p x, Recorded p x w w' := by
  cases h with
  | act p h =>
    cases h with
    | effect h => exact .inl (h.quiet hS')
    | finish h =>
      rcases h.recorded hS hS' with ⟨h_quiet, -⟩ | ⟨-, x, h_recorded⟩
      · exact .inl h_quiet
      · exact .inr ⟨p, x, h_recorded⟩
  | env e h =>
    obtain ⟨clock, directory, rfl⟩ := env_apply h
    exact .inl ⟨moved_nil_of_eq hS' rfl, rfl, rfl⟩
  | abort p h =>
    subst h
    exact .inl ⟨moved_nil_of_eq hS' rfl, rfl, rfl⟩

/-! ### The whole run -/

/-- The replays of a run so far, whose moves are `moves`, against the tables. -/
structure Audited (replays : List Replay) (moves : List (UUID × Option UUID)) (w : World) :
    Prop where
  moved : moves = replays.flatMap Replay.moves
  events : w.eventsOf "notification.replay_requested" = replays.map Replay.message
  audits : w.queuedAudits = replays.map Replay.audit
  distinct : Issued w.issued (replays.map Replay.replayId)
  rows : ∀ x ∈ replays, x.deliveryIds ≠ [] ∧ x.deliveryIds.Nodup ∧ ∀ id ∈ x.deliveryIds,
    ∃ r ∈ w.deliveries.committed, r.id = id ∧ r.notificationId = x.notificationId
  refused : ∀ a ∈ w.invocations, a.result = .queued ∨
    a.result = .noEligible ∧ a.replayId = none ∧ a.replayedDeliveryCount = 0

/-- The rows of earlier replays stay. -/
theorem rows_of_follows {x : Replay}
    (h_rows : Grows Delivery.Follows w.deliveries.committed w'.deliveries.committed)
    (h : ∀ id ∈ x.deliveryIds, ∃ r ∈ w.deliveries.committed,
      r.id = id ∧ r.notificationId = x.notificationId) :
    ∀ id ∈ x.deliveryIds, ∃ r ∈ w'.deliveries.committed,
      r.id = id ∧ r.notificationId = x.notificationId := by
  intro id h_id
  obtain ⟨r, hr, h_row, h_notification⟩ := h id h_id
  obtain ⟨r', hr', h_follows⟩ := h_rows.mem hr
  have h_key := h_follows.key
  simp only [Delivery.key, Prod.mk.injEq] at h_key
  exact ⟨r', hr', h_key.1.trans h_row, h_key.2.2.1.trans h_notification⟩

section Audited

variable {replays : List Replay} {moves : List (UUID × Option UUID)}

theorem Quiet.audited (h : Quiet w w') (hA : Audited replays moves w)
    (h_issued : w.issued <+: w'.issued)
    (h_rows : Grows Delivery.Follows w.deliveries.committed w'.deliveries.committed) :
    Audited replays (moves ++ w.moved w') w' where
  moved := by rw [h.moved, List.append_nil, hA.moved]
  events := h.events.trans hA.events
  audits := by
    unfold World.queuedAudits
    rw [h.invocations]
    exact hA.audits
  distinct := by
    obtain ⟨new, h_new⟩ := h_issued
    exact h_new ▸ hA.distinct.mono new
  -- the rows of a replay may move on, their replay stays
  rows x hx := by
    obtain ⟨h_some, h_nodup, h_scope⟩ := hA.rows x hx
    exact ⟨h_some, h_nodup, rows_of_follows h_rows h_scope⟩
  refused a ha := hA.refused a (h.invocations ▸ ha)

/-- A retry adds one replay, or none if it has moved nothing. -/
theorem Recorded.audited {x : Replay} (h : Recorded p x w w') (hA : Audited replays moves w)
    (h_issued : w.issued <+: w'.issued)
    (h_rows : Grows Delivery.Follows w.deliveries.committed w'.deliveries.committed) :
    Audited (replays ++ if x.deliveryIds = [] then [] else [x]) (moves ++ w.moved w') w' := by
  obtain ⟨a, h_audit, -, h_notification, h_count, h_result⟩ := h.audit
  obtain ⟨new, h_new⟩ := h_issued
  have h_outbox := h.outbox
  -- the replays so far keep their rows
  have h_old : ∀ y ∈ replays, y.deliveryIds ≠ [] ∧ y.deliveryIds.Nodup ∧ ∀ id ∈ y.deliveryIds,
      ∃ r ∈ w'.deliveries.committed, r.id = id ∧ r.notificationId = y.notificationId := by
    intro y hy
    obtain ⟨h_some, h_nodup, h_scope⟩ := hA.rows y hy
    exact ⟨h_some, h_nodup, rows_of_follows h_rows h_scope⟩
  -- the invocation is the last one of the audit
  have h_audits : w'.queuedAudits = w.queuedAudits ++ if a.result = .queued then
      [(a.notificationId, a.replayId, a.replayedDeliveryCount)] else [] := by
    unfold World.queuedAudits
    rw [h_audit, List.filterMap_append]
    split <;> simp_all
  have h_refused : (a.result = .queued ∨
      a.result = .noEligible ∧ a.replayId = none ∧ a.replayedDeliveryCount = 0) →
      ∀ a' ∈ w'.invocations, a'.result = .queued ∨
        a'.result = .noEligible ∧ a'.replayId = none ∧ a'.replayedDeliveryCount = 0 := by
    intro h_new a' ha'
    rw [h_audit] at ha'
    rcases List.mem_append.mp ha' with ha' | ha'
    · exact hA.refused a' ha'
    · exact List.mem_singleton.mp ha' ▸ h_new
  by_cases h_none : x.deliveryIds = []
  · -- nothing was replayed: no event, and an audit that says so
    rw [if_pos h_none] at h_outbox h_result ⊢
    rw [List.append_nil]
    refine ⟨?_, ?_, ?_, h_new ▸ hA.distinct.mono new, h_old,
      h_refused (.inr ⟨h_result.1, h_result.2, by rw [h_count, h_none]; rfl⟩)⟩
    · rw [h.moved, hA.moved, Replay.moves, h_none, List.map_nil, List.append_nil]
    · rw [← hA.events]
      unfold World.eventsOf
      rw [h_outbox]
    · rw [h_audits, if_neg (by rw [h_result.1]; decide), List.append_nil, hA.audits]
  · -- one replay, one event and one audit, all with the same identifier
    rw [if_neg h_none] at h_outbox h_result ⊢
    obtain ⟨e, h_append, h_type, h_message⟩ := h_outbox
    refine ⟨?_, ?_, ?_, ?_, ?_, h_refused (.inl h_result.1)⟩
    · rw [h.moved, hA.moved, List.flatMap_append, List.flatMap_singleton]
    · rw [List.map_append, ← hA.events, List.map_singleton, ← h_message, eventsOf_append h_append,
        if_pos h_type]
    · rw [h_audits, if_pos h_result.1, hA.audits, List.map_append, List.map_singleton,
        h_notification, h_result.2, h_count]
      rfl
    · rw [List.map_append, List.map_singleton]
      -- the identifier of the replay was fresh, so it is none of the earlier ones
      have h_mem : x.replayId ∈ new.map Prod.fst := by
        have h_in := h.issued
        rw [← h_new] at h_in
        rcases List.mem_append.mp h_in with h_in | h_in
        · exact absurd (List.mem_map_of_mem (f := Prod.fst) h_in) h.fresh
        · exact List.mem_map_of_mem (f := Prod.fst) h_in
      exact h_new ▸ (hA.distinct.cons_of_mem h.fresh h_mem).perm (List.perm_append_singleton _ _)
    · intro y hy
      rcases List.mem_append.mp hy with hy | hy
      · exact h_old y hy
      · exact List.mem_singleton.mp hy ▸ ⟨h_none, h.nodup, h.scope⟩

end Audited

variable {clock : Instant} {directory : Directory} {ls : Schedule} {c : State}

theorem Deployment.Run.audited (h : d.Run clock directory ls c) :
    ∃ replays, Audited replays
      (surroundings.collect World.moved (d.start clock directory) ls) c.world := by
  refine h.collected (P := fun moves w => ∃ replays, Audited replays moves w)
    ⟨[], rfl, rfl, rfl, ⟨List.nodup_nil, by simp⟩, by simp, by simp [World.initial]⟩ ?_
  rintro moves w w' hS hS' ⟨replays, hA⟩ hM
  rcases hM.retry hS hS' with h_quiet | ⟨p, x, h_recorded⟩
  · exact ⟨replays, h_quiet.audited hA hM.issued_extends (hM.deliveries_follow hS)⟩
  · exact ⟨_, h_recorded.audited hA hM.issued_extends (hM.deliveries_follow hS)⟩

theorem Post.retry {outcome : Outcome} (h : Post d p outcome w)
    (h_call : (d.calls p).part = .retry) : ∃ r, outcome = r.map .retried ∧ RetryPost p r w := by
  unfold Post at h
  cases h_eq : d.calls p with
  | retryNotification | retryNotificationForService | retryUserNotification =>
    rw [h_eq] at h
    exact h
  | _ => exact absurd ((congrArg Call.part h_eq).symm.trans h_call) (by simp [Call.part])

/-- **Retries, their events and their audit rows agree**, in every run. -/
theorem retries_recorded (h : d.Run clock directory ls c) :
    -- the moves of the run, the replay events and the queued audit rows are the same replays
    (∃ replays : List Replay,
      surroundings.collect World.moved (d.start clock directory) ls =
        replays.flatMap Replay.moves ∧
      c.world.eventsOf "notification.replay_requested" = replays.map Replay.message ∧
      c.world.queuedAudits = replays.map Replay.audit ∧
      (replays.map Replay.replayId).Nodup ∧
      ∀ x ∈ replays, x.deliveryIds ≠ [] ∧ x.deliveryIds.Nodup ∧ ∀ id ∈ x.deliveryIds,
        ∃ r ∈ c.world.deliveries.committed, r.id = id ∧ r.notificationId = x.notificationId) ∧
    -- every other audit row says that nothing was eligible
    (∀ a ∈ c.world.invocations, a.result = .queued ∨
      a.result = .noEligible ∧ a.replayId = none ∧ a.replayedDeliveryCount = 0) ∧
    -- a step of a retry changes nothing, or moves what it records
    (∀ p i c', surroundings.step c (.run p i) = some c' → (d.calls p).part = .retry →
      (c'.world.deliveries.committed = c.world.deliveries.committed ∧
        c'.world.outbox = c.world.outbox ∧ c'.world.invocations = c.world.invocations) ∨
      ∃ x, Recorded p x c.world c'.world) ∧
    -- nobody else moves, announces or records a replay
    (∀ l c', surroundings.step c l = some c' →
      (∀ p i, l = .run p i → (d.calls p).part ≠ .retry) → Quiet c.world c'.world) ∧
    -- a retry that has returned has written one audit row, and returns it
    (∀ p answer, (d.calls p).part = .retry → c.prog p = some (.ret (.ok answer)) →
      ∃ a ∈ c.world.invocations, (a.id, p) ∈ c.world.issued ∧
        (∀ a' ∈ c.world.invocations, (a'.id, p) ∈ c.world.issued → a' = a) ∧
        answer = .retried
          ⟨a.notificationId, a.result, a.replayId, a.replayedDeliveryCount, a.createdAt⟩) ∧
    -- a retry that has raised has written none
    (∀ p e, (d.calls p).part = .retry → c.prog p = some (.ret (.error e)) →
      ∀ a ∈ c.world.invocations, (a.id, p) ∉ c.world.issued) := by
  obtain ⟨replays, hA⟩ := h.audited
  refine ⟨⟨replays, hA.moved, hA.events, hA.audits, hA.distinct.nodup, hA.rows⟩, hA.refused,
    fun p i c' h_step h_call => ?_, fun l c' h_step h_other => ?_, fun p answer h_call hp => ?_,
    fun p e h_call hp => ?_⟩
  · have hS' := Deployment.Run.sound (Machine.run_snoc h h_step)
    cases h.act h_step with
    | effect h_effect => exact .inl (h_effect.of_retry h_call)
    | finish h_finish =>
      rcases h_finish.recorded h.sound hS' with ⟨-, h_part⟩ | ⟨-, h_recorded⟩
      · exact absurd (h_part.symm.trans h_call) (by decide)
      · exact .inr h_recorded
  · have hS' := Deployment.Run.sound (Machine.run_snoc h h_step)
    cases l with
    | run p i =>
      cases h.act h_step with
      | effect h_effect => exact h_effect.quiet hS'
      | finish h_finish =>
        rcases h_finish.recorded h.sound hS' with ⟨h_quiet, -⟩ | ⟨h_part, -⟩
        · exact h_quiet
        · exact absurd h_part (h_other p i rfl)
    | crash p =>
      obtain ⟨β, f, k, -, rfl⟩ := Machine.step_crash h_step
      exact ⟨moved_nil_of_eq hS' rfl, rfl, rfl⟩
    | env e =>
      obtain ⟨w, h_env, rfl⟩ := Machine.step_env h_step
      obtain ⟨clock', directory', rfl⟩ := env_apply h_env
      exact ⟨moved_nil_of_eq hS' rfl, rfl, rfl⟩
  · obtain ⟨r, h_outcome, h_post⟩ := (h.post hp).retry h_call
    cases r with
    | error e => exact absurd h_outcome (by simp [Except.map])
    | ok r =>
      obtain ⟨a, ha, h_issued, h_unique, rfl⟩ := h_post
      exact ⟨a, ha, h_issued, h_unique, Except.ok.inj h_outcome⟩
  · obtain ⟨r, h_outcome, h_post⟩ := (h.post hp).retry h_call
    cases r with
    | error e => exact h_post.invocations
    | ok r => exact absurd h_outcome (by simp [Except.map])

/-- A delivery that fails, and two retries of its notification. -/
def retryDeployment : Deployment := .ofCalls id [
  .createNotification ⟨3600000000⟩ "orders" (.toAll [.email] postInit_email) none,
  .consume {} "consumer" (.requested 50 10),
  .processDueDeliveries ⟨[.email], none, "worker", 60000000, 30000000⟩ 10,
  .retryNotification 10 .service "orders",
  .retryNotification 10 .service "orders"]

/-- Both retries list the delivery; one of them moves it. -/
def retrySchedule : Schedule := [
  .run 0 (.time (.ofInstant 0)), .run 0 .go, .run 0 (.fresh 10), .run 0 (.fresh 11),
  .run 1 .go, .run 1 (.time (.ofInstant 0)), .run 1 .go, .run 1 .go, .run 1 .go,
  .run 1 (.fresh 21), .run 1 .go, .run 1 .go, .run 1 (.fresh 22), .run 1 .go, .run 1 .go,
  .run 2 (.time (.ofInstant 0)), .run 2 (.claim [] [31]), .run 2 .go, .run 2 .go,
  .run 2 (.adapter (.error "TimeoutError")), .run 2 (.fresh 33),
  .run 3 (.time (.ofInstant 9)), .run 4 (.time (.ofInstant 9)), .run 3 .go, .run 4 .go,
  .run 3 .go, .run 4 .go, .run 4 (.retry [] 41 42 43), .run 3 (.retry [] 51 52 53)]

theorem retries_concurrent :
    ∃ c, retryDeployment.Run 0 (.ofUsers [1] (by decide)) retrySchedule c ∧
      c.world.deliveries.committed.map (fun r => (r.id, r.status, r.replayId)) =
        [(22, .replayRequested, some 41)] ∧
      c.world.invocations.map (fun a => (a.id, a.result, a.replayedDeliveryCount)) =
        [(43, .queued, 1), (53, .noEligible, 0)] ∧
      ∃ replays : List Replay,
        surroundings.collect World.moved (retryDeployment.start 0 (.ofUsers [1] (by decide)))
          retrySchedule = replays.flatMap Replay.moves ∧
        c.world.eventsOf "notification.replay_requested" = replays.map Replay.message ∧
        c.world.queuedAudits = replays.map Replay.audit := by
  obtain ⟨c, h_run, h_rows⟩ := retryDeployment.exists_run 0 (.ofUsers [1] (by decide))
    retrySchedule (fun c => decide (
      c.world.deliveries.committed.map (fun r => (r.id, r.status, r.replayId)) =
        [(22, .replayRequested, some 41)] ∧
      c.world.invocations.map (fun a => (a.id, a.result, a.replayedDeliveryCount)) =
        [(43, .queued, 1), (53, .noEligible, 0)])) (by decide +kernel)
  obtain ⟨h_moved, h_audits⟩ := of_decide_eq_true h_rows
  obtain ⟨⟨replays, h_moves, h_events, h_queued, -⟩, -⟩ := retries_recorded h_run
  exact ⟨c, h_run, h_moved, h_audits, replays, h_moves, h_events, h_queued⟩

end NotificationBroker
