import Mathlib.Logic.Equiv.Basic
import NotificationBroker.System.Verified

/-!
# Concurrent creations of one notification

A creation looks its identity up, inserts a row if it finds none, and looks it up
again if the insertion meets another through a unique index. `Created` says what
the tables hold throughout: every row is the row of some creation call, under an
identifier this call has generated, and the requested events in the outbox are
those of the committed rows, one each and in the same order.

The rest follows from the unique indexes and from how a call ends (`CreatePost`).
A row has been committed by the call that generated its identifier, which has
thereby finished, and says so; every other call of the same identity finds the
row. Without a key the row's hash covers all that its fingerprint covers, so that
such a call never meets a row of another payload.
-/

namespace NotificationBroker

open Interleave Python
open ReadCommitted (Table)

variable {d : Deployment} {p q : Pid} {w w' : World}

/-! ### Rows and their events -/

/-- The requested event of a row: its key, its aggregate and its payload. -/
def Notification.requestedMessage (n : Notification) : String × UUID × Json :=
  (n.id.str, n.id, .obj [("notification_id", .str n.id.str),
    ("source_service", .str n.sourceService)])

theorem Notification.SameRequest.requestedMessage {n n' : Notification} (h : n.SameRequest n') :
    n'.requestedMessage = n.requestedMessage := by
  have h_request : n'.request = n.request := h
  have h_service : n'.sourceService = n.sourceService :=
    (congrArg Notification.sourceService h_request :)
  simp [Notification.requestedMessage, h.id, h_service]

/-- What a call has built stays what it has built. -/
theorem Deployment.Requests.mono {row : Notification} (h : d.Requests p w row)
    (h_history : w.history <+: w'.history) : d.Requests p w' row := by
  obtain ⟨service, sourceService, request, key, value, identity, h_call, h_value, h_rest⟩ := h
  refine ⟨service, sourceService, request, key, value, identity, h_call, ?_, h_rest⟩
  obtain ⟨new, h_new⟩ := h_history
  rw [World.readings, ← h_new, List.filterMap_append]
  exact List.mem_append_left _ h_value

/-- The rows of the notifications, and the requested events. -/
structure Created (d : Deployment) (w : World) : Prop where
  rows : ∀ n ∈ w.notifications.rows, ∃ q row, (n.id, q) ∈ w.issued ∧ d.Requests q w row ∧
    row.SameRequest n
  events : w.eventsOf "notification.requested" =
    w.notifications.committed.map Notification.requestedMessage

theorem Effect.requestedEvents (h : Effect d p w w') :
    w'.eventsOf "notification.requested" = w.eventsOf "notification.requested" := by
  cases h with
  | claimEvents now lease workerId tokens claims =>
    exact eventsOf_map (OutboxEvent.applyClaims_sameMessage claims now lease workerId) rfl _
  | finalizeEvent publisher claim now errorMessage e =>
    refine eventsOf_map (f := fun r => if r.heldBy claim.eventId claim.claimToken then
      publisher.finalized now errorMessage r else r) (fun r => ?_) rfl _
    split
    · exact OutboxEvent.finalized_sameMessage publisher now errorMessage r
    · exact .refl r
  | _ => rfl

theorem Effect.requestedMessages (h : Effect d p w w') :
    w'.notifications.committed.map Notification.requestedMessage =
      w.notifications.committed.map Notification.requestedMessage := by
  cases h with
  | commitFanout x service userIds channels recipientCount deliveryCount =>
    simp only [Table.committed_modify, List.map_map]
    exact List.map_congr_left fun n _ =>
      (storeCounts_sameRequest x.notification recipientCount deliveryCount n).requestedMessage
  | _ => rfl

/-- A row and its event are committed together. -/
theorem WorldMove.created (h : WorldMove d w w') (hC : Created d w) : Created d w' where
  rows n' hn' := by
    obtain ⟨p, h_change⟩ := h.notifications
    rcases h_change.origin (fun n => Eq.refl n.request) hn' with ⟨n, hn, h_same⟩ | ⟨h_row, h_issued⟩
    · -- a row that was there keeps its request
      obtain ⟨q, row, h_issued, h_row, h_same'⟩ := hC.rows n hn
      exact ⟨q, row, h_same.id ▸ h.issued_extends.subset h_issued, h_row.mono h.history_extends,
        h_same.trans h_same'⟩
    · -- a new row has been issued to the caller that inserted it
      exact ⟨p, n', h_issued, h_row.mono h.history_extends, rfl⟩
  events := by
    cases h with
    | act p h =>
      cases h with
      | effect h => rw [h.requestedEvents, h.requestedMessages, hC.events]
      | finish h =>
        cases h with
        | commitNotification row now eventId h_own =>
          -- the row and its event are committed at once
          refine (eventsOf_append rfl _).trans ?_
          rw [Table.committed_commit, h_own, List.map_append, hC.events]
          rfl
        | commitRetry requester notificationId eligible skipped requestedAt replayId eventId =>
          refine Eq.trans ?_ hC.events
          -- the events of a retry are not creations
          simp only [World.eventsOf, List.filterMap_append]
          split <;> simp [RetryService.replayRequestedEvent]
    | env e h =>
      obtain ⟨clock, directory, rfl⟩ := env_apply h
      exact hC.events
    | abort p h =>
      subst h
      exact hC.events

variable {clock : Instant} {directory : Directory} {ls : Schedule} {c : State}

theorem Deployment.Run.created (h : d.Run clock directory ls c) : Created d c.world :=
  h.always ⟨by simp [World.initial, Table.rows, Table.empty], rfl⟩
    fun _ _ _ hC hM => hM.created hC

/-! ### Rows and identities -/

/-- A call's row has the identity of the call and its fingerprint. -/
theorem Deployment.Requests.of_identifies {row : Notification} {identity : NotificationIdentity}
    {fingerprint : String} (h : d.Requests p w row)
    (h_id : d.Identifies p w identity fingerprint) :
    identity.Matches row ∧ row.payloadFingerprint = fingerprint := by
  obtain ⟨service, source, request, key, value, identity', h_call, h_value, h_identity, h_row⟩ := h
  obtain ⟨service', source', request', key', value', h_call', h_read, -, h_identity', rfl⟩ := h_id
  rw [h_call, Call.createNotification.injEq] at h_call'
  obtain ⟨rfl, rfl, rfl, rfl⟩ := h_call'
  rw [h_read] at h_value
  obtain rfl := List.mem_singleton.mp h_value
  obtain rfl : identity' = identity := Except.ok.inj (h_identity.symm.trans h_identity')
  refine ⟨?_, congrArg Notification.payloadFingerprint h_row⟩
  rw [h_row]
  exact NotificationCreationService.identity_matches h_identity _ _

/-- A row that a call without a key finds has the call's fingerprint. -/
theorem Deployment.Requests.fingerprint_of_fallback (h_inj : Function.Injective d.sha256)
    {row : Notification} {service : NotificationCreationService} {sourceService : String}
    {request : NotificationCreationInput} {now : Instant} {identity : NotificationIdentity}
    (h : d.Requests q w row) (h_match : identity.Matches row)
    (h_identity : service.identity d.sha256 sourceService request none now = .ok identity) :
    row.payloadFingerprint = payloadFingerprint d.sha256 request := by
  obtain ⟨service', source', request', key', value', identity', -, -, h_identity', h_row⟩ := h
  have h_match' : identity'.Matches row := by
    rw [h_row]
    exact NotificationCreationService.identity_matches h_identity' _ _
  obtain rfl := h_match.unique h_match'
  obtain ⟨start, rfl⟩ := NotificationCreationService.identity_none h_identity
  refine (congrArg Notification.payloadFingerprint h_row).trans ?_
  cases key' with
  | some key => exact absurd h_identity' (by simp [NotificationCreationService.identity])
  | none =>
    obtain ⟨start', h_same⟩ := NotificationCreationService.identity_none h_identity'
    obtain ⟨-, h_hash, -⟩ := NotificationIdentity.fallback.inj h_same
    exact payloadFingerprint_of_deduplicationHash h_inj h_hash.symm

/-- One row per identity. -/
theorem Sound.identity_unique (hS : Sound w) {identity : NotificationIdentity}
    {n n' : Notification} (hn : n ∈ w.notifications.committed)
    (hn' : n' ∈ w.notifications.committed) (h : identity.Matches n) (h' : identity.Matches n') :
    n = n' :=
  hS.notifications_unique.eq_of_conflict Notification.conflicts_symm
    (Table.mem_rows_of_committed hn) (Table.mem_rows_of_committed hn') (h.conflicts h')

/-! ### How the calls end -/

theorem Post.creation {outcome : Outcome} (h : Post d p outcome w)
    (h_call : (d.calls p).part = .creation) :
    ∃ r, outcome = r.map .created ∧ CreatePost d p r w := by
  unfold Post at h
  cases h_eq : d.calls p with
  | createNotification =>
    rw [h_eq] at h
    exact h
  | _ => exact absurd ((congrArg Call.part h_eq).symm.trans h_call) (by simp [Call.part])

/-- A call that has committed a row has finished, and returned one as created. -/
theorem Deployment.Run.returned (h : d.Run clock directory ls c) {n : Notification}
    (hn : n ∈ c.world.notifications.committed) (h_issued : (n.id, q) ∈ c.world.issued)
    (h_call : (d.calls q).part = .creation) :
    ∃ r identity fingerprint, c.prog q = some (.ret (.ok (.created r))) ∧ r.status = .created ∧
      d.Identifies q c.world identity fingerprint ∧
      ∃ n' ∈ c.world.notifications.committed, identity.Matches n' ∧ r.notificationId = n'.id := by
  obtain ⟨outcome, h_outcome⟩ : ∃ outcome, c.prog q = some (.ret outcome) := by
    by_contra h_none
    exact (h.running fun outcome h_q => h_none ⟨outcome, h_q⟩).notifications n hn h_issued
  obtain ⟨result, rfl, h_post⟩ := (h.post h_outcome).creation h_call
  cases result with
  | error e => exact absurd h_issued (h_post.1.notifications n hn)
  | ok r =>
    obtain ⟨identity, fingerprint, h_id, n', hn', h_match, -, h_result, h_status⟩ := h_post
    rcases h_status with ⟨h_created, -⟩ | ⟨-, hK⟩
    · exact ⟨r, identity, fingerprint, h_outcome, h_created, h_id, n', hn', h_match, h_result⟩
    · exact absurd h_issued (hK.notifications n hn)

/-- Every committed row has its creator: the call that generated its identifier. -/
theorem Deployment.Run.creator (h : d.Run clock directory ls c) {n : Notification}
    (hn : n ∈ c.world.notifications.committed) :
    ∃ q r identity fingerprint, (n.id, q) ∈ c.world.issued ∧
      c.prog q = some (.ret (.ok (.created r))) ∧ r.status = .created ∧
      d.Identifies q c.world identity fingerprint ∧ identity.Matches n := by
  obtain ⟨q, row, h_issued, h_row, h_same⟩ := h.created.rows n (Table.mem_rows_of_committed hn)
  have h_call : (d.calls q).part = .creation := by
    obtain ⟨service, source, request, key, value, identity, h_call, -⟩ := h_row
    exact congrArg Call.part h_call
  obtain ⟨r, identity, fingerprint, h_outcome, h_created, h_id, -⟩ :=
    h.returned hn h_issued h_call
  exact ⟨q, r, identity, fingerprint, h_issued, h_outcome, h_created, h_id,
    h_same.matches (h_row.of_identifies h_id).1⟩

theorem Deployment.Identifies.part {identity : NotificationIdentity} {fingerprint : String}
    (h : d.Identifies p w identity fingerprint) : (d.calls p).part = .creation := by
  obtain ⟨service, source, request, key, value, h_call, -⟩ := h
  exact congrArg Call.part h_call

/-- A call has one identity and one fingerprint. -/
theorem Deployment.Identifies.unique {identity identity' : NotificationIdentity}
    {fingerprint fingerprint' : String} (h : d.Identifies p w identity fingerprint)
    (h' : d.Identifies p w identity' fingerprint') :
    identity = identity' ∧ fingerprint = fingerprint' := by
  obtain ⟨service, source, request, key, value, h_call, h_read, -, h_identity, rfl⟩ := h
  obtain ⟨service', source', request', key', value', h_call', h_read', -, h_identity', rfl⟩ := h'
  rw [h_call, Call.createNotification.injEq] at h_call'
  obtain ⟨rfl, rfl, rfl, rfl⟩ := h_call'
  obtain rfl := (List.cons.inj (h_read.symm.trans h_read')).1
  exact ⟨Except.ok.inj (h_identity.symm.trans h_identity'), rfl⟩

/-- Before its commit a creation changes neither of the two tables. -/
theorem Effect.of_creation (h : Effect d p w w') (h_call : (d.calls p).part = .creation) :
    w'.notifications.committed = w.notifications.committed ∧ w'.outbox = w.outbox := by
  cases h with
  | claimEvents _ _ _ _ _ _ _ _ h_part => exact absurd (h_part.symm.trans h_call) (by decide)
  | finalizeEvent publisher claim now errorMessage e h_publisher =>
    obtain ⟨limit, h_eq⟩ := h_publisher
    exact absurd ((congrArg Call.part h_eq).symm.trans h_call) (by simp [Call.part])
  | commitFanout x service userIds channels recipientCount deliveryCount h_service =>
    obtain ⟨consumerName, message, h_eq⟩ := h_service
    exact absurd ((congrArg Call.part h_eq).symm.trans h_call) (by simp [Call.part])
  | _ => exact ⟨rfl, rfl⟩

/-- The commit of a creation is that of a row under its own identifier. -/
theorem Finish.of_creation (h : Finish d p w w') (h_call : (d.calls p).part = .creation) :
    ∃ n ∈ w'.notifications.committed, (n.id, p) ∈ w'.issued := by
  cases h with
  | commitNotification row now eventId h_own h_issued =>
    refine ⟨row, ?_, List.mem_append_left _ h_issued⟩
    rw [Table.committed_commit, h_own]
    exact List.mem_append_right _ (List.mem_singleton_self row)
  | commitRetry _ _ _ _ _ _ _ _ _ _ h_part =>
    exact absurd (h_part.symm.trans h_call) (by decide)

/-- A step of a creation changes neither table, or is the last step of a call
that returns its notification as created. -/
theorem Deployment.Run.creation_step (h : d.Run clock directory ls c) {c' : State} {i : Choice}
    (h_step : surroundings.step c (.run p i) = some c') (h_call : (d.calls p).part = .creation) :
    (c'.world.notifications.committed = c.world.notifications.committed ∧
      c'.world.outbox = c.world.outbox) ∨ ∃ r, c'.prog p = some (.ret (.ok (.created r))) := by
  have h' : d.Run clock directory (ls ++ [.run p i]) c' :=
    Machine.run_trans h (Option.bind_eq_some_iff.mpr ⟨c', h_step, rfl⟩)
  cases h.act h_step with
  | effect h_effect => exact .inl (h_effect.of_creation h_call)
  | finish h_finish =>
    obtain ⟨n, hn, h_issued⟩ := h_finish.of_creation h_call
    obtain ⟨r, -, -, h_outcome, -⟩ := h'.returned hn h_issued h_call
    exact .inr ⟨r, h_outcome⟩

/-- What a call of a known identity returns. -/
theorem Deployment.Run.creation_result (h : d.Run clock directory ls c)
    {identity : NotificationIdentity} {fingerprint : String} {outcome : Outcome}
    (h_id : d.Identifies p c.world identity fingerprint)
    (hp : c.prog p = some (.ret outcome)) :
    ∃ n ∈ c.world.notifications.committed, identity.Matches n ∧
      ((n.payloadFingerprint = fingerprint ∧ ∃ r, outcome = .ok (.created r) ∧
          r.notificationId = n.id ∧ (r.status = .created → (n.id, p) ∈ c.world.issued)) ∨
        (n.payloadFingerprint ≠ fingerprint ∧
          ∃ message, outcome = .error (.idempotencyConflict message))) := by
  obtain ⟨result, rfl, h_post⟩ := (h.post hp).creation h_id.part
  cases result with
  | ok r =>
    obtain ⟨identity', fingerprint', h_id', n, hn, h_match, h_print, h_result, h_status⟩ := h_post
    -- a caller has one identity and one fingerprint
    obtain ⟨rfl, rfl⟩ := h_id.unique h_id'
    refine ⟨n, hn, h_match, .inl ⟨h_print, r, rfl, h_result, fun h_created => ?_⟩⟩
    rcases h_status with ⟨-, h_issued⟩ | ⟨h_existing, -⟩
    · exact h_issued
    · exact absurd (h_created.symm.trans h_existing) (by decide)
  | error e =>
    obtain ⟨-, ⟨message, rfl, h_none⟩ | ⟨message, rfl, identity', fingerprint', h_id', n, hn,
      h_match, h_print⟩⟩ := h_post
    · -- the caller's request has an identity, so this is not the error of one without
      exact absurd h_id (h_none identity fingerprint)
    · obtain ⟨rfl, rfl⟩ := h_id.unique h_id'
      exact ⟨n, hn, h_match, .inr ⟨h_print, message, rfl⟩⟩

/-- **Creation is idempotent under concurrency.** -/
theorem creations_idempotent (h_inj : Function.Injective d.sha256)
    (h : d.Run clock directory ls c) :
    -- one row per identity
    (c.world.notifications.committed.map Notification.id).Nodup ∧
    (∀ identity : NotificationIdentity, ∀ n ∈ c.world.notifications.committed,
      ∀ n' ∈ c.world.notifications.committed, identity.Matches n → identity.Matches n' → n = n') ∧
    -- one requested event per row, committed with it
    c.world.eventsOf "notification.requested" = c.world.notifications.committed.map (fun n =>
      (n.id.str, n.id, .obj [("notification_id", .str n.id.str),
        ("source_service", .str n.sourceService)])) ∧
    -- the calls of an identity that succeed return its row, and one of them has created it
    (∀ identity p r, (∃ fingerprint, d.Identifies p c.world identity fingerprint) →
      c.prog p = some (.ret (.ok (.created r))) →
      (∀ q r', (∃ fingerprint, d.Identifies q c.world identity fingerprint) →
        c.prog q = some (.ret (.ok (.created r'))) → r'.notificationId = r.notificationId) ∧
      ∃! q, (∃ fingerprint, d.Identifies q c.world identity fingerprint) ∧
        ∃ r', c.prog q = some (.ret (.ok (.created r'))) ∧ r'.status = .created) ∧
    (∀ p r, (d.calls p).part = .creation → c.prog p = some (.ret (.ok (.created r))) →
      ∃ identity fingerprint, d.Identifies p c.world identity fingerprint ∧
        ∃ n ∈ c.world.notifications.committed, identity.Matches n ∧ r.notificationId = n.id) ∧
    -- a conflict is a row of the identity with another payload, and only for a key
    (∀ p identity fingerprint outcome, d.Identifies p c.world identity fingerprint →
      c.prog p = some (.ret outcome) →
      ((∃ message, outcome = .error (.idempotencyConflict message)) ↔
        ∃ n ∈ c.world.notifications.committed, identity.Matches n ∧
          n.payloadFingerprint ≠ fingerprint)) ∧
    (∀ p message, (d.calls p).part = .creation →
      c.prog p = some (.ret (.error (.idempotencyConflict message))) →
      ∃ service source request key, d.calls p = .createNotification service source request
        (some key)) ∧
    -- a call that raises is refused or in conflict, and has changed nothing
    (∀ p e, (d.calls p).part = .creation → c.prog p = some (.ret (.error e)) →
      ((∃ message, e = .valueError message) ∨ ∃ message, e = .idempotencyConflict message) ∧
      ∀ ls₀ i ls₁ c₀ c₁, ls = ls₀ ++ .run p i :: ls₁ → d.Run clock directory ls₀ c₀ →
        surroundings.step c₀ (.run p i) = some c₁ →
        c₁.world.notifications.committed = c₀.world.notifications.committed ∧
          c₁.world.outbox = c₀.world.outbox) := by
  have h_unique : ∀ {identity : NotificationIdentity} {n n' : Notification},
      n ∈ c.world.notifications.committed → n' ∈ c.world.notifications.committed →
      identity.Matches n → identity.Matches n' → n = n' := h.sound.identity_unique
  refine ⟨h.sound.notifications.nodup.sublist ((List.sublist_append_left _ _).map _),
    fun _ _ hn _ hn' => h_unique hn hn', h.created.events, ?_, fun p r h_call hp => ?_,
    fun p identity fingerprint outcome h_id hp => ?_, fun p message h_call hp => ?_,
    fun p e h_call hp => ?_⟩
  · rintro identity p r ⟨fingerprint, h_id⟩ hp
    have h_returns : ∀ q r', (∃ fingerprint, d.Identifies q c.world identity fingerprint) →
        c.prog q = some (.ret (.ok (.created r'))) → ∃ n' ∈ c.world.notifications.committed,
          identity.Matches n' ∧ r'.notificationId = n'.id ∧
          (r'.status = .created → (n'.id, q) ∈ c.world.issued) := by
      rintro q r' ⟨fingerprint', h_id'⟩ hq
      obtain ⟨n', hn', h_match', ⟨-, r'', h_eq, h_result⟩ | ⟨-, message, h_eq⟩⟩ :=
        h.creation_result h_id' hq
      · obtain rfl := Answer.created.inj (Except.ok.inj h_eq)
        exact ⟨n', hn', h_match', h_result⟩
      · exact absurd h_eq (by simp)
    obtain ⟨n, hn, h_match, h_result, -⟩ := h_returns p r ⟨fingerprint, h_id⟩ hp
    obtain ⟨q, r₀, identity₀, fingerprint₀, h_issued, hq, h_created, h_id₀, h_match₀⟩ :=
      h.creator hn
    obtain rfl := h_match.unique h_match₀
    refine ⟨fun q' r' h_id' hq' => ?_, q, ⟨⟨fingerprint₀, h_id₀⟩, r₀, hq, h_created⟩, ?_⟩
    · obtain ⟨n', hn', h_match', h_result', -⟩ := h_returns q' r' h_id' hq'
      rw [h_result', h_result, h_unique hn' hn h_match' h_match]
    · rintro q' ⟨h_id', r', hq', h_created'⟩
      obtain ⟨n', hn', h_match', -, h_issued'⟩ := h_returns q' r' h_id' hq'
      obtain rfl := h_unique hn' hn h_match' h_match
      exact h.sound.owner_unique (h_issued' h_created') h_issued
  · obtain ⟨result, h_eq, h_post⟩ := (h.post hp).creation h_call
    cases result with
    | error e => exact absurd h_eq (by simp [Except.map])
    | ok r' =>
      obtain rfl : r = r' := Answer.created.inj (Except.ok.inj h_eq)
      obtain ⟨identity, fingerprint, h_id, n, hn, h_match, -, h_result, -⟩ := h_post
      exact ⟨identity, fingerprint, h_id, n, hn, h_match, h_result⟩
  · obtain ⟨n, hn, h_match, ⟨h_print, r, rfl, -⟩ | ⟨h_print, message, rfl⟩⟩ :=
      h.creation_result h_id hp
    · refine iff_of_false (by simp) ?_
      rintro ⟨n', hn', h_match', h_print'⟩
      exact h_print' (h_unique hn' hn h_match' h_match ▸ h_print)
    · exact iff_of_true ⟨message, rfl⟩ ⟨n, hn, h_match, h_print⟩
  · obtain ⟨result, h_eq, h_post⟩ := (h.post hp).creation h_call
    cases result with
    | ok r => exact absurd h_eq (by simp [Except.map])
    | error e =>
      obtain rfl := Except.error.inj h_eq
      obtain ⟨-, ⟨message', h_value, -⟩ | ⟨-, -, identity, fingerprint, h_id, n, hn, h_match,
        h_print⟩⟩ := h_post
      · exact absurd h_value (by simp)
      · obtain ⟨service, source, request, key, value, h_call', -, -, h_identity, rfl⟩ := h_id
        cases key with
        | some key => exact ⟨service, source, request, key, h_call'⟩
        | none =>
          -- the row's hash would determine its fingerprint
          obtain ⟨q, row, -, h_row, h_same⟩ := h.created.rows n (Table.mem_rows_of_committed hn)
          have h_row_match : identity.Matches row :=
            Notification.SameRequest.matches h_same.symm h_match
          refine absurd ?_ h_print
          rw [h_same.payloadFingerprint]
          exact h_row.fingerprint_of_fallback h_inj h_row_match h_identity
  · obtain ⟨result, h_eq, h_post⟩ := (h.post hp).creation h_call
    cases result with
    | ok r => exact absurd h_eq (by simp [Except.map])
    | error e' =>
      obtain rfl := Except.error.inj h_eq
      refine ⟨?_, ?_⟩
      · obtain ⟨-, ⟨message, h_value, -⟩ | ⟨message, h_conflict, -⟩⟩ := h_post
        · exact .inl ⟨message, h_value⟩
        · exact .inr ⟨message, h_conflict⟩
      · rintro ls₀ i ls₁ c₀ c₁ rfl h₀ h_step
        rcases h₀.creation_step h_step h_call with h_same | ⟨r, h_returned⟩
        · exact h_same
        · have h_last := Machine.run_ret (Machine.run_split _ h h₀ h_step) h_returned
          exact absurd (h_last.symm.trans hp) (by simp)

/-- SHA-256 on the two payloads that are hashed below, one to the web channel and
one to e-mail. It exchanges each of them with its digest, to be injective. -/
def sampleSha256 : Equiv.Perm String :=
  (Equiv.swap (Json.obj (payloadFields (.toAll [.web] postInit_web))).text
    "9c463b9fc857eb46cb38cb01904f357cdb88f9e812f0b4a9242aafb81f9c9efc").trans
  (Equiv.swap (Json.obj (payloadFields (.toAll [.email] postInit_email))).text
    "0c44d5b3d4022e0be806de365e7f64f8de5541fcc41f9f96f207d330a26fe158")

/-- Two calls with one key and one payload, and one with another payload. -/
def creationDeployment : Deployment := .ofCalls sampleSha256 [
  .createNotification ⟨3600000000⟩ "orders" (.toAll [.web] postInit_web) (some "order-1"),
  .createNotification ⟨3600000000⟩ "orders" (.toAll [.web] postInit_web) (some "order-1"),
  .createNotification ⟨3600000000⟩ "orders" (.toAll [.email] postInit_email) (some "order-1")]

/-- The first two calls find no row. The second waits for the first to commit,
and meets its row. -/
def creationSchedule : Schedule := [
  .run 0 (.time (.ofInstant 0)), .run 1 (.time (.ofInstant 1)), .run 0 .go, .run 1 .go,
  .run 0 (.fresh 10), .run 0 (.fresh 11), .run 1 (.fresh 20), .run 1 .go, .run 1 .go,
  .run 2 (.time (.ofInstant 2)), .run 2 .go, .run 2 .go]

theorem creations_concurrent :
    ∃ c, creationDeployment.Run 0 (.ofUsers [1] (by decide)) creationSchedule c ∧
      c.world.notifications.committed.map Notification.id = [10] ∧ c.world.outbox.length = 1 ∧
      (∀ identity p r,
        (∃ fingerprint, creationDeployment.Identifies p c.world identity fingerprint) →
        c.prog p = some (.ret (.ok (.created r))) →
        ∀ q r', (∃ fingerprint, creationDeployment.Identifies q c.world identity fingerprint) →
          c.prog q = some (.ret (.ok (.created r'))) → r'.notificationId = r.notificationId) := by
  obtain ⟨c, h_run, h_rows⟩ := creationDeployment.exists_run 0 (.ofUsers [1] (by decide))
    creationSchedule (fun c => decide (
      c.world.notifications.committed.map Notification.id = [10] ∧ c.world.outbox.length = 1))
    (by decide +kernel)
  obtain ⟨h_ids, h_events⟩ := of_decide_eq_true h_rows
  obtain ⟨-, -, -, h_results, -⟩ := creations_idempotent sampleSha256.injective h_run
  exact ⟨c, h_run, h_ids, h_events, fun identity p r h_id hp => (h_results identity p r h_id hp).1⟩

end NotificationBroker
