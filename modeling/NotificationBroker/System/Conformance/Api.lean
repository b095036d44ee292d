import NotificationBroker.System.Conformance.Rules

/-!
# The API calls conform

Creation, the three retries and the read mark have the effects of
`System.Effects` and no others, and end as `CreatePost` and `RetryPost` say.
-/

namespace NotificationBroker

open Interleave Python
open ReadCommitted (Table Verdict)

variable {d : Deployment} {p : Pid} {w : World}

/-! ### Marking a web notification as read -/

theorem getVisibleWebDeliveryForUser_some {rows : List Delivery} {deliveryId userId : UUID}
    {r : Delivery} (h : getVisibleWebDeliveryForUser rows deliveryId userId = some r) :
    r ∈ rows ∧ r.id = deliveryId ∧ r.userId = userId ∧ r.channel = Channel.web.value ∧
      r.status = .delivered ∧ r.deliveredAt.isSome := by
  unfold getVisibleWebDeliveryForUser at h
  exact ⟨List.mem_of_find?_eq_some h, of_decide_eq_true (List.find?_some h :)⟩

theorem markRead_meets (userId webNotificationId : UUID) (h_call : (d.calls p).part = .reader) :
    Meets d p (WebNotificationService.markRead userId webNotificationId)
      (fun _ => Running p) w := by
  refine Meets.awareUtcNow fun w₁ value w₂ _ _ _ hS₂ => ?_
  split
  next =>
    refine Meets.unitOfWork hS₂ (fun _ => running_stable)
      (fun _ _ hK => ⟨hK, running_rollback hK p⟩) ?_
    refine Meets.query fun w₃ _ _ => ?_
    split
    next => exact .throw fun _ _ _ hK => hK
    next delivery h_find =>
      split
      next => exact .pure fun _ _ _ hK => hK
      next =>
        refine Meets.perform fun w₄ hR hS₄ i a w₅ hf => ?_
        simp only [Option.some.injEq, Prod.mk.injEq] at hf
        obtain ⟨-, rfl⟩ := hf
        refine ⟨.markRead delivery.id value.instant (fun r hr h_id => ?_) h_call,
          fun _ => .pure fun _ _ _ hK => hK⟩
        obtain ⟨h_mem, -, -, h_web, h_status, -⟩ := getVisibleWebDeliveryForUser_some h_find
        -- the row found is still there, and a delivered row stays delivered
        obtain ⟨r', hr', h_delivered, h_channel⟩ : ∃ r' ∈ w₄.deliveries.rows,
            r'.status = .delivered ∧ r'.channel = Channel.web.value ∧ r'.id = delivery.id := by
          rcases Table.mem_visible.mp h_mem with h_com | h_own
          · obtain ⟨r', hr', h_follows⟩ := hR.deliveries.mem h_com
            have h_key := h_follows.key
            simp only [Delivery.key, Prod.mk.injEq] at h_key
            exact ⟨r', Table.mem_rows_of_committed hr',
              (h_follows.settled (.inl h_status)).1.trans h_status,
              h_key.2.2.2.2.trans h_web, h_key.1⟩
          · exact ⟨delivery, Table.mem_rows_of_own (hR.deliveries_own ▸ h_own), h_status, h_web,
              rfl⟩
        rw [hS₄.delivery_eq (Table.mem_rows_of_committed hr) hr' (h_id.trans h_channel.2.symm)]
        exact ⟨h_delivered, h_channel.1⟩
  next => exact .throw fun _ _ _ hK => hK

/-! ### Retries -/

/-- How a retry of `p` ends: a call that raises has recorded nothing, and one
that returns has recorded exactly one audit row, whose contents it returns. -/
def RetryPost (p : Pid) (result : Except PyError RetryResult) (w : World) : Prop :=
  match result with
  | .error _ => Running p w
  | .ok r => ∃ a ∈ w.invocations, (a.id, p) ∈ w.issued ∧
      (∀ a' ∈ w.invocations, (a'.id, p) ∈ w.issued → a' = a) ∧
      r = ⟨a.notificationId, a.result, a.replayId, a.replayedDeliveryCount, a.createdAt⟩

theorem retryPost_stable (r : Except PyError RetryResult) : Stable p (RetryPost p r) := by
  intro w w' hR _ h
  cases r with
  | error e => exact hR.running h
  | ok r =>
    obtain ⟨a, ha, h_issued, h_unique, rfl⟩ := h
    exact ⟨a, hR.invocations.subset ha, hR.issued_mem h_issued, fun a' ha' h_issued' =>
      h_unique a' (hR.invocations_new a' ha' h_issued') (hR.issued_own a'.id h_issued'), rfl⟩

theorem recordRetry_meets {requester : RetryService.Requester} {notificationId : UUID}
    {eligible : List Delivery} {requestedAt : Instant}
    (h_call : (d.calls p).part = .retry)
    (h_eligible : ∀ e ∈ eligible, e ∈ w.deliveries.visible p ∧ e.notificationId = notificationId) :
    Meets d p (RetryService.recordRetry requester notificationId eligible requestedAt)
      (RetryPost p) w := by
  refine Meets.finish retryPost_stable fun w₁ hR hS₁ hK i a w₂ hf => ?_
  cases i with
  | retry skipped replayId eventId invocationId =>
    simp only [Option.ite_none_right_eq_some, Option.some.injEq, Prod.mk.injEq] at hf
    obtain ⟨h_fresh, rfl, rfl⟩ := hf
    refine ⟨.commitRetry requester notificationId (eligible.map Delivery.id) skipped requestedAt
      replayId eventId invocationId h_fresh (fun r hr h_id => ?_) h_call, fun _ => ?_⟩
    · obtain ⟨e, he, h_eq⟩ := List.mem_map.mp h_id
      obtain ⟨h_vis, h_notification⟩ := h_eligible e he
      have h_key := hR.delivery_of_id hS₁ h_vis hr h_eq.symm
      simp only [Delivery.key, Prod.mk.injEq] at h_key
      exact h_key.2.2.1.trans h_notification
    · refine ⟨_, List.mem_append_right _ (List.mem_singleton_self _), ?_, ?_, rfl⟩
      · simp [World.issue, RetryService.invocation]
      · intro a' ha' h_issued
        rcases List.mem_append.mp ha' with ha' | ha'
        · -- an older row of `p`: it had none, and the new identifiers are fresh
          rcases List.mem_append.mp h_issued with h_old | h_new
          · exact absurd h_old (hK.invocations a' ha')
          · obtain ⟨id, h_mem, h_eq⟩ := List.mem_map.mp h_new
            obtain rfl : id = a'.id := congrArg Prod.fst h_eq
            exact absurd (hS₁.invocations.generated _ (List.mem_map_of_mem ha'))
              (h_fresh.2 _ h_mem)
        · exact List.mem_singleton.mp ha'
  | _ => exact absurd hf (by simp)

theorem retryAll_meets (permitted : Notification → Except PyError Unit) (notificationId : UUID)
    (requester : RetryService.Requester) (h_call : (d.calls p).part = .retry) :
    Meets d p (RetryService.retryAll permitted notificationId requester) (RetryPost p) w := by
  refine Meets.awareUtcNow fun w₁ value w₂ _ _ _ hS₂ => ?_
  split
  next =>
    refine Meets.unitOfWork hS₂ retryPost_stable (fun _ _ hK => ⟨hK, running_rollback hK p⟩) ?_
    refine Meets.query fun w₃ _ _ => ?_
    split
    next => exact .throw fun _ _ _ hK => hK
    next notification _ =>
      refine Meets.compute (fun _ _ => ?_) fun e _ => .throw fun _ _ _ hK => hK
      -- what the query has found is failed and of the notification
      refine Meets.query fun w₄ _ _ => recordRetry_meets h_call fun e he => ?_
      simp only [listFailedRetryableDeliveries, List.mem_insertionSort, List.mem_filter,
        decide_eq_true_eq] at he
      exact ⟨he.1, he.2.1⟩
  next => exact .throw fun _ _ _ hK => hK

theorem retryUserNotification_meets (webNotificationId userId : UUID)
    (h_call : (d.calls p).part = .retry) :
    Meets d p (RetryService.retryUserNotification webNotificationId userId) (RetryPost p) w := by
  refine Meets.awareUtcNow fun w₁ value w₂ _ _ _ hS₂ => ?_
  split
  next =>
    refine Meets.unitOfWork hS₂ retryPost_stable (fun _ _ hK => ⟨hK, running_rollback hK p⟩) ?_
    refine Meets.query fun w₃ _ _ => ?_
    split
    next => exact .throw fun _ _ _ hK => hK
    next webDelivery _ =>
      refine Meets.query fun w₄ _ _ => ?_
      split
      next => exact .throw fun _ _ _ hK => hK
      next notification h_find =>
        -- the siblings are listed by the notification that was found
        have h_id : notification.id = webDelivery.notificationId :=
          of_decide_eq_true (List.find?_some h_find :)
        refine Meets.query fun w₅ _ _ => recordRetry_meets h_call fun e he => ?_
        simp only [listUserRetryableSiblingDeliveries, List.mem_insertionSort, List.mem_filter,
          decide_eq_true_eq] at he
        exact ⟨he.1, he.2.2.1.trans h_id.symm⟩
  next => exact .throw fun _ _ _ hK => hK

/-! ### Creation -/

/-- The creation call of `p` has read the clock once, an aware value, and looks
for `identity` with the fingerprint `fingerprint`. -/
def Deployment.Identifies (d : Deployment) (p : Pid) (w : World) (identity : NotificationIdentity)
    (fingerprint : String) : Prop :=
  ∃ service sourceService request idempotencyKey value,
    d.calls p = .createNotification service sourceService request idempotencyKey ∧
    w.readings p = [value] ∧ value.utcoffset.isSome ∧
    service.identity d.sha256 sourceService request idempotencyKey value.instant = .ok identity ∧
    fingerprint = payloadFingerprint d.sha256 request

/-- How a creation of `p` ends. A call that returns names the committed row of
its identity, whose payload is its own, and is the one that committed it exactly
if it says so. A call that raises has committed nothing: its clock or its window
is unusable, or the row of its identity has another payload. -/
def CreatePost (d : Deployment) (p : Pid) (result : Except PyError NotificationCreateResult)
    (w : World) : Prop :=
  match result with
  | .ok r => ∃ identity fingerprint, d.Identifies p w identity fingerprint ∧
      ∃ n ∈ w.notifications.committed, identity.Matches n ∧ n.payloadFingerprint = fingerprint ∧
        r.notificationId = n.id ∧
        ((r.status = .created ∧ (n.id, p) ∈ w.issued) ∨ (r.status = .existing ∧ Running p w))
  | .error e => Running p w ∧
      ((∃ message, e = .valueError message ∧
          ∀ identity fingerprint, ¬ d.Identifies p w identity fingerprint) ∨
        (∃ message, e = .idempotencyConflict message ∧
          ∃ identity fingerprint, d.Identifies p w identity fingerprint ∧
          ∃ n ∈ w.notifications.committed, identity.Matches n ∧ n.payloadFingerprint ≠ fingerprint))

theorem Relies.identifies {w' : World} (hR : Relies p w w') {identity : NotificationIdentity}
    {fingerprint : String} :
    d.Identifies p w' identity fingerprint ↔ d.Identifies p w identity fingerprint := by
  unfold Deployment.Identifies
  rw [hR.readings]

/-- A committed row stays, with its identity and its fingerprint. -/
theorem Relies.committed_notification {w' : World} (hR : Relies p w w') {n : Notification}
    (hn : n ∈ w.notifications.committed) : ∃ n' ∈ w'.notifications.committed, n'.id = n.id ∧
      n'.payloadFingerprint = n.payloadFingerprint ∧
      ∀ identity : NotificationIdentity, identity.Matches n → identity.Matches n' := by
  obtain ⟨n', hn', h_same⟩ := hR.notifications.mem hn
  exact ⟨n', hn', h_same.id, h_same.payloadFingerprint, fun _ h_match => h_same.matches h_match⟩

theorem createPost_stable (r : Except PyError NotificationCreateResult) :
    Stable p (CreatePost d p r) := by
  intro w w' hR _ h
  cases r with
  | ok r =>
    obtain ⟨identity, fingerprint, h_id, n, hn, h_match, h_print, h_result, h_status⟩ := h
    -- a committed notification keeps its request whatever others do
    obtain ⟨n', hn', h_eq, h_print', h_match'⟩ := hR.committed_notification hn
    refine ⟨identity, fingerprint, hR.identifies.mpr h_id, n', hn', h_match' identity h_match,
      h_print'.trans h_print, h_result.trans h_eq.symm, ?_⟩
    rcases h_status with ⟨h_created, h_issued⟩ | ⟨h_existing, hK⟩
    · exact .inl ⟨h_created, h_eq ▸ hR.issued_mem h_issued⟩
    · exact .inr ⟨h_existing, hR.running hK⟩
  | error e =>
    obtain ⟨hK, ⟨message, rfl, h_none⟩ | ⟨message, rfl, identity, fingerprint, h_id, n, hn,
      h_match, h_print⟩⟩ := h
    · exact ⟨hR.running hK, .inl ⟨message, rfl, fun identity fingerprint h_id =>
        h_none identity fingerprint (hR.identifies.mp h_id)⟩⟩
    · obtain ⟨n', hn', -, h_print', h_match'⟩ := hR.committed_notification hn
      exact ⟨hR.running hK, .inr ⟨message, rfl, identity, fingerprint, hR.identifies.mpr h_id, n',
        hn', h_match' identity h_match, h_print' ▸ h_print⟩⟩

/-- The answer for an existing row is the one the postcondition asks for. -/
theorem existingResult_meets {identity : NotificationIdentity} {fingerprint : String}
    {existing : Notification} (h_id : d.Identifies p w identity fingerprint)
    (h_mem : existing ∈ w.notifications.committed) (h_match : identity.Matches existing) :
    Meets d p (compute (NotificationCreationService.existingResult fingerprint existing))
      (CreatePost d p) w := by
  intro hK w' hR hS'
  refine createPost_stable _ w w' hR hS' ?_
  unfold NotificationCreationService.existingResult
  split
  next h_ne =>
    exact ⟨hK, .inr ⟨_, rfl, identity, fingerprint, h_id, existing, h_mem, h_match, h_ne⟩⟩
  next h_eq =>
    exact ⟨identity, fingerprint, h_id, existing, h_mem, h_match, not_not.mp h_eq, rfl,
      .inr ⟨rfl, hK⟩⟩

theorem createNotification_meets {service : NotificationCreationService} {sourceService : String}
    {request : NotificationCreationInput} {idempotencyKey : Option String}
    (h_call : d.calls p = .createNotification service sourceService request idempotencyKey)
    (h_readings : w.readings p = []) (h_own : w.notifications.own p = []) :
    Meets d p (service.createNotification d.sha256 sourceService request idempotencyKey)
      (CreatePost d p) w := by
  have h_visible : ∀ {w' : World}, w'.notifications.own p = [] →
      w'.notifications.visible p = w'.notifications.committed := fun h => by
    rw [Table.visible, h, List.append_nil]
  refine Meets.awareUtcNow fun w₁ value w₂ hR₁ hS₁ h_w₂ hS₂ => ?_
  have h_read : w₂.readings p = [value] := by
    rw [h_w₂, World.readings, World.record, List.filterMap_append]
    have h_before : w₁.readings p = [] := hR₁.readings.trans h_readings
    unfold World.readings at h_before
    rw [h_before]
    simp
  have h_own₂ : w₂.notifications.own p = [] := by
    rw [h_w₂]
    exact hR₁.notifications_own.trans h_own
  split
  next offset h_offset =>
    refine Meets.unitOfWork hS₂ createPost_stable
      (fun e w h => ⟨h.1, running_rollback h.1 p, h.2⟩) ?_
    refine Meets.compute (fun identity h_identity => ?_) fun e h_identity => ?_
    · -- the identity is known: everything below happens under it
      have h_id : d.Identifies p w₂ identity (payloadFingerprint d.sha256 request) :=
        ⟨service, sourceService, request, idempotencyKey, value, h_call, h_read,
          by rw [h_offset]; rfl, h_identity, rfl⟩
      refine Meets.query fun w₃ hR₃ hS₃ => ?_
      have h_own₃ := hR₃.notifications_own.trans h_own₂
      split
      next existing h_find =>
        obtain ⟨h_mem, h_match⟩ := NotificationIdentity.find_some h_find
        exact existingResult_meets (hR₃.identifies.mpr h_id) (h_visible h_own₃ ▸ h_mem) h_match
      next =>
        refine Meets.perform fun w₄ hR₄ hS₄ i a w₅ hf => ?_
        have h_own₄ := hR₄.notifications_own.trans h_own₃
        have h_id₄ := (hR₄.identifies.mpr (hR₃.identifies.mpr h_id))
        cases i with
        | fresh id =>
          simp only [Option.ite_none_right_eq_some] at hf
          obtain ⟨h_fresh, hf⟩ := hf
          rw [if_pos (NotificationCreationService.newNotification_deduplicationPresent ..)] at hf
          have h_row_match := NotificationCreationService.identity_matches h_identity
            (payloadFingerprint d.sha256 request) id
          split at hf
          next h_dup =>
            -- the index found a duplicate: the row it conflicts with is committed
            simp only [Option.some.injEq, Prod.mk.injEq] at hf
            obtain ⟨rfl, rfl⟩ := hf
            obtain ⟨x, hx, h_conflict⟩ := Table.verdict_duplicate h_dup
            rw [h_visible h_own₄] at hx
            refine ⟨.nothing, fun _ => Meets.perform fun w₆ hR₆ hS₆ i a w₇ hf => ?_⟩
            simp only [Option.some.injEq, Prod.mk.injEq] at hf
            obtain ⟨-, rfl⟩ := hf
            refine ⟨.rollback, fun hS₇ => Meets.query fun w₈ hR₈ hS₈ => ?_⟩
            have h_own₈ : w₈.notifications.own p = [] :=
              hR₈.notifications_own.trans Table.own_abort_self
            have h_id₆ : d.Identifies p (w₆.rollback p) identity
                (payloadFingerprint d.sha256 request) := hR₆.identifies.mpr h_id₄
            have h_id₈ := hR₈.identifies.mpr h_id₆
            split
            next existing h_find =>
              obtain ⟨h_mem, h_match⟩ := NotificationIdentity.find_some h_find
              exact existingResult_meets h_id₈ (h_visible h_own₈ ▸ h_mem) h_match
            next h_find =>
              obtain ⟨x', hx', -, -, h_match'⟩ := hR₆.committed_notification hx
              obtain ⟨x'', hx'', -, -, h_match''⟩ :=
                hR₈.committed_notification (w := w₆.rollback p) hx'
              refine absurd (h_match'' identity (h_match' identity
                (h_row_match.of_conflicts h_conflict))) (NotificationIdentity.find_none h_find ?_)
              exact Table.mem_visible.mpr (.inl hx'')
          next => exact absurd hf (by simp)
          next h_free =>
            simp only [Option.some.injEq, Prod.mk.injEq] at hf
            obtain ⟨rfl, rfl⟩ := hf
            have h_requests : ∀ {w' : World}, w'.readings p = [value] → d.Requests p w'
                (NotificationCreationService.newNotification sourceService request identity
                  (payloadFingerprint d.sha256 request) value.instant id) := fun h =>
              ⟨service, sourceService, request, idempotencyKey, value, identity, h_call,
                by rw [h]; exact List.mem_singleton_self _, h_identity, rfl⟩
            have h_read₄ := hR₄.readings.trans (hR₃.readings.trans h_read)
            refine ⟨.insertNotification _ (h_requests h_read₄) h_fresh h_free, fun _ => ?_⟩
            refine Meets.finish createPost_stable fun w₆ hR₆ hS₆ hK₆ i a w₇ hf => ?_
            cases i with
            | fresh eventId =>
              simp only [Option.ite_none_right_eq_some, Option.some.injEq, Prod.mk.injEq] at hf
              obtain ⟨h_fresh', -, rfl⟩ := hf
              have h_own₆ : w₆.notifications.own p = [NotificationCreationService.newNotification
                  sourceService request identity (payloadFingerprint d.sha256 request)
                  value.instant id] := by
                rw [hR₆.notifications_own, Table.own_insert_self, h_own₄, List.nil_append]
              have h_issued₆ : (id, p) ∈ w₆.issued :=
                hR₆.issued_mem (List.mem_append_right _ (List.mem_singleton_self _))
              refine ⟨.commitNotification _ value.instant eventId h_own₆ h_issued₆
                (h_requests (hR₆.readings.trans h_read₄)) h_fresh', fun _ => ?_⟩
              refine ⟨identity, payloadFingerprint d.sha256 request, hR₆.identifies.mpr h_id₄, _,
                ?_, h_row_match, rfl, rfl, .inl ⟨rfl, List.mem_append_left _ h_issued₆⟩⟩
              rw [Table.committed_commit, h_own₆]
              exact List.mem_append_right _ (List.mem_singleton_self _)
            | _ => exact absurd hf (by simp)
        | _ => exact absurd hf (by simp)
    · -- the window is not a positive whole number of seconds
      refine .throw fun w₃ hR₃ _ hK => ⟨hK, .inl ?_⟩
      obtain ⟨message, rfl⟩ := NotificationCreationService.identity_error h_identity
      refine ⟨message, rfl, fun identity fingerprint h_id => ?_⟩
      obtain ⟨service', sourceService', request', key', value', h_call', h_read', -, h_identity',
        -⟩ := h_id
      rw [h_call, Call.createNotification.injEq] at h_call'
      obtain ⟨rfl, rfl, rfl, rfl⟩ := h_call'
      rw [hR₃.readings, h_read, List.cons.injEq] at h_read'
      rw [← h_read'.1, h_identity] at h_identity'
      exact absurd h_identity' (by simp)
  next h_naive =>
    refine .throw fun w₃ hR₃ _ hK => ⟨hK, .inl ⟨_, rfl, fun identity fingerprint h_id => ?_⟩⟩
    obtain ⟨-, -, -, -, value', -, h_read', h_aware, -⟩ := h_id
    rw [hR₃.readings, h_read, List.cons.injEq] at h_read'
    rw [← h_read'.1, h_naive] at h_aware
    exact absurd h_aware (by simp)

end NotificationBroker
