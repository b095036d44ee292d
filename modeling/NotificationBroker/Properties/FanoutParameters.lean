import NotificationBroker.Db.Repositories.BulkInserts
import NotificationBroker.Services.NotificationFanout

/-!
# The parameters of a fan-out's statements

The guard of a fan-out counts recipients and deliveries, and PostgreSQL counts the bind
parameters of one statement: four for a recipient, eleven for a delivery. The guard keeps the
recipients' statement below the limit by far. It admits 20,000 deliveries, and the statement
that inserts the missing ones binds too many parameters from 5,958 on
(`fanout_executable_iff`).
-/

namespace NotificationBroker

open Python

/-- What the queries of a fan-out have answered: the resolved users, the requested channels,
the recipients before and after the missing ones are inserted, and the deliveries. -/
structure FanoutReads where
  userIds : List UUID
  channels : List Channel
  recipientIds : List (UUID × UUID)
  recipientIdsNow : List (UUID × UUID)
  deliveryPairs : List (UUID × Channel)

namespace FanoutReads

/-- `missing_user_ids`. -/
def missingUserIds (reads : FanoutReads) : List UUID :=
  reads.userIds.filter fun userId => (dictGet reads.recipientIds userId).isNone

/-- `delivery_values`, or the `KeyError` of a user without a recipient. -/
def deliveryValues (reads : FanoutReads) (notificationId : UUID) (nextAttemptAt : Instant) :
    Except PyError (List (UUID → Delivery)) :=
  NotificationFanoutService.missingDeliveries notificationId reads.recipientIdsNow
    reads.deliveryPairs reads.channels nextAttemptAt reads.userIds

/-- The pairs of a resolved user and a requested channel that have no delivery. -/
def missingPairs (reads : FanoutReads) : List (UUID × Channel) :=
  reads.userIds.flatMap fun userId =>
    (reads.channels.filter fun channel => (userId, channel) ∉ reads.deliveryPairs).map
      fun channel => (userId, channel)

/-- The bulk `INSERT`s that `fanout_notification` issues, in order. -/
def bulkInserts (reads : FanoutReads) (notificationId : UUID) (nextAttemptAt : Instant)
    (recipientIds deliveryIds : ℕ → UUID) : List BulkInsert :=
  recipientInserts notificationId nextAttemptAt recipientIds reads.missingUserIds ++
    match reads.deliveryValues notificationId nextAttemptAt with
    | .ok values => deliveryInserts deliveryIds values
    | .error _ => []

end FanoutReads

namespace NotificationFanoutService

/-- **The statements are those of the fan-out**: with what its queries answer, it inserts the
recipients and the deliveries that `FanoutReads` says. -/
theorem fanout_reads (service : NotificationFanoutService) (notification : Notification)
    (nextAttemptAt : Instant) :
    service.fanout notification nextAttemptAt = (do
      let audience ← compute (audienceSelection notification)
      let userIds ← resolveAudience audience
      let channels ← compute (notification.channels.mapM parseChannel)
      compute (service.withinLimits userIds channels)
      let recipientIds ← query fun p w =>
        listRecipientIdsByUser (w.recipients.visible p) notification.id
      addRecipientsIgnoreConflicts notification.id nextAttemptAt
        (FanoutReads.missingUserIds ⟨userIds, channels, recipientIds, [], []⟩)
      let recipientIdsNow ← countRecipients notification.id
      let pairs ← attempt fun p _ w =>
        some (listDeliveryPairs (w.deliveries.visible p) notification.id, w)
      let values ← compute (FanoutReads.deliveryValues
        ⟨userIds, channels, recipientIds, recipientIdsNow, pairs⟩ notification.id nextAttemptAt)
      addDeliveriesIgnoreConflicts values
      let pairs ← countDeliveries notification.id
      commitFanout notification (dictLen recipientIdsNow) pairs.length
      return ⟨notification.id, dictLen recipientIdsNow, pairs.length, nextAttemptAt⟩) := rfl

/-- One row is built for each pair that is missing, and every user has a recipient. -/
theorem missingDeliveries_length {notificationId : UUID} {recipientIds : List (UUID × UUID)}
    {pairs : List (UUID × Channel)} {channels : List Channel} {nextAttemptAt : Instant}
    {userIds : List UUID} {values : List (UUID → Delivery)}
    (h : missingDeliveries notificationId recipientIds pairs channels nextAttemptAt userIds =
      .ok values) :
    values.length = (userIds.flatMap fun userId =>
      (channels.filter fun channel => (userId, channel) ∉ pairs).map
        fun channel => (userId, channel)).length ∧
      ∀ userId ∈ userIds, dictGet recipientIds userId ≠ none := by
  induction userIds generalizing values with
  | nil =>
    obtain rfl := Except.ok.inj h
    exact ⟨rfl, fun _ h => absurd h List.not_mem_nil⟩
  | cons userId userIds ih =>
    unfold missingDeliveries at h
    split at h
    · -- a user without a recipient raises `KeyError`
      exact absurd h (by simp)
    next recipientId h_get =>
      cases h_rest : missingDeliveries notificationId recipientIds pairs channels nextAttemptAt
          userIds with
      | error e => rw [h_rest] at h; exact absurd h (by simp [bind, Except.bind])
      | ok rest =>
        rw [h_rest] at h
        obtain rfl := Except.ok.inj h
        obtain ⟨h_length, h_found⟩ := ih h_rest
        refine ⟨?_, fun other h_other => ?_⟩
        · rw [List.flatMap_cons, List.length_append, List.length_append, List.length_map,
            List.length_map, h_length]
        · rcases List.mem_cons.mp h_other with rfl | h_other
          · rw [h_get]
            exact Option.some_ne_none recipientId
          · exact h_found other h_other

/-- The loop goes through if every user has a recipient. -/
theorem missingDeliveries_eq_ok {notificationId : UUID} {recipientIds : List (UUID × UUID)}
    {pairs : List (UUID × Channel)} {channels : List Channel} {nextAttemptAt : Instant}
    {userIds : List UUID} (h : ∀ userId ∈ userIds, dictGet recipientIds userId ≠ none) :
    ∃ values, missingDeliveries notificationId recipientIds pairs channels nextAttemptAt userIds =
      .ok values := by
  cases h_values : missingDeliveries notificationId recipientIds pairs channels nextAttemptAt
      userIds with
  | ok values => exact ⟨values, rfl⟩
  | error e =>
    obtain ⟨-, userId, h_user, h_none⟩ := missingDeliveries_error h_values
    exact absurd h_none (h userId h_user)

/-- An admitted fan-out resolves few enough users. -/
theorem withinLimits_recipients {service : NotificationFanoutService} {userIds : List UUID}
    {channels : List Channel} (h : service.withinLimits userIds channels = .ok ()) :
    userIds.length ≤ service.maxRecipients := by
  unfold withinLimits at h
  dsimp only at h
  split at h
  · exact absurd h (by simp)
  next h_not => exact Nat.le_of_not_lt fun h_lt => h_not (.inl h_lt)

end NotificationFanoutService

open NotificationFanoutService

/-- The statement for the deliveries, of a fan-out in which every user has a recipient. -/
theorem deliveryInserts_of_found {reads : FanoutReads} {notificationId : UUID}
    {nextAttemptAt : Instant} {recipientIds deliveryIds : ℕ → UUID}
    (h_found : ∀ userId ∈ reads.userIds, dictGet reads.recipientIdsNow userId ≠ none) :
    (∀ statement ∈ reads.bulkInserts notificationId nextAttemptAt recipientIds deliveryIds,
      statement.Executable) ↔
    (∀ statement ∈ recipientInserts notificationId nextAttemptAt recipientIds
      reads.missingUserIds, statement.Executable) ∧ reads.missingPairs.length ≤ 5957 := by
  obtain ⟨values, h_values⟩ : ∃ values,
      reads.deliveryValues notificationId nextAttemptAt = .ok values :=
    missingDeliveries_eq_ok h_found
  have h_length := (missingDeliveries_length h_values).1
  unfold FanoutReads.bulkInserts
  rw [List.forall_mem_append, h_values, deliveryInserts_executable_iff, h_length]
  rfl

/-- **Executable fan-outs.** Under the default settings, every bulk `INSERT` of an admitted
fan-out stays within PostgreSQL's limit if and only if at most 5,957 pairs of a resolved user
and a requested channel have no delivery yet, or a resolved user without a recipient makes it
fail before it inserts deliveries. -/
theorem fanout_executable_iff (notification : Notification) (nextAttemptAt : Instant)
    (reads : FanoutReads) (recipientIds deliveryIds : ℕ → UUID)
    (h_limits : withinLimits {} reads.userIds reads.channels = .ok ()) :
    (∀ statement ∈ reads.bulkInserts notification.id nextAttemptAt recipientIds deliveryIds,
      statement.Executable) ↔
    reads.missingPairs.length ≤ 5957 ∨
      ∃ userId ∈ reads.userIds, dictGet reads.recipientIdsNow userId = none := by
  have h_recipients : ∀ statement ∈ recipientInserts notification.id nextAttemptAt recipientIds
      reads.missingUserIds, statement.Executable := by
    refine recipientInserts_executable_iff.mpr ?_
    calc reads.missingUserIds.length ≤ reads.userIds.length := List.length_filter_le _ _
      _ ≤ 10000 := withinLimits_recipients h_limits
      _ ≤ 16383 := by decide
  by_cases h_found : ∀ userId ∈ reads.userIds, dictGet reads.recipientIdsNow userId ≠ none
  · have h_not : ¬ ∃ userId ∈ reads.userIds, dictGet reads.recipientIdsNow userId = none :=
      fun ⟨userId, h_user, h_none⟩ => h_found userId h_user h_none
    rw [deliveryInserts_of_found h_found, and_iff_right h_recipients, or_iff_left h_not]
  · push Not at h_found
    refine ⟨fun _ => .inr h_found, fun _ => ?_⟩
    -- the lookup of a recipient fails, and no statement for deliveries is issued
    cases h_values : reads.deliveryValues notification.id nextAttemptAt with
    | ok values =>
      obtain ⟨userId, h_user, h_none⟩ := h_found
      exact absurd h_none ((missingDeliveries_length h_values).2 userId h_user)
    | error e =>
      unfold FanoutReads.bulkInserts
      rw [h_values, List.append_nil]
      exact h_recipients

/-! ### Fan-outs -/

/-- The fan-out of a new notification for all of `userIds`. -/
def newReads (userIds : List UUID) (channels : List Channel) : FanoutReads :=
  ⟨userIds, channels, [], userIds.map fun userId => (userId, userId), []⟩

theorem newReads_recipient (userIds : List UUID) (channels : List Channel) :
    ∀ userId ∈ (newReads userIds channels).userIds,
      dictGet (newReads userIds channels).recipientIdsNow userId ≠ none := by
  intro userId h_user
  rw [ne_eq, dictGet_eq_none_iff]
  exact fun h_none => h_none userId (List.mem_map.mpr ⟨userId, h_user, rfl⟩)

theorem newReads_missing (userIds : List UUID) (channels : List Channel) :
    (newReads userIds channels).missingPairs.length = userIds.length * channels.length := by
  unfold FanoutReads.missingPairs newReads
  induction userIds with
  | nil => simp
  | cons userId rest ih =>
    dsimp only at ih ⊢
    rw [List.flatMap_cons, List.length_append, ih, List.length_cons, Nat.succ_mul, Nat.add_comm]
    simp

def webNotification : Notification where
  id := 3
  sourceService := "billing"
  message := "hello"
  severity := .info
  audienceType := .all
  audience := .obj [("type", .str "all")]
  channels := ["web"]
  idempotencyKey := some "hello"
  payloadFingerprint := ""
  deduplicationHash := none
  deduplicationWindowStart := none
  recipientCount := 0
  deliveryCount := 0
  createdAt := 0

def demoUserIds : List UUID := (List.range 5000).map fun n => Fin.ofNat _ n

/-- The documented demonstration: all of 5,000 users, on both channels. The fan-out is
admitted, and binds 110,000 parameters in one statement. -/
theorem fanout_not_executable :
    withinLimits {} (newReads demoUserIds [.web, .email]).userIds [.web, .email] = .ok () ∧
    ¬ ∀ statement ∈ (newReads demoUserIds [.web, .email]).bulkInserts 1 0 (fun i => Fin.ofNat _ i)
      (fun i => Fin.ofNat _ (20000 + i)), statement.Executable := by
  have h_length : demoUserIds.length = 5000 := by
    rw [demoUserIds, List.length_map, List.length_range]
  refine ⟨?_, fun h => ?_⟩
  · simp [withinLimits, newReads, h_length]
  · have h_pairs := ((deliveryInserts_of_found (newReads_recipient demoUserIds _)).mp h).2
    rw [newReads_missing, h_length] at h_pairs
    exact absurd h_pairs (by decide)

/-- A fan-out for 5,000 users on one channel fits. -/
theorem fanout_executable_web :
    ((newReads demoUserIds [.web]).bulkInserts 3 0 (fun i => Fin.ofNat _ i)
      (fun i => Fin.ofNat _ (20000 + i))).all (·.Executable) = true := by
  have h_length : demoUserIds.length = 5000 := by
    rw [demoUserIds, List.length_map, List.length_range]
  have h_limits : withinLimits {} (newReads demoUserIds [.web]).userIds [.web] = .ok () := by
    simp [withinLimits, newReads, h_length]
  have h_pairs : (newReads demoUserIds [.web]).missingPairs.length = 5000 := by
    rw [newReads_missing, h_length]
    rfl
  have h_executable := (fanout_executable_iff webNotification 0 (newReads demoUserIds [.web])
    (fun i => Fin.ofNat _ i) (fun i => Fin.ofNat _ (20000 + i)) h_limits).mpr
    (.inl (by rw [h_pairs]; decide))
  exact List.all_eq_true.mpr fun statement h => decide_eq_true (h_executable statement h)

end NotificationBroker
