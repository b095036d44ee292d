import NotificationBroker.Db.Repositories.Notifications

/-!
# The notification fan-out service

`NotificationFanoutService.fanout_notification`: resolve the audience of a
notification, insert the recipients and deliveries that are missing, count them
again and store the counts, in one transaction.

The transaction is interleaved statement by statement, and its insertions row by
row. `openFanout`, `resolveAudience`, `countRecipients` and `countDeliveries` are
queries whose answers are also noted in the world's list of open fan-outs.
-/

namespace NotificationBroker

open Python

structure NotificationFanoutService where
  maxRecipients : ℕ := 10000
  maxDeliveries : ℕ := 20000

namespace NotificationFanoutService

/-- `_audience_selection`: the audience as the notification's row stores it. -/
def audienceSelection (notification : Notification) : Except PyError AudienceSelection :=
  let group : Option String :=
    match notification.audience.get? "group" with
    | some (.str group) => some group
    | _ => none
  let labels : Option (List (String × Json)) :=
    match notification.audience.get? "labels" with
    | some (.obj labels) => some labels
    | _ => none
  match labels with
  | none => AudienceSelection.make notification.audienceType group none
  | some items =>
    -- a label that is not a string fails the checks of `_validate_labels`
    match items.mapM fun item => match item.2 with
        | .str value => some (item.1, value)
        | _ => none with
    | some items => AudienceSelection.make notification.audienceType group (some items)
    | none => .error (.valueError "label value must be a string")

theorem audienceSelection_error {notification : Notification} {e : PyError}
    (h : audienceSelection notification = .error e) : ∃ message, e = .valueError message := by
  unfold audienceSelection at h
  dsimp only at h
  split at h
  · exact AudienceSelection.make_error h
  · split at h
    · exact AudienceSelection.make_error h
    · exact ⟨_, (Except.error.inj h).symm⟩

/-- The update of the entry of `p` among the open fan-outs. -/
def note (p : Pid) (f : Fanout → Fanout) (w : World) : World :=
  { w with fanouts := w.fanouts.map fun x => if x.pid = p then f x else x }

/-- `uow.notifications.get(notification_id)`. -/
def openFanout (notificationId : UUID) : Program (Option Notification) :=
  perform fun p _ w =>
    match getNotification (w.notifications.visible p) notificationId with
    | some n => some (some n, { w with fanouts := w.fanouts ++ [⟨p, n, none, none, none⟩] })
    | none => some (none, w)

/-- `AudienceResolutionService(uow.users).resolve(audience)`. -/
def resolveAudience (audience : AudienceSelection) : Program (List UUID) :=
  attempt fun p _ w =>
    match w.directory.resolve audience with
    | .ok userIds => some (.ok userIds, note p (fun x => { x with userIds := some userIds }) w)
    | .error e => some (.error e, w)

/-- `uow.notifications.list_recipient_ids_by_user(notification.id)` after the
insertions. -/
def countRecipients (notificationId : UUID) : Program (List (UUID × UUID)) :=
  perform fun p _ w =>
    let items := listRecipientIdsByUser (w.recipients.visible p) notificationId
    some (items, note p (fun x => { x with recipientCount := some (dictLen items) }) w)

/-- `uow.notifications.list_delivery_pairs(notification.id)` after the insertions. -/
def countDeliveries (notificationId : UUID) : Program (List (UUID × Channel)) :=
  attempt fun p _ w =>
    match listDeliveryPairs (w.deliveries.visible p) notificationId with
    | .ok pairs =>
      some (.ok pairs, note p (fun x => { x with deliveryCount := some pairs.length }) w)
    | .error e => some (.error e, w)

/-- A row of `delivery_values`. -/
def deliveryValues (notificationId userId recipientId : UUID) (channel : Channel)
    (nextAttemptAt : Instant) (id : UUID) : Delivery where
  id := id
  notificationRecipientId := recipientId
  notificationId := notificationId
  userId := userId
  channel := channel.value
  status := .pending
  attemptCount := 0
  maxAttempts := 3
  nextAttemptAt := nextAttemptAt
  processingStartedAt := none
  leaseExpiresAt := none
  claimedBy := none
  claimToken := none
  replayId := none
  readAt := none
  deliveredAt := none
  providerMessageId := none
  lastErrorCode := none
  lastErrorMessage := none
  createdAt := nextAttemptAt
  updatedAt := nextAttemptAt

instance : LawfulBEq (UUID × Channel) := inferInstance

/-- The loop that builds `delivery_values`. -/
def missingDeliveries (notificationId : UUID) (recipientIds : List (UUID × UUID))
    (pairs : List (UUID × Channel)) (channels : List Channel) (nextAttemptAt : Instant) :
    List UUID → Except PyError (List (UUID → Delivery))
  | [] => .ok []
  | userId :: userIds =>
    match dictGet recipientIds userId with
    -- `recipient_ids_by_user[user_id]`
    | none => .error .keyError
    | some recipientId => do
      let rest ← missingDeliveries notificationId recipientIds pairs channels nextAttemptAt userIds
      return ((channels.filter fun channel => (userId, channel) ∉ pairs).map fun channel =>
        deliveryValues notificationId userId recipientId channel nextAttemptAt) ++ rest

/-- The rows that are built: they are for resolved users on requested channels,
with the identifier the lookup finds, and leave out no pair that is missing. -/
theorem missingDeliveries_ok {notificationId : UUID} {recipientIds : List (UUID × UUID)}
    {pairs : List (UUID × Channel)} {channels : List Channel} {nextAttemptAt : Instant}
    {userIds : List UUID} {values : List (UUID → Delivery)}
    (h : missingDeliveries notificationId recipientIds pairs channels nextAttemptAt userIds =
      .ok values) :
    ∃ rows : List ((UUID × Channel) × (UUID → Delivery)), values = rows.map Prod.snd ∧
      (∀ row ∈ rows, row.1.1 ∈ userIds ∧ row.1.2 ∈ channels ∧
        ∃ recipientId, dictGet recipientIds row.1.1 = some recipientId ∧
          row.2 = deliveryValues notificationId row.1.1 recipientId row.1.2 nextAttemptAt) ∧
      ∀ userId ∈ userIds, ∀ channel ∈ channels,
        (userId, channel) ∈ pairs ∨ (userId, channel) ∈ rows.map Prod.fst := by
  induction userIds generalizing values with
  | nil =>
    obtain rfl := Except.ok.inj h
    exact ⟨[], rfl, fun _ h => absurd h List.not_mem_nil, fun _ h => absurd h List.not_mem_nil⟩
  | cons userId userIds ih =>
    unfold missingDeliveries at h
    split at h
    · exact absurd h (by simp)
    next recipientId h_get =>
      cases h_rest : missingDeliveries notificationId recipientIds pairs channels nextAttemptAt
          userIds with
      | error e => rw [h_rest] at h; exact absurd h (by simp [bind, Except.bind])
      | ok rest =>
        rw [h_rest] at h
        obtain rfl := Except.ok.inj h
        obtain ⟨rows, rfl, h_rows, h_all⟩ := ih h_rest
        -- the rows of this user, one for each missing channel, and those of the others
        refine ⟨((channels.filter fun channel => (userId, channel) ∉ pairs).map fun channel =>
          ((userId, channel), deliveryValues notificationId userId recipientId channel
            nextAttemptAt)) ++ rows, by simp [Function.comp_def], ?_, ?_⟩
        · intro row h_row
          rcases List.mem_append.mp h_row with h_row | h_row
          · obtain ⟨channel, h_channel, rfl⟩ := List.mem_map.mp h_row
            exact ⟨List.mem_cons_self, (List.mem_filter.mp h_channel).1, recipientId, h_get, rfl⟩
          · obtain ⟨h_user, h_row⟩ := h_rows row h_row
            exact ⟨List.mem_cons_of_mem _ h_user, h_row⟩
        · intro other h_other channel h_channel
          by_cases h_pair : (other, channel) ∈ pairs
          · exact .inl h_pair
          rcases List.mem_cons.mp h_other with rfl | h_other
          · exact .inr (by simp [h_channel, h_pair])
          · rw [List.map_append, List.mem_append]
            exact (h_all other h_other channel h_channel).imp_right .inr

/-- Nothing is built if every pair is there. -/
theorem missingDeliveries_nil {notificationId : UUID} {recipientIds : List (UUID × UUID)}
    {pairs : List (UUID × Channel)} {channels : List Channel} {nextAttemptAt : Instant}
    {userIds : List UUID} {values : List (UUID → Delivery)}
    (h : missingDeliveries notificationId recipientIds pairs channels nextAttemptAt userIds =
      .ok values)
    (h_pairs : ∀ userId ∈ userIds, ∀ channel ∈ channels, (userId, channel) ∈ pairs) :
    values = [] := by
  induction userIds generalizing values with
  | nil => exact (Except.ok.inj h).symm
  | cons userId userIds ih =>
    unfold missingDeliveries at h
    split at h
    · exact absurd h (by simp)
    next recipientId _ =>
      cases h_rest : missingDeliveries notificationId recipientIds pairs channels nextAttemptAt
          userIds with
      | error e => rw [h_rest] at h; exact absurd h (by simp [bind, Except.bind])
      | ok rest =>
        rw [h_rest] at h
        obtain rfl := Except.ok.inj h
        -- every pair of this user is there
        have h_none : (channels.filter fun channel => (userId, channel) ∉ pairs) = [] := by
          refine List.filter_eq_nil_iff.mpr fun channel h_channel => ?_
          simp [h_pairs userId List.mem_cons_self channel h_channel]
        rw [h_none, ih h_rest fun other h_other => h_pairs other (List.mem_cons_of_mem _ h_other)]
        rfl

/-- Only a user without an identifier makes the loop fail. -/
theorem missingDeliveries_error {notificationId : UUID} {recipientIds : List (UUID × UUID)}
    {pairs : List (UUID × Channel)} {channels : List Channel} {nextAttemptAt : Instant}
    {userIds : List UUID} {e : PyError}
    (h : missingDeliveries notificationId recipientIds pairs channels nextAttemptAt userIds =
      .error e) :
    e = .keyError ∧ ∃ userId ∈ userIds, dictGet recipientIds userId = none := by
  induction userIds with
  | nil => exact absurd h (by simp [missingDeliveries])
  | cons userId userIds ih =>
    unfold missingDeliveries at h
    split at h
    -- the first user without a recipient decides
    next h_get => exact ⟨(Except.error.inj h).symm, userId, List.mem_cons_self, h_get⟩
    · cases h_rest : missingDeliveries notificationId recipientIds pairs channels nextAttemptAt
          userIds with
      | ok rest => rw [h_rest] at h; exact absurd h (by simp [bind, Except.bind, pure, Except.pure])
      | error e' =>
        rw [h_rest] at h
        obtain rfl := Except.error.inj h
        obtain ⟨rfl, other, h_other, h_get⟩ := ih h_rest
        exact ⟨rfl, other, List.mem_cons_of_mem _ h_other, h_get⟩

/-- The guard on the size of a fan-out. -/
def withinLimits (service : NotificationFanoutService) (userIds : List UUID)
    (channels : List Channel) : Except PyError Unit :=
  let requested := userIds.length * channels.length
  if service.maxRecipients < userIds.length ∨ service.maxDeliveries < requested then
    .error (.fanoutLimitExceeded userIds.length requested)
  else .ok ()

/-- The new values of the notification's row: the mapper writes a counter only if
its value differs from the one that was loaded. -/
def storeCounts (loaded : Notification) (recipientCount deliveryCount : ℕ) (n : Notification) :
    Notification :=
  if n.id = loaded.id then
    { n with
      recipientCount :=
        if recipientCount = loaded.recipientCount then n.recipientCount else recipientCount
      deliveryCount :=
        if deliveryCount = loaded.deliveryCount then n.deliveryCount else deliveryCount }
  else n

/-- The assignment of the counters and `uow.commit()`. -/
def commitFanout (notification : Notification) (recipientCount deliveryCount : ℕ) : Program Unit :=
  perform fun p _ w => some ((), { w.record (.fanoutCommitted p notification.id) with
    notifications := w.notifications.modify (storeCounts notification recipientCount deliveryCount)
    recipients := w.recipients.commit p
    deliveries := w.deliveries.commit p
    fanouts := w.fanouts.filter fun x => x.pid ≠ p })

/-- The body of the unit of work, for the notification it has loaded. -/
def fanout (service : NotificationFanoutService) (notification : Notification)
    (nextAttemptAt : Instant) : Program NotificationFanoutResult := do
  let audience ← compute (audienceSelection notification)
  let userIds ← resolveAudience audience
  let channels ← compute (notification.channels.mapM parseChannel)
  -- nothing has been written yet
  compute (service.withinLimits userIds channels)
  let recipientIds ← query fun p w =>
    listRecipientIdsByUser (w.recipients.visible p) notification.id
  addRecipientsIgnoreConflicts notification.id nextAttemptAt
    (userIds.filter fun userId => (dictGet recipientIds userId).isNone)
  -- the second reading sees the recipients that have just been inserted
  let recipientIds ← countRecipients notification.id
  let pairs ← attempt fun p _ w =>
    some (listDeliveryPairs (w.deliveries.visible p) notification.id, w)
  let values ← compute
    (missingDeliveries notification.id recipientIds pairs channels nextAttemptAt userIds)
  addDeliveriesIgnoreConflicts values
  let pairs ← countDeliveries notification.id
  commitFanout notification (dictLen recipientIds) pairs.length
  return ⟨notification.id, dictLen recipientIds, pairs.length, nextAttemptAt⟩

/-- `fanout_notification`. -/
def fanoutNotification (service : NotificationFanoutService) (notificationId : UUID) :
    Program NotificationFanoutResult := do
  let nextAttemptAt ← awareUtcNow
  unitOfWork do
    match ← openFanout notificationId with
    | none => throw (.valueError "notification does not exist")
    | some notification => service.fanout notification nextAttemptAt

end NotificationFanoutService

end NotificationBroker
