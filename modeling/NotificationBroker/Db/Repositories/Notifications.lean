import NotificationBroker.Db.UnitOfWork

/-!
# The notification repository

The queries of `NotificationRepository` as functions of the rows a statement
sees, the row updates, and the statements as actions on the world.

A `SELECT … FOR UPDATE SKIP LOCKED` followed by the update and the commit of the
selected rows is one action. The rows in `skipped` are those the statement left
out although they are due when the action takes effect: another transaction held
them, or they were not due yet in the statement's snapshot.
-/

namespace NotificationBroker

open Python

/-! ### Notifications -/

/-- `find_by_explicit_idempotency_key`. -/
def findByExplicitIdempotencyKey (rows : List Notification)
    (sourceService idempotencyKey : String) : Option Notification :=
  rows.find? fun n => n.sourceService = sourceService ∧ n.idempotencyKey = some idempotencyKey

/-- `find_by_fallback_hash`. -/
def findByFallbackHash (rows : List Notification) (sourceService deduplicationHash : String)
    (deduplicationWindowStart : Instant) : Option Notification :=
  rows.find? fun n => n.sourceService = sourceService ∧ n.idempotencyKey = none ∧
    n.deduplicationHash = some deduplicationHash ∧
    n.deduplicationWindowStart = some deduplicationWindowStart

/-- `get`. -/
def getNotification (rows : List Notification) (notificationId : UUID) : Option Notification :=
  rows.find? fun n => n.id = notificationId

/-! ### Recipients -/

/-- `list_recipient_ids_by_user`: the items of the dictionary, in the order in
which they are entered. -/
def listRecipientIdsByUser (rows : List Recipient) (notificationId : UUID) : List (UUID × UUID) :=
  (rows.filter fun r => r.notificationId = notificationId).map fun r => (r.userId, r.id)

/-- `items[key]`: a later item replaces an earlier one with the same key. -/
def dictGet (items : List (UUID × UUID)) (key : UUID) : Option UUID := items.reverse.lookup key

/-- `len(items)`. -/
def dictLen (items : List (UUID × UUID)) : ℕ := (items.map Prod.fst).dedup.length

theorem mem_listRecipientIdsByUser {rows : List Recipient} {notificationId userId id : UUID} :
    (userId, id) ∈ listRecipientIdsByUser rows notificationId ↔
      ∃ r ∈ rows, r.notificationId = notificationId ∧ r.userId = userId ∧ r.id = id := by
  simp [listRecipientIdsByUser, and_assoc]

/-- A lookup returns one of the items. -/
theorem mem_of_dictGet {items : List (UUID × UUID)} {key value : UUID}
    (h : dictGet items key = some value) : (key, value) ∈ items := by
  obtain ⟨l₁, l₂, h_split, -⟩ := List.lookup_eq_some_iff.mp h
  exact List.mem_reverse.mp (h_split ▸ by simp)

/-- A lookup fails if no item has the key. -/
theorem dictGet_eq_none_iff {items : List (UUID × UUID)} {key : UUID} :
    dictGet items key = none ↔ ∀ value, (key, value) ∉ items := by
  simp only [dictGet, List.lookup_eq_none_iff, List.mem_reverse, bne_iff_ne]
  exact ⟨fun h value h_mem => h (key, value) h_mem rfl,
    fun h item h_mem h_eq => h item.2 (h_eq ▸ h_mem)⟩

/-- The statement of `add_recipients_ignore_conflicts` for one of its rows: `ON
CONFLICT DO NOTHING` skips a row that is there already and waits for the
transaction that is inserting it. -/
def insertRecipient (notificationId userId : UUID) (createdAt : Instant) : Program Unit :=
  perform fun p i w =>
    match i with
    | .fresh id =>
      let row : Recipient := ⟨id, notificationId, userId, createdAt⟩
      match w.recipients.verdict Recipient.conflicts p row with
      | .duplicate => some ((), w)
      | .wait => none
      | .free =>
        if w.Fresh id then
          some ((), { w.issue p [id] with recipients := w.recipients.insert p row })
        else none
    | _ => none

/-- `add_recipients_ignore_conflicts`. -/
def addRecipientsIgnoreConflicts (notificationId : UUID) (createdAt : Instant) :
    List UUID → Program Unit
  | [] => pure ()
  | userId :: userIds => do
    insertRecipient notificationId userId createdAt
    addRecipientsIgnoreConflicts notificationId createdAt userIds

/-! ### Deliveries -/

/-- `Channel(text)`. -/
def parseChannel (text : String) : Except PyError Channel :=
  match Channel.ofValue? text with
  | some channel => .ok channel
  | none => .error (.valueError ("'" ++ text ++ "' is not a valid Channel"))

/-- `list_delivery_pairs`: the elements of the set. -/
def listDeliveryPairs (rows : List Delivery) (notificationId : UUID) :
    Except PyError (List (UUID × Channel)) :=
  ((rows.filter fun d => d.notificationId = notificationId).mapM fun d =>
    (parseChannel d.channel).map fun channel => (d.userId, channel)).map List.dedup

theorem parseChannel_ok {text : String} {channel : Channel} :
    parseChannel text = .ok channel ↔ text = channel.value := by
  unfold parseChannel
  constructor
  · intro h
    split at h
    next c h_find =>
      obtain rfl := Except.ok.inj h
      exact (Channel.value_of_ofValue? h_find).symm
    next => exact absurd h (by simp)
  · rintro rfl
    rw [Channel.ofValue?_value]

theorem parseChannel_error {text : String} {e : PyError} (h : parseChannel text = .error e) :
    ∃ message, e = .valueError message := by
  unfold parseChannel at h
  split at h
  · exact absurd h (by simp)
  · exact ⟨_, (Except.error.inj h).symm⟩

/-- What a list is read as, element by element. -/
theorem map_of_mapM_ok {α β : Type} {f : α → Except PyError β} {l : List α} {l' : List β}
    (h : l.mapM f = .ok l') : l.map f = l'.map .ok := by
  induction l generalizing l' with
  | nil =>
    obtain rfl := Except.ok.inj (h.symm.trans rfl)
    rfl
  | cons a l ih =>
    rw [List.mapM_cons] at h
    -- the loop stops at the first error
    cases h_head : f a with
    | error e => rw [h_head] at h; exact absurd h (by simp [bind, Except.bind])
    | ok b =>
      cases h_tail : l.mapM f with
      | error e => rw [h_head, h_tail] at h; exact absurd h (by simp [bind, Except.bind])
      | ok bs =>
        rw [h_head, h_tail] at h
        obtain rfl := Except.ok.inj h
        rw [List.map_cons, List.map_cons, h_head, ih h_tail]

theorem mem_of_mapM_ok {α β : Type} {f : α → Except PyError β} {l : List α} {l' : List β}
    (h : l.mapM f = .ok l') {b : β} : b ∈ l' ↔ ∃ a ∈ l, f a = .ok b := by
  have h_mem : Except.ok b ∈ l'.map (Except.ok (ε := PyError)) ↔ b ∈ l' := by simp
  rw [← h_mem, ← map_of_mapM_ok h, List.mem_map]

/-- A list fails to be read because of one of its elements. -/
theorem mapM_error {α β : Type} {f : α → Except PyError β} {l : List α} {e : PyError}
    (h : l.mapM f = .error e) : ∃ a ∈ l, f a = .error e := by
  induction l with
  | nil => exact absurd h (by simp [pure, Except.pure])
  | cons a l ih =>
    rw [List.mapM_cons] at h
    cases h_head : f a with
    | error e' =>
      rw [h_head] at h
      obtain rfl := Except.error.inj h
      exact ⟨a, List.mem_cons_self, h_head⟩
    | ok b =>
      cases h_tail : l.mapM f with
      | error e' =>
        rw [h_head, h_tail] at h
        obtain rfl := Except.error.inj h
        obtain ⟨x, hx, h_x⟩ := ih h_tail
        exact ⟨x, List.mem_cons_of_mem a hx, h_x⟩
      | ok bs =>
        rw [h_head, h_tail] at h
        exact absurd h (by simp [bind, Except.bind, pure, Except.pure])

/-- The pair a delivery's row is read as. -/
theorem readPair_ok {d : Delivery} {userId : UUID} {channel : Channel} :
    ((parseChannel d.channel).map fun channel => (d.userId, channel)) = .ok (userId, channel) ↔
      d.userId = userId ∧ d.channel = channel.value := by
  rw [← parseChannel_ok]
  cases parseChannel d.channel <;> simp [Except.map]

theorem mem_listDeliveryPairs {rows : List Delivery} {notificationId userId : UUID}
    {channel : Channel} {pairs : List (UUID × Channel)}
    (h : listDeliveryPairs rows notificationId = .ok pairs) :
    (userId, channel) ∈ pairs ↔ ∃ d ∈ rows, d.notificationId = notificationId ∧
      d.userId = userId ∧ d.channel = channel.value := by
  unfold listDeliveryPairs at h
  cases h_read : (rows.filter fun d => d.notificationId = notificationId).mapM fun d =>
      (parseChannel d.channel).map fun channel => (d.userId, channel) with
  | error e => rw [h_read] at h; exact absurd h (by simp [Except.map])
  | ok read =>
    rw [h_read] at h
    obtain rfl := Except.ok.inj h
    rw [List.mem_dedup, mem_of_mapM_ok h_read]
    simp only [List.mem_filter, decide_eq_true_eq, and_assoc, readPair_ok]

/-- The set has one element for each delivery, if these are for different users or on
different channels. -/
theorem length_listDeliveryPairs {rows : List Delivery} {notificationId : UUID}
    {pairs : List (UUID × Channel)} (h : listDeliveryPairs rows notificationId = .ok pairs)
    (h_nodup : ((rows.filter fun d => d.notificationId = notificationId).map fun d =>
      (d.userId, d.channel)).Nodup) :
    pairs.length = (rows.filter fun d => d.notificationId = notificationId).length := by
  unfold listDeliveryPairs at h
  cases h_read : (rows.filter fun d => d.notificationId = notificationId).mapM fun d =>
      (parseChannel d.channel).map fun channel => (d.userId, channel) with
  | error e => rw [h_read] at h; exact absurd h (by simp [Except.map])
  | ok read =>
    rw [h_read] at h
    obtain rfl := Except.ok.inj h
    have h_map := map_of_mapM_ok h_read
    -- the pairs that are read show the columns they are read from
    have h_columns : ((rows.filter fun d => d.notificationId = notificationId).map fun d =>
        (d.userId, d.channel)) = read.map fun pair => (pair.1, pair.2.value) := by
      have h_get := congrArg (List.map fun r : Except PyError (UUID × Channel) =>
        match r with
        | .ok pair => (pair.1, pair.2.value)
        | .error _ => (0, "")) h_map
      rw [List.map_map, List.map_map] at h_get
      refine (List.map_congr_left fun d hd => ?_).trans h_get
      have h_mem : (parseChannel d.channel).map (fun channel => (d.userId, channel)) ∈
          read.map Except.ok := h_map ▸ List.mem_map_of_mem hd
      obtain ⟨⟨userId, channel⟩, -, h_pair⟩ := List.mem_map.mp h_mem
      obtain ⟨h_user, h_channel⟩ := readPair_ok.mp h_pair.symm
      rw [Function.comp_apply, ← h_pair, h_user, h_channel]
    rw [h_columns] at h_nodup
    rw [List.dedup_eq_self.mpr h_nodup.of_map]
    simpa using (congrArg List.length h_map).symm

theorem listDeliveryPairs_error {rows : List Delivery} {notificationId : UUID} {e : PyError}
    (h : listDeliveryPairs rows notificationId = .error e) :
    ∃ message, e = .valueError message := by
  unfold listDeliveryPairs at h
  cases h_read : (rows.filter fun d => d.notificationId = notificationId).mapM fun d =>
      (parseChannel d.channel).map fun channel => (d.userId, channel) with
  | ok read => rw [h_read] at h; exact absurd h (by simp [Except.map])
  | error e' =>
    rw [h_read] at h
    obtain rfl := Except.error.inj h
    obtain ⟨d, -, h_d⟩ := mapM_error h_read
    cases h_channel : parseChannel d.channel with
    | ok channel => rw [h_channel] at h_d; exact absurd h_d (by simp [Except.map])
    | error e'' =>
      rw [h_channel] at h_d
      obtain rfl := Except.error.inj h_d
      exact parseChannel_error h_channel

/-- The statement of `add_deliveries_ignore_conflicts` for one of its rows. -/
def insertDelivery (values : UUID → Delivery) : Program Unit :=
  perform fun p i w =>
    match i with
    | .fresh id =>
      match w.deliveries.verdict Delivery.conflicts p (values id) with
      | .duplicate => some ((), w)
      | .wait => none
      | .free =>
        if w.Fresh id then
          some ((), { w.issue p [id] with deliveries := w.deliveries.insert p (values id) })
        else none
    | _ => none

/-- `add_deliveries_ignore_conflicts`. -/
def addDeliveriesIgnoreConflicts : List (UUID → Delivery) → Program Unit
  | [] => pure ()
  | values :: rest => do
    insertDelivery values
    addDeliveriesIgnoreConflicts rest

/-! ### Claims -/

namespace Delivery

/-- `ready_to_process`. -/
def readyToProcess (d : Delivery) (now : Instant) : Bool :=
  (decide (d.status = .pending) || decide (d.status = .replayRequested) ||
    decide (d.status = .failedRetryable)) && decide (d.nextAttemptAt ≤ now)

/-- `expired_processing_lease`. -/
def expiredProcessingLease (d : Delivery) (now : Instant) : Bool :=
  decide (d.status = .processing) &&
    match d.leaseExpiresAt with
    | some lease => decide (lease < now)
    | none => false

/-- The predicates of the claim statement. -/
def due (d : Delivery) (now : Instant) (channels : Option (List Channel)) : Bool :=
  (d.readyToProcess now || d.expiredProcessingLease now) &&
    match channels with
    | some admitted => admitted.any fun channel => channel.value = d.channel
    | none => true

/-- `ORDER BY next_attempt_at, id`. -/
def before (a b : Delivery) : Prop :=
  a.nextAttemptAt < b.nextAttemptAt ∨ (a.nextAttemptAt = b.nextAttemptAt ∧ a.id ≤ b.id)

instance : DecidableRel before := fun a b => by unfold before; infer_instance

/-- What `claim_due_deliveries` writes to a row it has selected. -/
def claim (d : Delivery) (now leaseExpiresAt : Instant) (workerId : String) (token : UUID) :
    Delivery :=
  { d with
    status := .processing
    processingStartedAt := some now
    leaseExpiresAt := some leaseExpiresAt
    claimedBy := some workerId
    claimToken := some token
    updatedAt := now }

/-- The `WHERE` clause of the claimed row: still in processing under this claim. -/
def heldBy (d : Delivery) (claim : ClaimedDelivery) : Bool :=
  decide (d.id = claim.deliveryId) && decide (d.status = .processing) &&
    decide (d.claimToken = some claim.claimToken)

/-- The new value of a row under a list of claims. -/
def applyClaims (claims : List ClaimedDelivery) (now leaseExpiresAt : Instant) (workerId : String)
    (d : Delivery) : Delivery :=
  match claims.find? fun c => c.deliveryId = d.id with
  | some c => d.claim now leaseExpiresAt workerId c.claimToken
  | none => d

end Delivery

/-- The rows `claim_due_deliveries` selects. -/
def dueDeliveries (rows : List Delivery) (now : Instant) (limit : ℕ)
    (channels : Option (List Channel)) (skipped : List UUID) : List Delivery :=
  ((rows.filter fun d => d.due now channels ∧ d.id ∉ skipped).insertionSort Delivery.before).take
    limit

/-- `claim_due_deliveries` and the commit that follows it. -/
def claimDueDeliveries (now : Instant) (limit : ℤ) (workerId : String) (leaseExpiresAt : Instant)
    (channels : Option (List Channel)) : Program (List ClaimedDelivery) :=
  if limit ≤ 0 then pure []
  else perform fun p i w =>
    match i with
    | .claim skipped tokens =>
      let selected := dueDeliveries w.deliveries.committed now limit.toNat channels skipped
      let claims := List.zipWith (fun d token => ⟨d.id, token⟩) selected tokens
      -- `uuid4()` for every row
      if w.AllFresh tokens ∧ tokens.length = selected.length then
        some (claims, { (w.issue p tokens).record (.deliveriesClaimed p now channels) with
          deliveries := w.deliveries.modify
            (Delivery.applyClaims claims now leaseExpiresAt workerId) })
      else none
    | _ => none

/-- The statement of `get_claimed_delivery_context` and of
`get_claimed_delivery_for_update`. -/
def getClaimedDelivery (rows : List Delivery) (claim : ClaimedDelivery) : Option Delivery :=
  rows.find? fun d => d.heldBy claim

/-! ### Retries -/

/-- `list_failed_retryable_deliveries`. -/
def listFailedRetryableDeliveries (rows : List Delivery) (notificationId : UUID) : List Delivery :=
  (rows.filter fun d =>
    d.notificationId = notificationId ∧ d.status = .failedRetryable).insertionSort
      fun a b => a.id ≤ b.id

/-- `list_user_retryable_sibling_deliveries`. -/
def listUserRetryableSiblingDeliveries (rows : List Delivery) (webDelivery : Delivery) :
    List Delivery :=
  (rows.filter fun d =>
    d.notificationRecipientId = webDelivery.notificationRecipientId ∧
      d.notificationId = webDelivery.notificationId ∧ d.userId = webDelivery.userId ∧
      d.channel ≠ Channel.web.value ∧ d.status = .failedRetryable).insertionSort
        fun a b => a.id ≤ b.id

/-- What `mark_deliveries_replay_requested` sets. -/
def Delivery.requestReplay (d : Delivery) (replayId : UUID) (requestedAt : Instant) : Delivery :=
  { d with
    status := .replayRequested
    replayId := some replayId
    nextAttemptAt := requestedAt
    processingStartedAt := none
    leaseExpiresAt := none
    claimedBy := none
    updatedAt := requestedAt
    claimToken := none }

/-- Whether the `UPDATE` of `mark_deliveries_replay_requested` takes a row. -/
def Delivery.replayable (deliveryIds skipped : List UUID) (d : Delivery) : Bool :=
  decide (d.id ∈ deliveryIds) && decide (d.id ∉ skipped) && decide (d.status = .failedRetryable)

/-- `mark_deliveries_replay_requested`: the identifiers it returns and its effect
on the table. -/
def markDeliveriesReplayRequested (rows : List Delivery) (deliveryIds skipped : List UUID) :
    List UUID :=
  (rows.filter (Delivery.replayable deliveryIds skipped)).map Delivery.id

/-! ### Web notifications -/

/-- `get_visible_web_delivery_for_user`. -/
def getVisibleWebDeliveryForUser (rows : List Delivery) (deliveryId userId : UUID) :
    Option Delivery :=
  rows.find? fun d => d.id = deliveryId ∧ d.userId = userId ∧ d.channel = Channel.web.value ∧
    d.status = .delivered ∧ d.deliveredAt.isSome

/-- What `mark_visible_web_notification_read` sets. -/
def Delivery.markRead (d : Delivery) (readAt : Instant) : Delivery :=
  { d with readAt := some readAt, updatedAt := readAt }

/-- The flush of the read mark: an update by primary key. -/
def writeReadAt (deliveryId : UUID) (readAt : Instant) : Program Unit :=
  perform fun p _ w => some ((), { w.record (.readMarked p deliveryId) with
    deliveries := w.deliveries.modify fun d => if d.id = deliveryId then d.markRead readAt else d })

end NotificationBroker
