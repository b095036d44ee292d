import NotificationBroker.System.Conformance.Rules

/-!
# The fan-out conforms

The transaction of a fan-out, statement by statement. `Covered` and `Filled` say
which recipients and deliveries it sees so far: rows a statement has seen stay
visible to the transaction, so that both only grow while it runs, and the loops
of insertions cover one more user, or one more user and channel, in every turn.
Before the deliveries are built every resolved user is covered, so that the
lookup of a recipient's identifier does not fail.
-/

namespace NotificationBroker

open Interleave Python
open ReadCommitted (Table)
open NotificationFanoutService

variable {d : Deployment} {p : Pid} {w : World} {notificationId : UUID}

/-! ### What a transaction sees -/

/-- The transaction of `p` sees a recipient row of every user in `users`. -/
def Covered (p : Pid) (notificationId : UUID) (users : Set UUID) (t : Table Pid Recipient) :
    Prop :=
  ∀ userId ∈ users, ∃ r ∈ t.visible p, r.notificationId = notificationId ∧ r.userId = userId

/-- The transaction of `p` sees a delivery row of every pair in `pairs`. -/
def Filled (p : Pid) (notificationId : UUID) (pairs : Set (UUID × Channel))
    (t : Table Pid Delivery) : Prop :=
  ∀ pair ∈ pairs, ∃ r ∈ t.visible p,
    r.notificationId = notificationId ∧ r.userId = pair.1 ∧ r.channel = pair.2.value

theorem visible_insert_self {Row : Type} {t : Table Pid Row} {r : Row} :
    (t.insert p r).visible p = t.visible p ++ [r] := by
  rw [Table.visible, Table.own_insert_self, Table.committed_insert, ← List.append_assoc]
  rfl

namespace Covered

variable {users users' : Set UUID} {t : Table Pid Recipient}

theorem mono (h : Covered p notificationId users t) (h_sub : users' ⊆ users) :
    Covered p notificationId users' t := fun userId h_user => h userId (h_sub h_user)

/-- A row that is seen covers its user. -/
theorem add (h : Covered p notificationId users t) {r : Recipient} (hr : r ∈ t.visible p)
    (h_row : r.notificationId = notificationId) :
    Covered p notificationId (insert r.userId users) t := by
  rintro userId (rfl | h_user)
  · exact ⟨r, hr, h_row, rfl⟩
  · exact h userId h_user

theorem insertRow (h : Covered p notificationId users t) (row : Recipient) :
    Covered p notificationId users (t.insert p row) := by
  intro userId h_user
  obtain ⟨r, hr, h_row⟩ := h userId h_user
  exact ⟨r, visible_insert_self ▸ List.mem_append_left _ hr, h_row⟩

end Covered

namespace Filled

variable {pairs pairs' : Set (UUID × Channel)} {t : Table Pid Delivery}

theorem mono (h : Filled p notificationId pairs t) (h_sub : pairs' ⊆ pairs) :
    Filled p notificationId pairs' t := fun pair h_pair => h pair (h_sub h_pair)

theorem add (h : Filled p notificationId pairs t) {r : Delivery} (hr : r ∈ t.visible p)
    {channel : Channel} (h_row : r.notificationId = notificationId)
    (h_channel : r.channel = channel.value) :
    Filled p notificationId (insert (r.userId, channel) pairs) t := by
  rintro pair (rfl | h_pair)
  · exact ⟨r, hr, h_row, rfl, h_channel⟩
  · exact h pair h_pair

theorem insertRow (h : Filled p notificationId pairs t) (row : Delivery) :
    Filled p notificationId pairs (t.insert p row) := by
  intro pair h_pair
  obtain ⟨r, hr, h_row⟩ := h pair h_pair
  exact ⟨r, visible_insert_self ▸ List.mem_append_left _ hr, h_row⟩

end Filled

theorem Relies.covered {w' : World} {users : Set UUID} (hR : Relies p w w')
    (h : Covered p notificationId users w.recipients) :
    Covered p notificationId users w'.recipients := by
  intro userId h_user
  obtain ⟨r, hr, h_row⟩ := h userId h_user
  exact ⟨r, hR.visible_recipients hr, h_row⟩

theorem Relies.filled {w' : World} {pairs : Set (UUID × Channel)} (hR : Relies p w w')
    (h : Filled p notificationId pairs w.deliveries) :
    Filled p notificationId pairs w'.deliveries := by
  intro pair h_pair
  obtain ⟨r, hr, h_notification, h_user, h_channel⟩ := h pair h_pair
  obtain ⟨r', hr', h_key⟩ := hR.visible_deliveries hr
  simp only [Delivery.key, Prod.mk.injEq] at h_key
  exact ⟨r', hr', h_key.2.2.1.trans h_notification, h_key.2.2.2.1.trans h_user,
    h_key.2.2.2.2.trans h_channel⟩

/-! ### The fan-out's own entry -/

/-- `p` has one fan-out open, `x`. -/
def OpenAs (p : Pid) (x : Fanout) (w : World) : Prop := w.fanoutsOf p = [x]

theorem openAs_stable (x : Fanout) : Stable p (OpenAs p x) :=
  fun _ _ hR _ h => hR.fanouts.trans h

theorem OpenAs.note {x : Fanout} (h : OpenAs p x w) (f : Fanout → Fanout)
    (hf : ∀ x, (f x).pid = x.pid) : OpenAs p (f x) (note p f w) := by
  have h_map : (NotificationFanoutService.note p f w).fanoutsOf p = (w.fanoutsOf p).map f := by
    unfold World.fanoutsOf NotificationFanoutService.note
    induction w.fanouts with
    | nil => rfl
    | cons y l ih => by_cases h_pid : y.pid = p <;> simp_all
  unfold OpenAs at h ⊢
  rw [h_map, h, List.map_singleton]

/-! ### Recipients -/

/-- By induction on the users: each turn covers one more. -/
theorem addRecipients_meets {x : Fanout} {userIds : List UUID} (h_users : x.userIds = some userIds)
    (h_uncounted : x.recipientCount = none ∧ x.deliveryCount = none) (createdAt : Instant)
    (ids : List UUID) (h_ids : ∀ id ∈ ids, id ∈ userIds) {users : Set UUID}
    (h_open : OpenAs p x w) (h_covered : Covered p x.notification.id users w.recipients) :
    Meets d p (addRecipientsIgnoreConflicts x.notification.id createdAt ids)
      (fun r w => r = .ok () ∧ Running p w ∧ OpenAs p x w ∧
        Covered p x.notification.id (users ∪ { id | id ∈ ids }) w.recipients) w := by
  induction ids generalizing w users with
  | nil =>
    refine .pure fun w' hR hS' hK => ⟨rfl, hK, openAs_stable x w w' hR hS' h_open, ?_⟩
    exact (hR.covered h_covered).mono (by simp)
  | cons userId ids ih =>
    refine Meets.perform fun w₁ hR₁ hS₁ i _ w₂ hf => ?_
    -- nobody else writes the fan-out of `p`, and what is covered stays covered
    have h_open₁ := openAs_stable x w w₁ hR₁ hS₁ h_open
    have h_covered₁ := hR₁.covered h_covered
    have h_rest : ∀ {w' : World}, OpenAs p x w' →
        Covered p x.notification.id (insert userId users) w'.recipients →
        Meets d p (addRecipientsIgnoreConflicts x.notification.id createdAt ids)
          (fun r w => r = .ok () ∧ Running p w ∧ OpenAs p x w ∧
            Covered p x.notification.id (users ∪ { id | id ∈ userId :: ids }) w.recipients) w' :=
      fun h_open' h_covered' => (ih (fun id h_mem => h_ids id (List.mem_cons_of_mem _ h_mem))
        h_open' h_covered').mono fun r w'' _ ⟨hr, hK, h_open'', h_covered''⟩ =>
          ⟨hr, hK, h_open'', h_covered''.mono fun id h_id => by
            simp only [Set.mem_union, Set.mem_ofPred_eq, List.mem_cons,
              Set.mem_insert_iff] at h_id ⊢
            tauto⟩
    cases i with
    | fresh id =>
      dsimp only at hf
      split at hf
      next h_duplicate =>
        simp only [Option.some.injEq, Prod.mk.injEq] at hf
        obtain ⟨-, rfl⟩ := hf
        -- the recipient is there already, committed or pending
        obtain ⟨r, hr, h_conflict⟩ := Table.verdict_duplicate h_duplicate
        obtain ⟨h_notification, h_user⟩ := Recipient.conflicts_iff.mp h_conflict
        refine ⟨.nothing, fun _ => h_rest h_open₁ ?_⟩
        have h_added := h_covered₁.add hr h_notification.symm
        rwa [← h_user] at h_added
      next => exact absurd hf (by simp)
      next h_free =>
        simp only [Option.ite_none_right_eq_some, Option.some.injEq, Prod.mk.injEq] at hf
        obtain ⟨h_fresh, -, rfl⟩ := hf
        refine ⟨.insertRecipient x userIds ⟨id, x.notification.id, userId, createdAt⟩ h_open₁
          h_users h_uncounted rfl (h_ids userId List.mem_cons_self) h_fresh h_free,
          fun _ => h_rest h_open₁ ?_⟩
        -- it is there from now on
        refine (h_covered₁.insertRow _).add (r := ⟨id, x.notification.id, userId, createdAt⟩) ?_ rfl
        rw [visible_insert_self]
        exact List.mem_append_right _ (List.mem_singleton_self _)
    | _ => exact absurd hf (by simp)

/-! ### Deliveries -/

/-- `values` makes the rows of a delivery on `channel` to a recipient of `userId`
that the transaction of `p` sees. -/
def RowsFor (p : Pid) (notificationId : UUID) (nextAttemptAt : Instant) (userId : UUID)
    (channel : Channel) (values : UUID → Delivery) (w : World) : Prop :=
  ∃ r ∈ w.recipients.visible p, r.notificationId = notificationId ∧ r.userId = userId ∧
    values = deliveryValues notificationId userId r.id channel nextAttemptAt

theorem rowsFor_stable {nextAttemptAt : Instant} {userId : UUID} {channel : Channel}
    {values : UUID → Delivery} :
    Stable p (RowsFor p notificationId nextAttemptAt userId channel values) := by
  rintro w w' hR _ ⟨r, hr, h_row⟩
  exact ⟨r, hR.visible_recipients hr, h_row⟩

/-- By induction on the rows: each turn fills one more pair. -/
theorem addDeliveries_meets {x : Fanout} {userIds : List UUID} {channels : List Channel}
    {nextAttemptAt : Instant} (h_users : x.userIds = some userIds)
    (h_channels : x.notification.channels.mapM parseChannel = .ok channels)
    (h_uncounted : x.deliveryCount = none) (rows : List ((UUID × Channel) × (UUID → Delivery)))
    (h_mem : ∀ row ∈ rows, row.1.1 ∈ userIds ∧ row.1.2 ∈ channels)
    {pairs : Set (UUID × Channel)} {users : Set UUID} (h_open : OpenAs p x w)
    (h_rows : ∀ row ∈ rows,
      RowsFor p x.notification.id nextAttemptAt row.1.1 row.1.2 row.2 w)
    (h_covered : Covered p x.notification.id users w.recipients)
    (h_filled : Filled p x.notification.id pairs w.deliveries) :
    Meets d p (addDeliveriesIgnoreConflicts (rows.map Prod.snd))
      (fun r w => r = .ok () ∧ Running p w ∧ OpenAs p x w ∧
        Covered p x.notification.id users w.recipients ∧
        Filled p x.notification.id (pairs ∪ { pair | pair ∈ rows.map Prod.fst }) w.deliveries)
      w := by
  induction rows generalizing w pairs with
  | nil =>
    refine .pure fun w' hR hS' hK => ⟨rfl, hK, openAs_stable x w w' hR hS' h_open,
      hR.covered h_covered, ?_⟩
    exact (hR.filled h_filled).mono (by simp)
  | cons row rows ih =>
    obtain ⟨⟨userId, channel⟩, values⟩ := row
    refine Meets.perform fun w₁ hR₁ hS₁ i _ w₂ hf => ?_
    have h_open₁ := openAs_stable x w w₁ hR₁ hS₁ h_open
    have h_filled₁ := hR₁.filled h_filled
    have h_row : RowsFor p x.notification.id nextAttemptAt userId channel values w₁ :=
      rowsFor_stable w w₁ hR₁ hS₁ (h_rows _ List.mem_cons_self)
    obtain ⟨recipient, h_recipient, h_notification, h_user, rfl⟩ := h_row
    have h_rest : ∀ {w' : World}, OpenAs p x w' → w'.recipients = w₁.recipients →
        Filled p x.notification.id (insert (userId, channel) pairs) w'.deliveries →
        Meets d p (addDeliveriesIgnoreConflicts (rows.map Prod.snd))
          (fun r w => r = .ok () ∧ Running p w ∧ OpenAs p x w ∧
            Covered p x.notification.id users w.recipients ∧
            Filled p x.notification.id (pairs ∪ { pair | pair ∈ (((userId, channel),
              deliveryValues x.notification.id userId recipient.id channel nextAttemptAt) ::
                rows).map Prod.fst }) w.deliveries) w' := by
      intro w' h_open' h_same h_filled'
      refine (ih (fun row h_row => h_mem row (List.mem_cons_of_mem _ h_row)) h_open'
        (fun row h_row => ?_) ?_ h_filled').mono fun r w'' _ ⟨hr, hK, h_open'', h_covered'',
          h_filled''⟩ => ⟨hr, hK, h_open'', h_covered'', h_filled''.mono fun pair h_pair => ?_⟩
      · obtain ⟨r, hr, h_r⟩ :=
          rowsFor_stable w w₁ hR₁ hS₁ (h_rows row (List.mem_cons_of_mem _ h_row))
        exact ⟨r, h_same ▸ hr, h_r⟩
      · rw [h_same]
        exact hR₁.covered h_covered
      · simp only [Set.mem_union, Set.mem_ofPred_eq, List.map_cons, List.mem_cons,
          Set.mem_insert_iff] at h_pair ⊢
        tauto
    cases i with
    | fresh id =>
      dsimp only at hf
      split at hf
      next h_duplicate =>
        simp only [Option.some.injEq, Prod.mk.injEq] at hf
        obtain ⟨-, rfl⟩ := hf
        obtain ⟨r, hr, h_conflict⟩ := Table.verdict_duplicate h_duplicate
        obtain ⟨h_key, h_channel⟩ := Delivery.conflicts_iff.mp h_conflict
        -- the row in the way belongs to the same recipient, and so to the same user
        obtain ⟨recipient', h_recipient', h_belongs⟩ := hS₁.grounded.visible hr
        obtain rfl : recipient' = recipient := hS₁.recipient_eq
          (Table.mem_rows_of_visible h_recipient') (Table.mem_rows_of_visible h_recipient)
          (h_belongs.recipient.trans h_key.symm)
        refine ⟨.nothing, fun _ => h_rest h_open₁ rfl ?_⟩
        have h_key₁ : r.channel = channel.value := h_channel.symm
        have h_added :=
          h_filled₁.add hr (h_belongs.notification.symm.trans h_notification) h_key₁
        rwa [← h_belongs.user, h_user] at h_added
      next => exact absurd hf (by simp)
      next h_free =>
        simp only [Option.ite_none_right_eq_some, Option.some.injEq, Prod.mk.injEq] at hf
        obtain ⟨h_fresh, -, rfl⟩ := hf
        obtain ⟨h_in_users, h_in_channels⟩ := h_mem _ List.mem_cons_self
        refine ⟨.insertDelivery x userIds channels recipient channel nextAttemptAt _ h_open₁ h_users
          h_channels h_uncounted h_recipient h_notification (h_user ▸ h_in_users) h_in_channels
          (by rw [h_notification, h_user]; rfl) h_fresh h_free, fun _ => h_rest h_open₁ rfl ?_⟩
        refine (h_filled₁.insertRow _).add (r := deliveryValues x.notification.id userId
          recipient.id channel nextAttemptAt id) ?_ rfl rfl
        rw [visible_insert_self]
        exact List.mem_append_right _ (List.mem_singleton_self _)
    | _ => exact absurd hf (by simp)

/-! ### The transaction -/

/-- How a consumer's call ends: nothing it may not commit, and no failed lookup. -/
def ConsumePost {α : Type} (p : Pid) (r : Except PyError α) (w : World) : Prop :=
  Running p w ∧ r ≠ .error .keyError

theorem consumePost_stable {α : Type} (r : Except PyError α) : Stable p (ConsumePost p r) :=
  fun _ _ hR _ h => ⟨hR.running h.1, h.2⟩

/-- An exception that is not a `KeyError` ends the call. -/
theorem throw_meets {α : Type} {e : PyError} (h : e ≠ .keyError) :
    Meets d p (throw e : Program α) (ConsumePost p) w :=
  .throw fun _ _ _ hK => ⟨hK, fun h_eq => h (Except.error.inj h_eq)⟩

theorem throwValueError_meets {α : Type} {e : PyError} (h : ∃ message, e = .valueError message) :
    Meets d p (throw e : Program α) (ConsumePost p) w := by
  obtain ⟨message, rfl⟩ := h
  exact throw_meets (by simp)

/-- The last part of the transaction: count the deliveries, store the counts and
commit. -/
theorem countAndCommit_meets {x : Fanout} {service : NotificationFanoutService}
    {consumerName : String} {message : NotificationKafkaMessage} {userIds : List UUID}
    {channels : List Channel} {recipientCount : ℕ} (nextAttemptAt : Instant)
    (h_call : d.calls p = .consume service consumerName message)
    (h_users : x.userIds = some userIds)
    (h_counts : x.recipientCount = some recipientCount ∧ x.deliveryCount = none)
    (h_channels : x.notification.channels.mapM parseChannel = .ok channels)
    (h_limits : service.withinLimits userIds channels = .ok ())
    (h_open : OpenAs p x w)
    (h_covered : Covered p x.notification.id { id | id ∈ userIds } w.recipients)
    (h_filled : Filled p x.notification.id
      { pair | pair.1 ∈ userIds ∧ pair.2 ∈ channels } w.deliveries) :
    Meets d p (do
      let pairs ← countDeliveries x.notification.id
      commitFanout x.notification recipientCount pairs.length
      return (⟨x.notification.id, recipientCount, pairs.length, nextAttemptAt⟩ :
        NotificationFanoutResult)) (ConsumePost p) w := by
  refine Meets.attempt fun w₁ hR₁ hS₁ i r w₂ hf => ?_
  have h_open₁ := openAs_stable x w w₁ hR₁ hS₁ h_open
  split at hf
  next pairs h_pairs =>
    simp only [Option.some.injEq, Prod.mk.injEq] at hf
    obtain ⟨rfl, rfl⟩ := hf
    refine ⟨.countDeliveries x pairs h_open₁ h_counts.2 h_pairs, fun _ => ?_⟩
    have h_open₂ := h_open₁.note (fun y => { y with deliveryCount := some pairs.length })
      fun _ => rfl
    refine Meets.perform fun w₃ hR₃ hS₃ i _ w₄ hf => ?_
    simp only [Option.some.injEq, Prod.mk.injEq] at hf
    obtain ⟨-, rfl⟩ := hf
    -- between the count and the commit other calls may run
    have h_covered₃ := hR₃.covered (hR₁.covered h_covered)
    have h_filled₃ := hR₃.filled (hR₁.filled h_filled)
    exact ⟨.commitFanout { x with deliveryCount := some pairs.length } service userIds channels
      recipientCount pairs.length ⟨consumerName, message, h_call⟩
      (openAs_stable _ _ w₃ hR₃ hS₃ h_open₂) h_users ⟨h_counts.1, rfl⟩ h_channels h_limits
      h_covered₃ fun userId h_user channel h_channel =>
        h_filled₃ (userId, channel) ⟨h_user, h_channel⟩,
      fun _ => .pure fun _ _ _ hK => ⟨hK, by simp⟩⟩
  next e h_error =>
    simp only [Option.some.injEq, Prod.mk.injEq] at hf
    obtain ⟨rfl, rfl⟩ := hf
    -- a channel that is not known raises `ValueError`
    refine ⟨.nothing, fun _ => throwValueError_meets ?_⟩
    exact listDeliveryPairs_error h_error

/-- The part before it: build the missing deliveries from the identifiers read
back, which cover every resolved user, and insert them. -/
theorem fillAndCommit_meets (x : Fanout) {service : NotificationFanoutService}
    {consumerName : String} {message : NotificationKafkaMessage} {userIds : List UUID}
    {channels : List Channel} {recipientCount : ℕ} (items : List (UUID × UUID))
    (pairs : List (UUID × Channel)) (nextAttemptAt : Instant)
    (h_call : d.calls p = .consume service consumerName message)
    (h_users : x.userIds = some userIds)
    (h_counts : x.recipientCount = some recipientCount ∧ x.deliveryCount = none)
    (h_channels : x.notification.channels.mapM parseChannel = .ok channels)
    (h_limits : service.withinLimits userIds channels = .ok ()) (hS : Sound w)
    (h_open : OpenAs p x w)
    (h_items : ∀ item ∈ items, ∃ r ∈ w.recipients.visible p,
      r.notificationId = x.notification.id ∧ r.userId = item.1 ∧ r.id = item.2)
    (h_all : ∀ userId ∈ userIds, ∃ id, (userId, id) ∈ items)
    (h_pairs : Filled p x.notification.id { pair | pair ∈ pairs } w.deliveries) :
    Meets d p (do
      let values ← compute
        (missingDeliveries x.notification.id items pairs channels nextAttemptAt userIds)
      addDeliveriesIgnoreConflicts values
      let pairs ← countDeliveries x.notification.id
      commitFanout x.notification recipientCount pairs.length
      return (⟨x.notification.id, recipientCount, pairs.length, nextAttemptAt⟩ :
        NotificationFanoutResult)) (ConsumePost p) w := by
  have h_covered : Covered p x.notification.id { id | id ∈ userIds } w.recipients := by
    intro userId h_user
    obtain ⟨id, h_item⟩ := h_all userId h_user
    obtain ⟨r, hr, h_notification, h_r, -⟩ := h_items _ h_item
    exact ⟨r, hr, h_notification, h_r⟩
  refine Meets.compute (fun values h_values => ?_) fun e h_error => ?_
  · obtain ⟨rows, rfl, h_rows, h_missing⟩ := missingDeliveries_ok h_values
    -- every value is of a recipient that `p` sees
    have h_rowsFor : ∀ row ∈ rows,
        RowsFor p x.notification.id nextAttemptAt row.1.1 row.1.2 row.2 w := by
      intro row h_row
      obtain ⟨-, -, id, h_get, h_values⟩ := h_rows row h_row
      obtain ⟨r, hr, h_notification, h_user, rfl⟩ := h_items _ (mem_of_dictGet h_get)
      exact ⟨r, hr, h_notification, h_user, h_values⟩
    refine Meets.bind hS ((addDeliveries_meets h_users h_channels h_counts.2 rows
      (fun row h_row => ⟨(h_rows row h_row).1, (h_rows row h_row).2.1⟩) h_open h_rowsFor h_covered
      h_pairs).mono fun r w' _ ⟨hr, hK, h_open', h_covered', h_filled'⟩ => ?_)
    subst hr
    refine ⟨hK, countAndCommit_meets nextAttemptAt h_call h_users h_counts h_channels h_limits
      h_open' h_covered' (h_filled'.mono ?_)⟩
    rintro ⟨userId, channel⟩ ⟨h_user, h_channel⟩
    exact h_missing userId h_user channel h_channel
  · -- no `KeyError` is raised: every user has a recipient
    obtain ⟨-, userId, h_user, h_none⟩ := missingDeliveries_error h_error
    obtain ⟨id, h_item⟩ := h_all userId h_user
    exact absurd h_item (dictGet_eq_none_iff.mp h_none id)

/-- The body of the unit of work. -/
theorem fanout_meets {service : NotificationFanoutService} {consumerName : String}
    {message : NotificationKafkaMessage} {notification : Notification} {nextAttemptAt : Instant}
    (h_call : d.calls p = .consume service consumerName message)
    (h_open : OpenAs p ⟨p, notification, none, none, none⟩ w) :
    Meets d p (service.fanout notification nextAttemptAt) (ConsumePost p) w := by
  refine Meets.compute (fun audience h_audience => ?_) fun e h_error =>
    throwValueError_meets (audienceSelection_error h_error)
  refine Meets.attempt fun w₁ hR₁ hS₁ i r w₂ hf => ?_
  have h_open₁ := openAs_stable _ w w₁ hR₁ hS₁ h_open
  split at hf
  next userIds h_resolved =>
    simp only [Option.some.injEq, Prod.mk.injEq] at hf
    obtain ⟨rfl, rfl⟩ := hf
    refine ⟨.resolveAudience _ userIds audience h_open₁ ⟨rfl, rfl, rfl⟩ h_audience h_resolved,
      fun _ => ?_⟩
    have h_open₂ := h_open₁.note (fun x => { x with userIds := some userIds }) fun _ => rfl
    refine Meets.compute (fun channels h_channels => ?_) fun e h_error => ?_
    · refine Meets.compute (fun _ h_limits => ?_) fun e h_error => ?_
      · refine Meets.query fun w₃ hR₃ hS₃ => ?_
        have h_open₃ := openAs_stable _ _ w₃ hR₃ hS₃ h_open₂
        -- the users that have a row already, and after the loop all of them
        have h_known : Covered p notification.id { id | (dictGet (listRecipientIdsByUser
            (w₃.recipients.visible p) notification.id) id).isSome } w₃.recipients := by
          intro userId h_some
          obtain ⟨id, h_get⟩ := Option.isSome_iff_exists.mp h_some
          obtain ⟨r, hr, h_notification, h_user, -⟩ :=
            mem_listRecipientIdsByUser.mp (mem_of_dictGet h_get)
          exact ⟨r, hr, h_notification, h_user⟩
        refine Meets.bind hS₃ ((addRecipients_meets rfl ⟨rfl, rfl⟩ nextAttemptAt _
          (fun id h_id => (List.mem_filter.mp h_id).1) h_open₃ h_known).mono
            fun r w₄ hS₄ h₄ => ?_)
        obtain ⟨rfl, hK₄, h_open₄, h_covered₄⟩ := h₄
        refine ⟨hK₄, ?_⟩
        replace h_covered₄ : Covered p notification.id { id | id ∈ userIds } w₄.recipients :=
          h_covered₄.mono fun userId h_user => by
            by_cases h_some : (dictGet (listRecipientIdsByUser (w₃.recipients.visible p)
              notification.id) userId).isSome
            · exact .inl h_some
            · exact .inr (List.mem_filter.mpr ⟨h_user, by simpa using h_some⟩)
        refine Meets.perform fun w₅ hR₅ hS₅ i items w₆ hf => ?_
        simp only [Option.some.injEq, Prod.mk.injEq] at hf
        obtain ⟨rfl, rfl⟩ := hf
        have h_open₅ := openAs_stable _ _ w₅ hR₅ hS₅ h_open₄
        have h_covered₅ := hR₅.covered h_covered₄
        refine ⟨.countRecipients _ h_open₅ ⟨rfl, rfl⟩, fun _ => ?_⟩
        have h_open₆ := h_open₅.note (fun y => { y with recipientCount := some (dictLen
          (listRecipientIdsByUser (w₅.recipients.visible p) notification.id)) }) fun _ => rfl
        refine Meets.attempt fun w₇ hR₇ hS₇ i r w₈ hf => ?_
        simp only [Option.some.injEq, Prod.mk.injEq] at hf
        obtain ⟨rfl, rfl⟩ := hf
        have h_open₇ := openAs_stable _ _ w₇ hR₇ hS₇ h_open₆
        refine ⟨.nothing, fun _ => ?_⟩
        split
        next pairs h_pairs =>
          refine fillAndCommit_meets ⟨p, notification, some userIds, some (dictLen
            (listRecipientIdsByUser (w₅.recipients.visible p) notification.id)), none⟩
            (listRecipientIdsByUser (w₅.recipients.visible p) notification.id) pairs nextAttemptAt
            h_call rfl ⟨rfl, rfl⟩ h_channels h_limits hS₇ h_open₇ (fun item h_item => ?_)
            (fun userId h_user => ?_) fun pair h_pair => ?_
          · obtain ⟨r, hr, h_r⟩ := mem_listRecipientIdsByUser.mp h_item
            exact ⟨r, hR₇.visible_recipients hr, h_r⟩
          · obtain ⟨r, hr, h_notification, h_r⟩ := h_covered₅ userId h_user
            exact ⟨r.id, mem_listRecipientIdsByUser.mpr ⟨r, hr, h_notification, h_r, rfl⟩⟩
          · exact (mem_listDeliveryPairs h_pairs).mp h_pair
        next e h_error => exact throwValueError_meets (listDeliveryPairs_error h_error)
      · refine throw_meets ?_
        unfold withinLimits at h_error
        dsimp only at h_error
        split at h_error
        · exact Except.error.inj h_error ▸ by simp
        · exact absurd h_error (by simp)
    · obtain ⟨text, -, h_text⟩ := mapM_error h_error
      exact throwValueError_meets (parseChannel_error h_text)
  next e h_error =>
    simp only [Option.some.injEq, Prod.mk.injEq] at hf
    obtain ⟨rfl, rfl⟩ := hf
    exact ⟨.nothing, fun _ => throwValueError_meets (w₁.directory.resolve_error h_error)⟩

theorem fanoutNotification_meets {service : NotificationFanoutService} {consumerName : String}
    {message : NotificationKafkaMessage}
    (h_call : d.calls p = .consume service consumerName message)
    (h_closed : w.fanoutsOf p = []) (notificationId : UUID) :
    Meets d p (service.fanoutNotification notificationId) (ConsumePost p) w := by
  refine Meets.awareUtcNow fun w₁ value w₂ hR₁ hS₁ h_w₂ hS₂ => ?_
  have h_closed₂ : w₂.fanoutsOf p = [] := by
    rw [h_w₂]
    exact hR₁.fanouts.trans h_closed
  split
  next =>
    refine Meets.unitOfWork hS₂ consumePost_stable
      (fun _ _ h => ⟨h.1, running_rollback h.1 p, h.2⟩) ?_
    refine Meets.perform fun w₃ hR₃ hS₃ i found w₄ hf => ?_
    have h_closed₃ := hR₃.fanouts.trans h_closed₂
    split at hf
    next notification h_find =>
      simp only [Option.some.injEq, Prod.mk.injEq] at hf
      obtain ⟨rfl, rfl⟩ := hf
      -- the notification is loaded, and the fan-out is open until it is committed or rolled back
      refine ⟨.openFanout notification h_closed₃ (List.mem_of_find?_eq_some h_find)
        (congrArg Call.part h_call), fun _ => fanout_meets h_call ?_⟩
      unfold OpenAs World.fanoutsOf
      rw [World.fanoutsOf] at h_closed₃
      rw [List.filter_append, h_closed₃]
      simp
    next =>
      simp only [Option.some.injEq, Prod.mk.injEq] at hf
      obtain ⟨rfl, rfl⟩ := hf
      exact ⟨.nothing, fun _ => throw_meets (by simp)⟩
  next => exact throw_meets (by simp)

/-! ### The consumer -/

theorem markProcessed_meets (consumerName : String) (eventId : UUID) :
    Meets d p (NotificationConsumerWorker.markProcessed consumerName eventId) (ConsumePost p)
      w := by
  refine Meets.awareUtcNow fun w₁ value w₂ _ _ _ hS₂ => ?_
  split
  next =>
    refine Meets.unitOfWork hS₂ consumePost_stable
      (fun _ _ h => ⟨h.1, running_rollback h.1 p, h.2⟩) ?_
    refine Meets.attempt_last consumePost_stable fun w₃ _ _ i r w₄ hf => ?_
    dsimp only at hf
    -- the row is there already, or it is added
    split at hf
    · simp only [Option.some.injEq, Prod.mk.injEq] at hf
      obtain ⟨rfl, rfl⟩ := hf
      exact ⟨.nothing, fun hK => ⟨hK, by simp⟩⟩
    · simp only [Option.some.injEq, Prod.mk.injEq] at hf
      obtain ⟨rfl, rfl⟩ := hf
      exact ⟨.markProcessed _, fun hK => ⟨hK, by simp⟩⟩
  next => exact throw_meets (by simp)

theorem alreadyProcessed_meets (consumerName : String) (eventId : UUID) (hS : Sound w)
    (h_closed : w.fanoutsOf p = []) :
    Meets d p (NotificationConsumerWorker.alreadyProcessed consumerName eventId)
      (fun r w => ConsumePost p r w ∧ w.fanoutsOf p = []) w := by
  have h_stable : ∀ r : Except PyError Bool,
      Stable p fun w => ConsumePost p r w ∧ w.fanoutsOf p = [] :=
    fun r w w' hR hS h => ⟨consumePost_stable r w w' hR hS h.1, hR.fanouts.trans h.2⟩
  refine Meets.unitOfWork hS h_stable (fun e w h => ⟨h.1.1, ⟨running_rollback h.1.1 p, h.1.2⟩, ?_⟩)
    (Meets.perform_last h_stable fun w₁ hR₁ _ i found w₂ hf => ?_)
  · have h_none : w.fanoutsOf p = [] := h.2
    simp only [World.fanoutsOf, World.rollback, List.filter_filter]
    simp
  · simp only [Option.some.injEq, Prod.mk.injEq] at hf
    obtain ⟨-, rfl⟩ := hf
    exact ⟨.nothing, fun hK => ⟨⟨hK, by simp⟩, hR₁.fanouts.trans h_closed⟩⟩

/-- The handler, for whatever payload the record carries. -/
theorem handle_meets {service : NotificationFanoutService} {consumerName : String}
    {message : NotificationKafkaMessage}
    (h_call : d.calls p = .consume service consumerName message)
    (h_closed : w.fanoutsOf p = []) (payload : Json) :
    Meets d p (NotificationConsumerWorker.handle service payload) (ConsumePost p) w := by
  unfold NotificationConsumerWorker.handle
  split
  · split
    · exact fanoutNotification_meets h_call h_closed _
    · exact throw_meets (by simp)
  · exact throw_meets (by simp)

theorem consume_meets {service : NotificationFanoutService} {consumerName : String}
    {message : NotificationKafkaMessage}
    (h_call : d.calls p = .consume service consumerName message) (hS : Sound w)
    (h_closed : w.fanoutsOf p = []) :
    Meets d p (NotificationConsumerWorker.consume service consumerName message) (ConsumePost p)
      w := by
  refine Meets.bind hS ((alreadyProcessed_meets consumerName message.eventId hS h_closed).mono
    fun r w₁ hS₁ ⟨⟨hK₁, h_error₁⟩, h_closed₁⟩ => ?_)
  -- the event has been looked up
  cases r with
  | error e => exact ⟨hK₁, throw_meets fun h => h_error₁ (congrArg _ h)⟩
  | ok seen =>
    refine ⟨hK₁, ?_⟩
    cases seen with
    | true => exact .pure fun _ _ _ hK => ⟨hK, by simp⟩
    | false =>
      -- the handler, whose exception ends the call
      refine Meets.bind hS₁ (Meets.bind hS₁ ((handle_meets h_call h_closed₁ message.payload).mono
        fun r w₂ hS₂ ⟨hK₂, h_error₂⟩ => ?_))
      cases r with
      | error e =>
        refine ⟨hK₂, .throw fun w₃ hR₃ _ hK₃ => ⟨hK₃, throw_meets fun h => ?_⟩⟩
        exact h_error₂ (congrArg _ h)
      | ok result =>
        refine ⟨hK₂, .pure fun w₃ hR₃ hS₃ hK₃ => ⟨hK₃, ?_⟩⟩
        -- the row for the event
        refine Meets.bind hS₃ ((markProcessed_meets consumerName message.eventId).mono
          fun r w₄ _ ⟨hK₄, h_error₄⟩ => ?_)
        cases r with
        | error e => exact ⟨hK₄, throw_meets fun h => h_error₄ (congrArg _ h)⟩
        | ok _ => exact ⟨hK₄, .pure fun _ _ _ hK => ⟨hK, by simp⟩⟩

end NotificationBroker
